import DfsClient.Engine.Basic

/-! Two engines side by side, of which one is installed at a time. Sessions and
files stay with the engine that made them. -/

namespace DfsClient

inductive Side where
  | first
  | second
deriving DecidableEq, Repr

namespace Engine

variable (a b : Engine)

structure BothWorlds where
  first : a.World
  second : b.World
  installed : Side

variable {a b}

def onFirst {α : Type} (operation : Scene a.World → α × Scene a.World)
    (scene : Scene (BothWorlds a b)) : α × Scene (BothWorlds a b) :=
  let (answer, inner) := operation ⟨scene.ambient, scene.world.first⟩
  (answer, ⟨inner.ambient, { scene.world with first := inner.world }⟩)

def onSecond {α : Type} (operation : Scene b.World → α × Scene b.World)
    (scene : Scene (BothWorlds a b)) : α × Scene (BothWorlds a b) :=
  let (answer, inner) := operation ⟨scene.ambient, scene.world.second⟩
  (answer, ⟨inner.ambient, { scene.world with second := inner.world }⟩)

/-- Runs a method of an object of either engine and puts the object back on its side. -/
def onEither {X Y α : Type}
    (onX : X → Scene a.World → α × X × Scene a.World)
    (onY : Y → Scene b.World → α × Y × Scene b.World)
    (object : X ⊕ Y) (scene : Scene (BothWorlds a b)) : α × (X ⊕ Y) × Scene (BothWorlds a b) :=
  match object with
  | .inl x =>
    let ((answer, x), scene) := onFirst (fun scene =>
      let (answer, x, scene) := onX x scene
      ((answer, x), scene)) scene
    (answer, .inl x, scene)
  | .inr y =>
    let ((answer, y), scene) := onSecond (fun scene =>
      let (answer, y, scene) := onY y scene
      ((answer, y), scene)) scene
    (answer, .inr y, scene)

/-- Runs an operation that uses an object of either engine up. -/
def finish {X Y α : Type} (onX : X → Scene a.World → α × Scene a.World)
    (onY : Y → Scene b.World → α × Scene b.World) (object : X ⊕ Y)
    (scene : Scene (BothWorlds a b)) : α × Scene (BothWorlds a b) :=
  match object with
  | .inl x => onFirst (onX x) scene
  | .inr y => onSecond (onY y) scene

def silently {World : Type} (operation : Scene World → Scene World) (scene : Scene World) :
    Unit × Scene World := ((), operation scene)

variable (a b)

def choice : Engine where
  World := BothWorlds a b
  Service := a.Service ⊕ b.Service
  Session := a.Session ⊕ b.Session
  File := a.File ⊕ b.File
  newService scene :=
    match scene.world.installed with
    | .first =>
      let (reply, scene) := onFirst a.newService scene
      (reply.map .inl, scene)
    | .second =>
      let (reply, scene) := onSecond b.newService scene
      (reply.map .inr, scene)
  newSession service user options scene :=
    match service with
    | .inl service =>
      let (reply, scene) := onFirst (a.newSession service user options) scene
      (reply.map (Option.map .inl), scene)
    | .inr service =>
      let (reply, scene) := onSecond (b.newSession service user options) scene
      (reply.map (Option.map .inr), scene)
  observeSession session observer :=
    onEither (a.observeSession · observer) (b.observeSession · observer) session
  connect session host service :=
    onEither (a.connect · host service) (b.connect · host service) session
  connectDefault := onEither a.connectDefault b.connectDefault
  openFile session path scene :=
    match session with
    | .inl session =>
      let ((result, session), scene) := onFirst (fun scene =>
        let (result, session, scene) := a.openFile session path scene
        ((result, session), scene)) scene
      (result.map (Except.map .inl), .inl session, scene)
    | .inr session =>
      let ((result, session), scene) := onSecond (fun scene =>
        let (result, session, scene) := b.openFile session path scene
        ((result, session), scene)) scene
      (result.map (Except.map .inr), .inr session, scene)
  dropSession := finish a.dropSession b.dropSession
  abandonSession session scene :=
    (finish (fun s => silently (a.abandonSession s)) (fun s => silently (b.abandonSession s))
      session scene).2
  observeFile file observer :=
    onEither (a.observeFile · observer) (b.observeFile · observer) file
  read file length := onEither (a.read · length) (b.read · length) file
  readAt file length offset := onEither (a.readAt · length offset) (b.readAt · length offset) file
  seek file target := onEither (a.seek · target) (b.seek · target) file
  cancel := onEither a.cancel b.cancel
  dropFile := finish a.dropFile b.dropFile
  abandonFile file scene :=
    (finish (fun f => silently (a.abandonFile f)) (fun f => silently (b.abandonFile f)) file scene).2

end Engine
end DfsClient
