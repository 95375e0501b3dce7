import DfsClient.Proofs.Announcements
import DfsClient.Proofs.Owners
import DfsClient.Proofs.Serving

/-! What sessions and files are about. A session is bound to the cluster that was announced when it
connected, and a file is of the cluster and the path that were announced when it was opened. -/

namespace DfsClient
open Boundary

namespace Memory

/-- What is bound to a cluster is bound to the one that an event names. -/
def World.Named (world : World) (cluster : Option ClusterId) (due : Option Event) : Prop :=
  ∃ id event, cluster = some id ∧ due = some event ∧ event.cluster = (world.clusters id).name

/-- A file is of the cluster that the event of its opening names, and of the path that was given. -/
def File.OpenedAs (file : File) (due : Option Event) (path : Given) : Prop :=
  ∃ event, due = some event ∧ event.cluster = file.cluster ∧ textOf? path = some file.path

namespace World

theorem nameAt_of_reach {world : World} {engine : EngineId} {host : String} {port : UInt16} {id : ClusterId}
    (reached : world.reach? engine host port = some id) :
    world.nameAt engine host port = (world.clusters id).name := by
  unfold nameAt
  rw [reached]

end World

namespace Session

variable {session : Session} {scene : Scene World}

theorem connectTo_binds {host : String} {port : UInt16} (done : (session.connectTo host port scene).1 = .ok ()) :
    scene.world.Named (session.connectTo host port scene).2.1.cluster
      (some (scene.world.connecting session.engine host port)) := by
  rw [connectTo_eq] at done ⊢
  dsimp only at done ⊢
  generalize Scene.tell? _ _ _ = got at done ⊢
  obtain ⟨response, after⟩ := got
  cases response with
  | fail status => cases done
  | proceed =>
    cases reached : scene.world.reach? session.engine host port with
    | none =>
      rw [reached] at done
      cases done
    | some id =>
      rw [reached] at done
      refine ⟨id, _, ?_, rfl, World.nameAt_of_reach reached⟩
      unfold arrive at done ⊢
      dsimp only at done ⊢
      split at done
      · cases done
      next admitted =>
        rw [if_neg admitted]

theorem connect_binds {host : String} {port : UInt16}
    (done : (session.connect host (toString port.toNat) scene).1 = .ok ()) :
    scene.world.Named (session.connect host (toString port.toNat) scene).2.1.cluster
      (some (scene.world.connecting session.engine host port)) := by
  unfold connect at done ⊢
  rw [port?_toString] at done ⊢
  exact connectTo_binds done

theorem reach_binds {session : Session} {scene : Scene World} {endpoint : Endpoint}
    (done : (@reach Memory.engine session endpoint scene).1 = .ok ()) :
    scene.world.Named (@reach Memory.engine session endpoint scene).2.1.cluster
      (scene.world.dueConnect? session.engine session.options endpoint) := by
  unfold reach at done ⊢
  cases endpoint with
  | explicit host port =>
    rw [engine_connect] at done ⊢
    dsimp only at done ⊢
    -- Once they have a name, the results of the connect are compared, not computed.
    have binds := @connect_binds session scene host port
    generalize session.connect host (toString port.toNat) scene = got at binds done ⊢
    exact binds done
  | defaultFs =>
    rw [engine_connectDefault] at done ⊢
    unfold World.dueConnect? World.dueAt? address? configured?
    dsimp only at done ⊢
    unfold connectDefault at done ⊢
    cases configured : session.options.defaultFs with
    | none =>
      rw [configured] at done
      cases done
    | some url =>
      rw [configured] at done
      dsimp only [Option.bind_some] at done ⊢
      cases named : url.host? with
      | none =>
        rw [named] at done
        cases done
      | some host =>
        rw [named] at done
        dsimp only [Option.map_some] at done ⊢
        have binds := @connect_binds session scene host (url.port?.getD defaultPort)
        generalize session.connect host (toString (url.port?.getD defaultPort).toNat) scene = got at binds done ⊢
        exact binds done

end Session
end Memory

namespace Boundary.Caller
open Memory

variable {caller : Caller engine.World} {session : engine.Session}

theorem connect_binds {host : Option String} {port : Option UInt16} {user : Option String} {options : Options}
    (made : (caller.connect (.resolve host port) user options).1 = some session) :
    World.Named caller.scene.world (Session.cluster session)
      (World.dueAt? caller.scene.world (World.installed caller.scene.world) (addressOf? options host port)) := by
  rw [connect_eq] at made
  obtain ⟨reached, same, -⟩ := concluding_some made
  have named := Session.reach_binds reached
  rw [same] at named
  -- The service that runs by now makes no difference to what is reached.
  have due := World.Like.dueConnect (World.Like.setServices caller.scene.world
    (World.installed caller.scene.world) (World.services caller.scene.world (World.installed caller.scene.world) + 1))
    (World.installed caller.scene.world) options (.resolve host port)
  have resolved := World.dueConnect?_resolve caller.scene.world (World.installed caller.scene.world) options host port
  obtain ⟨id, event, bound, announced, name⟩ := named
  exact ⟨id, event, bound, resolved.symm.trans (due.symm.trans announced), name⟩

theorem connectDirect_binds {host : Given} {port : UInt16} {user : Given}
    (made : (caller.connectDirect host port user).1 = some session) :
    World.Named caller.scene.world (Session.cluster session) (dueConnect? caller.scene.world host port user) := by
  unfold connectDirect at made
  unfold dueConnect?
  rw [optionalText_eq, optionalText_eq] at made
  cases named : optionalOf? host with
  | none =>
    rw [named] at made
    cases made
  | some host =>
    rw [named] at made
    cases known : optionalOf? user with
    | none =>
      rw [known] at made
      cases made
    | some user =>
      rw [known] at made
      exact connect_binds made

theorem connectBuilder_binds [Formats] {builder : Option Builder}
    (made : (caller.connectBuilder builder).1 = some session) :
    World.Named caller.scene.world (Session.cluster session) (dueBuilder? caller.scene.world builder) := by
  cases builder with
  | none => cases made
  | some builder =>
    have named := @connect_binds { caller with scene := (caller.scene.optionsOf builder.snapshot).2 }
      session _ _ _ _ made
    rw [world_optionsOf caller.scene builder.snapshot] at named
    exact named

theorem dueOpen?_bound (world : World) {path : Given} {text : String} (given : textOf? path = some text)
    {session : Session} {id : ClusterId} (bound : session.cluster = some id) :
    dueOpen? world (some session) path = some ⟨"NN::read", (world.clusters id).name, none, 0⟩ := by
  unfold dueOpen?
  rw [given]
  exact congrArg (Option.map _) bound

/-- What an opened file is, in all its parts. -/
theorem openFile_made {session : Option engine.Session} {path : Given} {file : engine.File}
    (opened : (caller.openFile session path).1 = some file) :
    ∃ (held : Session) (text : String) (id : ClusterId) (content : List UInt8),
      session = some held ∧ textOf? path = some text ∧ held.cluster = some id ∧
      (World.clusters caller.scene.world id).files.get? text = some content ∧
      file = { cluster := (World.clusters caller.scene.world id).name, path := text, bytes := content
               observer := caller.slots.fileObserver : File } := by
  cases session with
  | none => cases opened
  | some held =>
    cases given : textOf? path with
    | none =>
      simp only [Caller.openFile, requiredText_of_textOf?_none given] at opened
      cases opened
    | some text =>
      rw [openFile_given caller held (requiredText_of_textOf? given "path")] at opened
      have made := @Session.openFile_ok held text caller.scene
      generalize Session.openFile held text caller.scene = got at made opened
      obtain ⟨result, scene⟩ := got
      cases result with
      | panicked payload => cases opened
      | answered outcome =>
        cases outcome with
        | error status => cases opened
        | ok fresh =>
          obtain ⟨id, content, bound, there, rfl⟩ := made rfl
          have adopted := (opening_ok rfl rfl).symm.trans opened
          exact ⟨held, text, id, content, rfl, rfl, bound, there, (Option.some.inj adopted).symm⟩

end Boundary.Caller

namespace Client
open Memory

variable {client : Client engine} {thread : Nat} {name : String}

theorem find_connected {got : Option engine.Session × Caller engine.World} {session : engine.Session}
    (made : got.1 = some session) :
    (client.connected thread (some name) got).2.sessions.get? name = some session := by
  have kept := congrArg Holdings.sessions
    ((client.resume thread got.2).holdings_replaceSession (some name) got.1)
  refine (congrArg (Table.get? · name) kept).trans ?_
  rw [made]
  exact Table.get?_update_same ..

theorem find_opened {session : Handle} {file : engine.File}
    {got : Option engine.File × Option engine.Session × Caller engine.World} (made : got.1 = some file) :
    (client.opened thread session (some name) got).2.files.get? name = some file := by
  have kept := congrArg Holdings.files (holdings_replaceFile
    { client.resume thread got.2.2 with sessions := client.sessions.update session got.2.1 } (some name) got.1)
  refine (congrArg (Table.get? · name) kept).trans ?_
  rw [made]
  exact Table.get?_update_same ..

/-- A session that was made is bound to the cluster that was announced. -/
theorem call_binds [Formats] {call : Call} (makes : call.newSession? = some (some name))
    (made : (client.call thread call).1 = .handle true) :
    ∃ session : Session, (client.call thread call).2.sessions.get? name = some session ∧
      client.scene.world.Named session.cluster (client.due? call) := by
  have present {got : Option engine.Session} (done : Answer.handle got.isSome = .handle true) :
      ∃ session, got = some session := Option.isSome_iff_exists.mp (Answer.handle.inj done)
  cases call with
  | connect host port user into =>
    cases makes
    obtain ⟨session, same⟩ := present made
    exact ⟨session, find_connected same, Caller.connectDirect_binds same⟩
  | connectBuilder builder into =>
    cases makes
    obtain ⟨session, same⟩ := present made
    exact ⟨session, find_connected same, Caller.connectBuilder_binds same⟩
  | _ => cases makes

/-- A file that was opened is of the cluster that was announced and of the path that was given. -/
theorem call_opens [Formats] {session : Handle} {path : Given}
    (opened : (client.call thread (.openFile session path (some name))).1 = .handle true) :
    ∃ file : File, (client.call thread (.openFile session path (some name))).2.files.get? name = some file ∧
      file.OpenedAs (client.due? (.openFile session path (some name))) path := by
  obtain ⟨file, made⟩ := Option.isSome_iff_exists.mp (Answer.handle.inj opened)
  obtain ⟨held, text, id, content, found, given, bound, there, whole⟩ := Caller.openFile_made made
  subst whole
  refine ⟨_, find_opened made, ⟨"NN::read", (client.scene.world.clusters id).name, none, 0⟩, ?_, rfl, given⟩
  have due := Caller.dueOpen?_bound client.scene.world given bound
  exact (congrArg (Caller.dueOpen? client.scene.world · path) found).trans due

end Client
end DfsClient
