import DfsClient.Ambient

/-! What logging and tracing leave alone. Both only add to what was observed, so
that the replies an observer will give do not depend on them. -/

namespace DfsClient
namespace Ambient

@[simp] theorem replies_emit (ambient : Ambient) (observation : Observation) :
    (ambient.emit observation).replies = ambient.replies := rfl

@[simp] theorem told_emit (ambient : Ambient) (observation : Observation) :
    (ambient.emit observation).told = ambient.told := rfl

theorem write_keeps (ambient : Ambient) (record : Log.Record) :
    (ambient.write record).replies = ambient.replies ∧ (ambient.write record).told = ambient.told := by
  unfold write
  cases ambient.sink with
  | trace => exact ⟨rfl, rfl⟩
  | logger label => exact ⟨rfl, rfl⟩
  | handler receiver =>
    dsimp only
    split
    · exact ⟨rfl, rfl⟩
    · exact ⟨rfl, rfl⟩
  | discard => exact ⟨rfl, rfl⟩

theorem log_keeps (ambient : Ambient) (level : Log.Level) (component : Log.Component)
    (message : String) :
    (ambient.log level component message).replies = ambient.replies ∧
      (ambient.log level component message).told = ambient.told := by
  unfold log
  split
  · exact write_keeps _ _
  · exact ⟨rfl, rfl⟩

/-- What an observer would respond to an event if so many others came first. -/
def responseTo (ambient : Ambient) (observer : Option Observer) (later : Nat) (event : Event) :
    Response :=
  match observer with
  | none => .proceed
  | some (.embedded _ response) => response
  | some (.handler monitor) =>
    .ofReply (ambient.replies (ambient.told + later) monitor event.deliver)

theorem responseTo_congr {ambient other : Ambient} (replies : other.replies = ambient.replies)
    (told : other.told = ambient.told) (observer : Option Observer) (later : Nat) (event : Event) :
    other.responseTo observer later event = ambient.responseTo observer later event := by
  unfold responseTo
  rw [replies, told]

theorem responseTo_log (ambient : Ambient) (level : Log.Level) (component : Log.Component)
    (message : String) (observer : Option Observer) (later : Nat) (event : Event) :
    (ambient.log level component message).responseTo observer later event =
      ambient.responseTo observer later event :=
  responseTo_congr (log_keeps ..).1 (log_keeps ..).2 observer later event

theorem tell?_response (ambient : Ambient) (observer : Option Observer) (event : Event) :
    (ambient.tell? observer event).1 = ambient.responseTo observer 0 event := by
  match observer with
  | none => rfl
  | some (.embedded _ _) => rfl
  | some (.handler _) => rfl

/-- Afterwards the observer is one response further on, whatever it was told. -/
theorem tell?_later (ambient : Ambient) (observer : Option Observer) (event next : Event)
    (later : Nat) :
    (ambient.tell? observer event).2.responseTo observer later next =
      ambient.responseTo observer (later + 1) next := by
  match observer with
  | none => rfl
  | some (.embedded _ _) => rfl
  | some (.handler _) =>
    have further : ambient.told + 1 + later = ambient.told + (later + 1) := by omega
    simp only [tell?, tell, responseTo, replies_emit, told_emit, further]

end Ambient

/-- Whoever tells an observer gets its next response, and only uses that one up. -/
theorem Scene.tell?_spec {World : Type} (scene : Scene World) (observer : Option Observer)
    (event : Event) :
    ∃ after, scene.tell? observer event = (scene.ambient.responseTo observer 0 event, after) ∧
      after.world = scene.world ∧
      ∀ later next, after.ambient.responseTo observer later next =
        scene.ambient.responseTo observer (later + 1) next := by
  refine ⟨(scene.tell? observer event).2, ?_, rfl, fun _ _ => Ambient.tell?_later ..⟩
  rw [← Ambient.tell?_response]
  rfl

end DfsClient
