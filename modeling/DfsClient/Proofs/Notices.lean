import DfsClient.Proofs.MemoryEngine

/-! What handlers are told and how they reply. Whatever an operation does for an observer
only adds to what was observed, and of all handlers it tells at most that observer's. An
operation that meets no failure reply does as it would without an observer. -/

namespace DfsClient

/-- An event as it reached a handler across the boundary. -/
structure Notice where
  monitor : Monitor
  event : Event

/-- The status with which a handler makes an operation fail. -/
def simulated : Status := .error "Simulated error"

namespace Observation

def notice? : Observation → Option Notice
  | .notified (.handler monitor) event => some ⟨monitor, event⟩
  | _ => none

def isNotified : Observation → Bool
  | .notified .. => true
  | _ => false

theorem notice?_eq_none {observation : Observation} (other : observation.isNotified = false) :
    observation.notice? = none := by
  cases observation with
  | notified => cases other
  | _ => rfl

end Observation

namespace Ambient

def notices (ambient : Ambient) : List Notice := ambient.seen.filterMap Observation.notice?

/-- The reply to a notice that comes after so many others. -/
def replyTo (ambient : Ambient) (earlier : Nat) (notice : Notice) : Int32 :=
  ambient.replies earlier notice.monitor notice.event

/-- How the handlers replied to all that they were told. -/
def replied (ambient : Ambient) : List Int32 := ambient.notices.mapIdx ambient.replyTo

/-- How the handlers reply to what they are told next. -/
def repliesTo (ambient : Ambient) (fresh : List Notice) : List Int32 :=
  fresh.mapIdx fun index => ambient.replyTo (ambient.told + index)

def Counted (ambient : Ambient) : Prop := ambient.told = ambient.notices.length

/-- The handlers never ask for a failure, whatever they are told. -/
def Kind (ambient : Ambient) : Prop :=
  ∀ earlier monitor event, ambient.replies earlier monitor event ≠ failureReply

theorem Kind.repliesTo {ambient : Ambient} (kind : ambient.Kind) (fresh : List Notice) :
    failureReply ∉ ambient.repliesTo fresh := by
  intro member
  obtain ⟨index, known, same⟩ := List.mem_mapIdx.mp member
  exact kind _ _ _ same

theorem Kind.replied {ambient : Ambient} (kind : ambient.Kind) : failureReply ∉ ambient.replied := by
  intro member
  obtain ⟨index, known, same⟩ := List.mem_mapIdx.mp member
  exact kind _ _ _ same

/-- What the handlers of one observer were told in between. -/
structure Hears (observer : Option Observer) (fresh : List Notice) (before after : Ambient) : Prop where
  replies : after.replies = before.replies
  told : after.told = before.told + fresh.length
  notices : after.notices = before.notices ++ fresh
  addressed : ∀ notice ∈ fresh, observer = some (.handler notice.monitor)

/-- The same for an operation that leaves the log settings alone. Only a handler of records
that fires once takes itself down. -/
structure Tells (observer : Option Observer) (fresh : List Notice) (before after : Ambient) : Prop
    extends Hears observer fresh before after where
  filter : after.filter = before.filter
  sink : after.sink = before.sink ∨ after.sink = .discard
  seen : before.seen <+: after.seen

variable {observer : Option Observer} {first second fresh : List Notice} {before between after : Ambient}

namespace Hears

theorem refl (observer : Option Observer) (ambient : Ambient) : Hears observer [] ambient ambient :=
  ⟨rfl, rfl, (List.append_nil _).symm, nofun⟩

theorem trans (one : Hears observer first before between) (other : Hears observer second between after) :
    Hears observer (first ++ second) before after := by
  refine ⟨other.replies.trans one.replies, ?_, ?_, fun notice member => ?_⟩
  · rw [other.told, one.told, List.length_append, Nat.add_assoc]
  · rw [other.notices, one.notices, List.append_assoc]
  · cases List.mem_append.mp member with
    | inl earlier => exact one.addressed notice earlier
    | inr later => exact other.addressed notice later

theorem then_silence (hears : Hears observer fresh before between) (silence : Hears observer [] between after) :
    Hears observer fresh before after := by
  have all := hears.trans silence
  rw [List.append_nil] at all
  exact all

theorem counted (hears : Hears observer fresh before after) (counted : before.Counted) : after.Counted := by
  unfold Counted
  rw [hears.told, hears.notices, List.length_append, counted]

/-- All replies are the replies before and the replies to what is new. -/
theorem replied (hears : Hears observer fresh before after) (counted : before.Counted) :
    after.replied = before.replied ++ before.repliesTo fresh := by
  have same : after.replyTo = before.replyTo := by
    funext earlier notice
    exact congrFun (congrFun (congrFun hears.replies earlier) notice.monitor) notice.event
  have shifted : (fun index => before.replyTo (before.told + index)) =
      fun index => before.replyTo (index + before.notices.length) := by
    funext index
    rw [counted, Nat.add_comm]
  unfold Ambient.replied repliesTo
  rw [hears.notices, same, List.mapIdx_append, shifted]

theorem repliesTo_eq (silence : Hears observer [] before after) (fresh : List Notice) :
    after.repliesTo fresh = before.repliesTo fresh := by
  have same : after.replyTo = before.replyTo := by
    funext earlier notice
    exact congrFun (congrFun (congrFun silence.replies earlier) notice.monitor) notice.event
  unfold repliesTo
  rw [same, silence.told, List.length_nil, Nat.add_zero]

end Hears

namespace Tells

theorem refl (observer : Option Observer) (ambient : Ambient) : Tells observer [] ambient ambient :=
  ⟨.refl observer ambient, rfl, .inl rfl, List.prefix_rfl⟩

theorem trans (one : Tells observer first before between) (other : Tells observer second between after) :
    Tells observer (first ++ second) before after := by
  refine ⟨one.toHears.trans other.toHears, other.filter.trans one.filter, ?_, one.seen.trans other.seen⟩
  cases other.sink with
  | inl same => exact one.sink.imp same.trans same.trans
  | inr gone => exact .inr gone

theorem then_silence (tells : Tells observer fresh before between) (silence : Tells observer [] between after) :
    Tells observer fresh before after := by
  have all := tells.trans silence
  rw [List.append_nil] at all
  exact all

theorem emit (observer : Option Observer) (ambient : Ambient) {observation : Observation}
    (other : observation.isNotified = false) : Tells observer [] ambient (ambient.emit observation) := by
  refine ⟨⟨rfl, rfl, ?_, nofun⟩, rfl, .inl rfl, List.prefix_append ..⟩
  unfold notices Ambient.emit
  rw [List.filterMap_append, List.filterMap_cons, Observation.notice?_eq_none other]
  rfl

theorem trace (observer : Option Observer) (ambient : Ambient) (trace : Trace) :
    Tells observer [] ambient (ambient.trace trace) :=
  emit observer ambient rfl

theorem write (observer : Option Observer) (ambient : Ambient) (record : Log.Record) :
    Tells observer [] ambient (ambient.write record) := by
  unfold Ambient.write
  cases ambient.sink with
  | trace => exact trace observer ambient _
  | logger label => exact emit observer ambient rfl
  | handler receiver =>
    have delivered := emit observer ambient
      (show (Observation.delivered receiver.label record.deliver).isNotified = false from rfl)
    dsimp only
    split
    · exact ⟨⟨delivered.replies, delivered.told, delivered.notices, nofun⟩, delivered.filter, .inr rfl,
        delivered.seen⟩
    · exact delivered
  | discard => exact refl observer ambient

theorem log (observer : Option Observer) (ambient : Ambient) (level : Log.Level)
    (component : Log.Component) (message : String) :
    Tells observer [] ambient (ambient.log level component message) := by
  unfold Ambient.log
  split
  · exact write observer ambient _
  · exact refl observer ambient

end Tells

/-- The surroundings as they would be if no observer had been attached. -/
def unobserved (ambient : Ambient) : Ambient :=
  { ambient with
    replies := fun _ _ _ => 0
    told := 0
    seen := ambient.seen.filter fun observation => !observation.isNotified }

theorem unobserved_emit (ambient : Ambient) {observation : Observation}
    (other : observation.isNotified = false) :
    (ambient.emit observation).unobserved = ambient.unobserved.emit observation := by
  unfold unobserved Ambient.emit
  simp only [List.filter_append, List.filter_cons, other, Bool.not_false, ↓reduceIte, List.filter_nil]

theorem unobserved_trace (ambient : Ambient) (trace : Trace) :
    (ambient.trace trace).unobserved = ambient.unobserved.trace trace :=
  unobserved_emit ambient rfl

theorem unobserved_write (ambient : Ambient) (record : Log.Record) :
    (ambient.write record).unobserved = ambient.unobserved.write record := by
  unfold write
  rw [show ambient.unobserved.sink = ambient.sink from rfl]
  cases ambient.sink with
  | trace => exact unobserved_trace ambient _
  | logger label => exact unobserved_emit ambient rfl
  | handler receiver =>
    have delivered := unobserved_emit ambient
      (show (Observation.delivered receiver.label record.deliver).isNotified = false from rfl)
    dsimp only
    rw [← delivered]
    split
    · rfl
    · rfl
  | discard => rfl

theorem unobserved_log (ambient : Ambient) (level : Log.Level) (component : Log.Component)
    (message : String) :
    (ambient.log level component message).unobserved = ambient.unobserved.log level component message := by
  unfold log
  rw [show ambient.unobserved.filter = ambient.filter from rfl]
  split
  · exact unobserved_write ambient _
  · rfl

theorem unobserved_tell? (ambient : Ambient) (observer : Option Observer) (event : Event) :
    (ambient.tell? observer event).2.unobserved = ambient.unobserved := by
  have gone (told : Nat) (one : Observer) (event : Event) :
      Ambient.unobserved ({ ambient with told }.emit (.notified one event)) = ambient.unobserved := by
    unfold unobserved emit
    simp only [List.filter_append, List.filter_cons, Observation.isNotified, Bool.not_true,
      Bool.false_eq_true, ↓reduceIte, List.filter_nil, List.append_nil]
  match observer with
  | none => rfl
  | some (.handler monitor) => exact gone (ambient.told + 1) _ _
  | some (.embedded tag response) => exact gone ambient.told _ _

theorem tells_handler (ambient : Ambient) (monitor : Monitor) (event : Event) :
    Tells (some (.handler monitor)) [⟨monitor, event.deliver⟩] ambient
      (ambient.tell (.handler monitor) event).2 := by
  refine ⟨⟨rfl, rfl, ?_, fun notice member => ?_⟩, rfl, .inl rfl, List.prefix_append ..⟩
  · exact List.filterMap_append
  · rw [List.mem_singleton.mp member]

theorem repliesTo_single (ambient : Ambient) (notice : Notice) :
    ambient.repliesTo [notice] = [ambient.replyTo ambient.told notice] := rfl

end Ambient

def Scene.unobserved {World : Type} (scene : Scene World) : Scene World :=
  { scene with ambient := scene.ambient.unobserved }

/-- What comes of telling the observer of a session or a file, by the reply to it. -/
inductive Scene.Consults {World : Type} (scene : Scene World) (observer : Option Observer) :
    Response × Scene World → Prop
  | quiet {fresh : List Notice} {after : Scene World} (tells : scene.ambient.Tells observer fresh after.ambient)
      (kind : failureReply ∉ scene.ambient.repliesTo fresh) (silent : after.unobserved = scene.unobserved) :
      Consults scene observer (.proceed, after)
  | fault {fresh : List Notice} {ambient : Ambient} (tells : scene.ambient.Tells observer fresh ambient)
      (unkind : failureReply ∈ scene.ambient.repliesTo fresh) :
      Consults scene observer (.fail simulated, { scene with ambient })

theorem Scene.tell?_consults {World : Type} (scene : Scene World) {observer : Option Observer}
    (crossing : Crossing observer) (event : Event) :
    scene.Consults observer (scene.tell? observer event) := by
  cases observer with
  | none => exact .quiet (.refl none scene.ambient) List.not_mem_nil rfl
  | some one =>
    obtain ⟨monitor, rfl⟩ := crossing one rfl
    have tells := scene.ambient.tells_handler monitor event
    have silent := congrArg (Scene.mk · scene.world)
      (scene.ambient.unobserved_tell? (some (.handler monitor)) event)
    let reply := scene.ambient.replyTo scene.ambient.told ⟨monitor, event.deliver⟩
    have told : scene.tell? (some (.handler monitor)) event =
        (.ofReply reply, { scene with ambient := (scene.ambient.tell (.handler monitor) event).2 }) := rfl
    rw [told]
    have asked := scene.ambient.repliesTo_single ⟨monitor, event.deliver⟩
    by_cases failing : reply = failureReply
    · rw [Response.ofReply, if_pos failing]
      refine .fault tells ?_
      rw [asked]
      exact List.mem_singleton.mpr failing.symm
    · rw [Response.ofReply, if_neg failing]
      refine .quiet tells ?_ silent
      rw [asked]
      exact fun member => failing (List.mem_singleton.mp member).symm

/-- What an operation does for an observer: it goes as it would unobserved, unless a failure
reply makes it end in its fault. -/
inductive Obeys {τ : Type} (observer : Option Observer) (before : Ambient) (erase : τ → τ)
    (surroundings : τ → Ambient) (fault : Ambient → τ) (bare got : τ) : Prop
  | quiet {fresh : List Notice} (hears : before.Hears observer fresh (surroundings got))
      (kind : failureReply ∉ before.repliesTo fresh) (same : bare = erase got)
  | fault {fresh : List Notice} {ambient : Ambient} (tells : before.Tells observer fresh ambient)
      (unkind : failureReply ∈ before.repliesTo fresh) (same : got = fault ambient)

namespace Obeys

variable {τ σ : Type} {observer : Option Observer} {start before : Ambient} {erase : τ → τ}
  {surroundings : τ → Ambient} {fault : Ambient → τ} {bare got : τ}

/-- What tells nobody goes as it would unobserved. -/
theorem silent (hears : before.Hears observer [] (surroundings got)) (same : bare = erase got) :
    Obeys observer before erase surroundings fault bare got :=
  .quiet hears List.not_mem_nil same

/-- What the handlers reply to what they were told says which way the operation went. -/
theorem told_apart (obeys : Obeys observer before erase surroundings fault bare got)
    (left : ∀ ambient, surroundings (fault ambient) = ambient) :
    ∃ fresh, before.Hears observer fresh (surroundings got) ∧
      (failureReply ∉ before.repliesTo fresh → bare = erase got) ∧
      (failureReply ∈ before.repliesTo fresh →
        ∃ ambient, before.Tells observer fresh ambient ∧ got = fault ambient) := by
  cases obeys with
  | @quiet fresh hears kind same => exact ⟨fresh, hears, fun _ => same, fun unkind => absurd unkind kind⟩
  | @fault fresh ambient tells unkind same =>
    have hears := tells.toHears
    rw [← left ambient, ← same] at hears
    exact ⟨fresh, hears, fun kind => absurd unkind kind, fun _ => ⟨ambient, tells, same⟩⟩

/-- What happened before without telling anybody makes no difference. -/
theorem after_silence (tells : start.Tells observer [] before)
    (obeys : Obeys observer before erase surroundings fault bare got) :
    Obeys observer start erase surroundings fault bare got := by
  cases obeys with
  | quiet hears kind same =>
    rw [tells.repliesTo_eq] at kind
    exact .quiet (tells.toHears.trans hears) kind same
  | fault later unkind same =>
    rw [tells.repliesTo_eq] at unkind
    exact .fault (tells.trans later) unkind same

/-- What goes on with the result of an operation, and tells nobody, obeys as the operation does. -/
theorem lift {erase' : σ → σ} {surroundings' : σ → Ambient} {fault' : Ambient → σ} {bare' got' : σ}
    (obeys : Obeys observer before erase surroundings fault bare got)
    (quiet : bare = erase got →
      (surroundings got).Hears observer [] (surroundings' got') ∧ bare' = erase' got')
    (failed : ∀ ambient, got = fault ambient →
      ∃ last, ambient.Tells observer [] last ∧ got' = fault' last) :
    Obeys observer before erase' surroundings' fault' bare' got' := by
  cases obeys with
  | quiet hears kind same =>
    obtain ⟨more, same⟩ := quiet same
    exact .quiet (hears.then_silence more) kind same
  | fault tells unkind same =>
    obtain ⟨last, more, same⟩ := failed _ same
    exact .fault (tells.then_silence more) unkind same

end Obeys
end DfsClient
