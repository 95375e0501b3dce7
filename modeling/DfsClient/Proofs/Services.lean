import DfsClient.Proofs.Reachable

/-! The services that engines run. A ledger that knows only the steps of a program and the
answers to them says at any time how many services every engine runs. -/

namespace DfsClient
open Memory

/-- Accounts of sessions: the engine that is installed, the number of engines, and for every
session that is held the engine that was installed when it was made. -/
structure Ledger where
  installed : EngineId := 0
  engines : Nat := 1
  held : Table EngineId := {}

namespace Ledger

/-- A call that makes sessions puts one into its handle, or leaves none there. One that ends a
session takes it out. -/
def noteCall (ledger : Ledger) (call : Call) (answer : Answer) : Ledger :=
  match call.newSession?, call.endedSession? with
  | some into, _ =>
    let made := if answer = .handle true then some ledger.installed else none
    { ledger with held := ledger.held.update into made }
  | none, some session =>
    if answer = .code 0 then { ledger with held := ledger.held.update session none } else ledger
  | none, none => ledger

def note (ledger : Ledger) (act : Act) (answer : Answer) : Ledger :=
  match act with
  | .call _ call => ledger.noteCall call answer
  | .installNew => { ledger with installed := ledger.engines, engines := ledger.engines + 1 }
  | .install engine => if engine < ledger.engines then { ledger with installed := engine } else ledger
  | _ => ledger

def noteAll (ledger : Ledger) : List Act → List Answer → Ledger
  | act :: acts, answer :: answers => (ledger.note act answer).noteAll acts answers
  | _, _ => ledger

def running (ledger : Ledger) (engine : EngineId) : Nat := ledger.held.count (· == engine)

theorem noteCall_plain {call : Call} {answer : Answer} (plain : call.plain answer) (ledger : Ledger) :
    ledger.noteCall call answer = ledger := by
  obtain ⟨none, other⟩ := plain
  unfold noteCall
  rw [none]
  cases ended : call.endedSession? with
  | none => rfl
  | some session =>
    have refused : answer ≠ .code 0 := other.resolve_left (by simp [ended])
    dsimp only
    rw [if_neg refused]

end Ledger

namespace Holdings

variable {held after : Holdings}

/-- What a ledger should say about what is held. -/
def ledger (held : Holdings) : Ledger where
  installed := held.world.installed
  engines := held.world.engineCount
  held := held.sessions.map Session.engine

theorem worldWithout_keeps (world : World) (surplus : Option Session) :
    (worldWithout world surplus).installed = world.installed ∧
      (worldWithout world surplus).engineCount = world.engineCount := by
  cases surplus with
  | none => exact ⟨rfl, rfl⟩
  | some session => exact ⟨rfl, rfl⟩

theorem ledger_keepSession (held : Holdings) (into : Handle) (got : Option Session) :
    (held.keepSession into got).ledger =
      { held.ledger with held := held.ledger.held.update into (got.map Session.engine) } := by
  obtain ⟨installed, engines⟩ := worldWithout_keeps held.world (held.sessions.surplus into got)
  unfold ledger keepSession
  dsimp only
  rw [installed, engines, Table.map_update]

theorem newSession_ended {call : Call} {session : Handle} (ends : call.endedSession? = some session) :
    call.newSession? = none := by
  cases call with
  | disconnect => rfl
  | _ => cases ends

theorem Changes.ledger {thread : Nat} {call : Call} {answer : Answer}
    (changes : Changes thread held call answer after) :
    after.ledger = held.ledger.noteCall call answer := by
  cases changes with
  | connects asks engine observer bound =>
    rw [ledger_keepSession, Ledger.noteCall, asks, Option.map_some, engine]
    rfl
  | connectsNot asks =>
    rw [ledger_keepSession, Ledger.noteCall, asks]
    rfl
  | disconnects asks found =>
    rw [ledger_keepSession, Ledger.noteCall, newSession_ended asks, asks]
    rfl
  | opens asks => exact (Ledger.noteCall_plain (Call.plain_opens asks _) _).symm
  | opensNot asks => exact (Ledger.noteCall_plain (Call.plain_opens asks _) _).symm
  | uses asks => exact (Ledger.noteCall_plain (Call.plain_uses asks _) _).symm
  | closes asks => exact (Ledger.noteCall_plain (Call.plain_closes asks _) _).symm
  | awaitsSessions asks | awaitsFiles asks =>
    subst asks
    exact (Ledger.noteCall_plain ⟨rfl, .inl rfl⟩ _).symm
  | nothing idle => exact (Ledger.noteCall_plain idle.plain _).symm

/-- Every engine runs one service for every session that it made and that is held. -/
structure Tallied (held : Holdings) : Prop where
  names : held.sessions.names.Nodup
  installed : held.world.installed < held.world.engineCount
  made : held.sessions.Each fun session => session.engine < held.world.engineCount
  services : ∀ id, held.world.services id = held.sessions.count fun session => session.engine == id

theorem services_addService (world : World) (id other : EngineId) :
    (world.addService id).services other = world.services other + ((id == other).toNat : Int) := by
  unfold World.services World.addService
  by_cases same : other = id
  · subst same
    rw [World.engines_setEngine_same, beq_self_eq_true]
    rfl
  · rw [World.engines_setEngine_other _ _ same, beq_false_of_ne (Ne.symm same)]
    exact (Int.add_zero _).symm

theorem services_removeService (world : World) (id other : EngineId) :
    (world.removeService id).services other = world.services other - ((id == other).toNat : Int) := by
  unfold World.services World.removeService
  by_cases same : other = id
  · subst same
    rw [World.engines_setEngine_same, beq_self_eq_true]
    rfl
  · rw [World.engines_setEngine_other _ _ same, beq_false_of_ne (Ne.symm same)]
    exact (Int.sub_zero _).symm

theorem services_worldWithout (world : World) (surplus : Option Session) (id : EngineId) :
    (worldWithout world surplus).services id =
      world.services id - (surplus.elim 0 fun session => (session.engine == id).toNat : Nat) := by
  cases surplus with
  | none => exact (Int.sub_zero _).symm
  | some session => exact services_removeService world session.engine id

/-- If a service runs for what a handle is about to get, services match sessions afterwards. -/
theorem services_keepSession (distinct : held.sessions.names.Nodup) (into : Handle)
    {got : Option Session} {id : EngineId} (served : held.world.services id =
      (held.sessions.count (fun session => session.engine == id) +
        got.elim 0 fun session => (session.engine == id).toNat : Nat)) :
    (held.keepSession into got).world.services id =
      (held.keepSession into got).sessions.count fun session => session.engine == id := by
  have counted := Table.count_update (fun session : Session => session.engine == id) distinct into got
  have released := services_worldWithout held.world (held.sessions.surplus into got) id
  change (worldWithout held.world (held.sessions.surplus into got)).services id =
    (held.sessions.update into got).count _
  omega

theorem Tallied.keepSession {into : Handle} {got : Option Session} (distinct : held.sessions.names.Nodup)
    (installed : held.world.installed < held.world.engineCount)
    (made : held.sessions.Each fun session => session.engine < held.world.engineCount)
    (known : ∀ session, got = some session → session.engine < held.world.engineCount)
    (served : ∀ id, held.world.services id =
      (held.sessions.count (fun session => session.engine == id) +
        got.elim 0 fun session => (session.engine == id).toNat : Nat)) :
    (held.keepSession into got).Tallied := by
  obtain ⟨same, count⟩ := worldWithout_keeps held.world (held.sessions.surplus into got)
  refine ⟨Table.nodup_update distinct into got, ?_, ?_, fun id => services_keepSession distinct into (served id)⟩
  · change (worldWithout held.world _).installed < (worldWithout held.world _).engineCount
    rw [same, count]
    exact installed
  · change (held.sessions.update into got).Each fun session =>
      session.engine < (worldWithout held.world _).engineCount
    rw [count]
    exact made.update into known

theorem Changes.tallied {thread : Nat} {call : Call} {answer : Answer}
    (changes : Changes thread held call answer after) (tallied : held.Tallied) : after.Tallied := by
  cases changes with
  | @connects into session asks engine observer bound =>
    refine Tallied.keepSession tallied.names tallied.installed tallied.made ?_ fun id => ?_
    · intro other same
      cases same
      rw [engine]
      exact tallied.installed
    · have services := tallied.services id
      have served := services_addService held.world held.world.installed id
      change (held.world.addService held.world.installed).services id = (_ + (session.engine == id).toNat : Nat)
      rw [engine, served, services]
      exact (Int.natCast_add _ _).symm
  | connectsNot asks =>
    exact Tallied.keepSession tallied.names tallied.installed tallied.made (fun _ => nofun) tallied.services
  | disconnects asks found =>
    exact Tallied.keepSession tallied.names tallied.installed tallied.made (fun _ => nofun) tallied.services
  | _ => exact { tallied with }

theorem services_endpoints (world : World) (id other : EngineId) (endpoints : Table ClusterId) :
    (world.setEngine id { world.engines id with endpoints }).services other = world.services other := by
  apply World.forall_setEngine (P := fun other engine => engine.services = world.services other)
  · rfl
  · exact fun _ => rfl

theorem Tallied.installNew (tallied : held.Tallied) :
    Tallied { held with world := held.world.installNew } := by
  refine ⟨tallied.names, Nat.lt_succ_self _, fun name session there => ?_, fun id => ?_⟩
  · exact Nat.lt_succ_of_lt (tallied.made name session there)
  · by_cases new : id = held.world.engineCount
    · subst new
      have none : held.sessions.count (fun session => session.engine == held.world.engineCount) = 0 :=
        Table.count_eq_zero tallied.names fun name session there =>
          beq_false_of_ne (Nat.ne_of_lt (tallied.made name session there))
      change (held.world.setEngine held.world.engineCount {}).services _ = (held.sessions.count _ : Nat)
      rw [none, World.services, World.engines_setEngine_same]
      rfl
    · change (held.world.setEngine held.world.engineCount {}).services id = _
      rw [World.services, World.engines_setEngine_other _ _ new]
      exact tallied.services id

theorem Tallied.edit (tallied : held.Tallied) (act : Act) :
    Tallied { held with world := act.edit held.world } := by
  cases act with
  | installNew => exact tallied.installNew
  | install engine =>
    simp only [Act.edit]
    split
    next known => exact { tallied with installed := known }
    next unknown => exact tallied
  | addCluster engine host port name =>
    simp only [Act.edit]
    split
    next known =>
      refine { tallied with services := fun id => ?_ }
      exact (services_endpoints held.world engine id _).trans (tallied.services id)
    next unknown => exact tallied
  | removeCluster engine host port =>
    simp only [Act.edit]
    split
    next known =>
      refine { tallied with services := fun id => ?_ }
      exact (services_endpoints held.world engine id _).trans (tallied.services id)
    next unknown => exact tallied
  | _ => exact { tallied with }

theorem ledger_edit (held : Holdings) {act : Act} (answer : Answer)
    (edits : ∀ thread call, act ≠ .call thread call) :
    ledger { held with world := act.edit held.world } = held.ledger.note act answer := by
  cases act with
  | call thread call => exact absurd rfl (edits thread call)
  | install engine =>
    simp only [Act.edit, Ledger.note]
    by_cases known : engine < held.world.engineCount
    · rw [if_pos known, if_pos (show engine < held.ledger.engines from known)]
      rfl
    · rw [if_neg known, if_neg (show ¬ engine < held.ledger.engines from known)]
  | addCluster engine host port name =>
    simp only [Act.edit, Ledger.note]
    split <;> rfl
  | removeCluster engine host port =>
    simp only [Act.edit, Ledger.note]
    split <;> rfl
  | _ => rfl

end Holdings

namespace Client

section
variable [Formats]

theorem act_tallied (client : Client engine) (act : Act) (tallied : client.holdings.Tallied) :
    (client.act act).2.holdings.Tallied := by
  obtain ⟨thread, call, rfl⟩ | ⟨-, edited⟩ := act_edits client act
  · exact (call_changes client thread call).tallied tallied
  · rw [edited]
    exact tallied.edit act

theorem act_ledger (client : Client engine) (act : Act) :
    (client.act act).2.holdings.ledger = client.holdings.ledger.note act (client.act act).1 := by
  obtain ⟨thread, call, rfl⟩ | ⟨edits, edited⟩ := act_edits client act
  · exact (call_changes client thread call).ledger
  · rw [edited]
    exact Holdings.ledger_edit client.holdings _ edits

theorem acts_ledger (client : Client engine) (history : List Act) :
    (client.acts history).2.holdings.ledger =
      client.holdings.ledger.noteAll history (client.acts history).1 := by
  induction history generalizing client with
  | nil => rfl
  | cons act rest ih =>
    change ((client.act act).2.acts rest).2.holdings.ledger =
      (client.holdings.ledger.note act (client.act act).1).noteAll rest ((client.act act).2.acts rest).1
    rw [ih, act_ledger]

end

theorem start_tallied (tree : Config.FileTree) (environment : Config.Variables) (replies : Replies) :
    (start tree environment replies).holdings.Tallied :=
  ⟨List.nodup_nil, Nat.zero_lt_one, fun _ _ => nofun, fun _ => rfl⟩

/-- At every point of every program, every engine runs as many services as there are sessions
that were made while it was installed and that are still held. Whichever way a thread connects
there, it changes nothing if it gets no session. -/
theorem services_match_sessions [Formats] (tree : Config.FileTree) (environment : Config.Variables)
    (replies : Replies) (history : List Act) (id : EngineId) :
    let (answers, client) := (start tree environment replies).acts history
    client.scene.world.services id = (Ledger.noteAll {} history answers).running id ∧
      0 ≤ client.scene.world.services id ∧
      (∀ thread host port user,
        let (session, after) := (client.caller thread).connectDirect host port user
        session = none → after.scene.world.services id = client.scene.world.services id) ∧
      ∀ thread builder,
        let (session, after) := (client.caller thread).connectBuilder (client.builders.find? builder)
        session = none → after.scene.world.services id = client.scene.world.services id := by
  have ledger := acts_ledger (start tree environment replies) history
  have tallied := acts_induction act_tallied _ history (start_tallied tree environment replies)
  generalize (start tree environment replies).acts history = run at ledger tallied ⊢
  obtain ⟨answers, client⟩ := run
  have services : client.scene.world.services id =
      (client.sessions.count fun session => Session.engine session == id : Nat) := tallied.services id
  refine ⟨?_, ?_, fun thread host port user failed => ?_, fun thread builder failed => ?_⟩
  · have start : (start tree environment replies).holdings.ledger = {} := rfl
    rw [start] at ledger
    rw [services, ← ledger, Ledger.running]
    exact congrArg Nat.cast (Table.count_map Session.engine (· == id) client.holdings.sessions).symm
  · rw [services]
    exact Int.natCast_nonneg _
  · have connects := connectDirect_connects (client.caller thread) host port user
    exact congrArg (World.services · id) (connects.world failed)
  · have connects := connectBuilder_connects (client.caller thread) (client.builders.find? builder)
    exact congrArg (World.services · id) (connects.world failed)

end Client
end DfsClient
