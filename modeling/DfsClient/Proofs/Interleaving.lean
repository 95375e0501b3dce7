import DfsClient.Formats.Standard
import DfsClient.Proofs.Builders
import DfsClient.Proofs.Lifetimes
import DfsClient.Proofs.Owners

/-! Threads that share no handle do not interfere. Whatever other threads do in between, a thread
sees of its own calls what it sees when it runs alone. -/

namespace DfsClient
open Boundary Memory

/-- What a thread sees of a call: the answer, its last error afterwards, and what its observers were
told, with their replies. -/
structure View where
  call : Call
  answer : Answer
  lastError : LastError
  told : List Notice
  replied : List Int32

/-- The handlers of two runs reply alike: where all went the same so far and they are told the same,
they reply the same. -/
def RepliesAlike (views views' : List View) : Prop :=
  ∀ past view view' rest rest', views = past ++ view :: rest → views' = past ++ view' :: rest' →
    view.told = view'.told → view.replied = view'.replied

theorem RepliesAlike.tail {view : View} {views views' : List View}
    (same : RepliesAlike (view :: views) (view :: views')) : RepliesAlike views views' := by
  rintro past one other rest rest' rfl rfl
  exact same (view :: past) one other rest rest' rfl rfl

namespace Holdings

variable {held after : Holdings} {thread : Nat} {call : Call} {answer : Answer} {name : String}

theorem Changes.world_like (changes : Changes thread held call answer after) :
    after.world.Like held.world := by
  cases changes with
  | @connects into session =>
    exact (Client.worldWithout_like held.serve.world _).trans (.setServices held.world _ _)
  | connectsNot | disconnects => exact Client.worldWithout_like held.world _
  | _ => exact .refl _

theorem Changes.file_passes (changes : Changes thread held call answer after)
    (passes : (Act.call thread call).PassesFile name) : after.files.get? name = held.files.get? name := by
  obtain ⟨⟨makes, ends⟩, uses⟩ := passes
  cases changes with
  | opens asks | opensNot asks =>
    apply Table.get?_update_other
    rintro rfl
    exact makes asks
  | closes asks =>
    apply Table.get?_update_other
    rintro rfl
    exact ends asks
  | uses asks =>
    apply Table.get?_update_other
    rintro rfl
    exact uses asks
  | _ => rfl

end Holdings

namespace Call

variable {call : Call} {name : String}

theorem spares_session (thread : Nat) (free : .session name ∉ call.uses) :
    (Act.call thread call).SparesSession name := by
  constructor
  · intro makes
    cases call with
    | connect | connectBuilder =>
      cases makes
      simp [uses] at free
    | _ => cases makes
  · intro ends
    cases call with
    | disconnect =>
      cases ends
      simp [uses] at free
    | _ => cases ends

theorem passes_file (thread : Nat) (free : .file name ∉ call.uses) : (Act.call thread call).PassesFile name := by
  refine ⟨⟨?_, ?_⟩, ?_⟩
  · intro makes
    cases call with
    | openFile =>
      cases makes
      simp [uses] at free
    | _ => cases makes
  · intro ends
    cases call with
    | closeFile =>
      cases ends
      simp [uses] at free
    | _ => cases ends
  · intro works
    cases call with
    | read | readAt | seek | tell | cancel =>
      cases works
      simp [uses] at free
    | _ => cases works

theorem spares_builder (free : .builder name ∉ call.uses) : call.keptBuilder? ≠ some (some name) := by
  intro keeps
  cases call with
  | newBuilder | newBuilderFrom | freeBuilder | changeBuilder =>
    cases keeps
    simp [uses] at free
  | _ => cases keeps

end Call

namespace Client

variable {thread : Nat} {own : Resource → Prop} {one other : Client engine}

section
variable [Formats]

/-- A call of another thread that uses nothing of a thread's own makes no difference to it. -/
theorem call_elsewhere (client : Client engine) {elsewhere : Nat} (differ : thread ≠ elsewhere) (call : Call)
    (free : ∀ resource ∈ call.uses, ¬ own resource) :
    (client.call elsewhere call).2.Alike thread own client := by
  have settles := call_settles engine_silent engine_calm client elsewhere call
  have changes := call_changes client elsewhere call
  have leaves := client.call_leaves elsewhere call
  refine ⟨settles.records.others thread differ, changes.world_like, leaves.tree, leaves.environment,
    fun name owned => ?_, fun name owned => ?_, fun name owned => ?_⟩
  · exact leaves.builders name (Call.spares_builder fun used => free _ used owned)
  · exact changes.session_stays (Call.spares_session elsewhere fun used => free _ used owned)
  · exact changes.file_passes (Call.passes_file elsewhere fun used => free _ used owned)

def view (client : Client engine) (thread : Nat) (call : Call) : View :=
  let (answer, after) := client.call thread call
  let told := client.toldSince after
  { call, answer, told
    lastError := (after.threads thread).lastError
    replied := client.scene.ambient.repliesTo told }

/-- What a thread sees of a run of calls on several threads. -/
def views (client : Client engine) (thread : Nat) : List (Nat × Call) → List View
  | [] => []
  | (caller, call) :: rest =>
    let later := (client.call caller call).2.views thread rest
    if caller = thread then client.view thread call :: later else later

theorem views_own (client : Client engine) (call : Call) (rest : List (Nat × Call)) :
    client.views thread ((thread, call) :: rest) =
      client.view thread call :: (client.call thread call).2.views thread rest :=
  if_pos rfl

theorem views_other (client : Client engine) {caller : Nat} (differ : caller ≠ thread) (call : Call)
    (rest : List (Nat × Call)) :
    client.views thread ((caller, call) :: rest) = (client.call caller call).2.views thread rest :=
  if_neg differ

/-- A thread sees its own calls, in their order. -/
theorem views_calls (client : Client engine) (thread : Nat) (history : List (Nat × Call)) :
    (client.views thread history).map View.call = (history.filter fun step => step.1 = thread).map Prod.snd := by
  induction history generalizing client with
  | nil => rfl
  | cons step rest ih =>
    obtain ⟨caller, call⟩ := step
    by_cases same : caller = thread
    · subst same
      rw [views_own, List.filter_cons_of_pos (by simp)]
      exact congrArg (List.cons call) (ih _)
    · rw [views_other client same, List.filter_cons_of_neg (by simp [same])]
      exact ih _

theorem call_sound (client : Client engine) (sound : client.holdings.Sound) (thread : Nat) (call : Call) :
    (client.call thread call).2.holdings.Sound :=
  (call_changes client thread call).sound sound

/-- A thread that meets the same replies sees the same of a call in two clients that look the same
to it, and they look the same to it afterwards. -/
theorem view_alike (alike : one.Alike thread own other) (sound : one.holdings.Sound) (call : Call)
    (owns : ∀ resource ∈ call.uses, own resource) :
    (one.view thread call).told = (other.view thread call).told ∧
      ((one.view thread call).replied = (other.view thread call).replied →
        one.view thread call = other.view thread call ∧
          (one.call thread call).2.Alike thread own (other.call thread call).2) := by
  have steps := call_lockstep alike sound call owns
  have mine := toldSince_eq steps.hears
  have theirs := toldSince_eq steps.hears'
  refine ⟨mine.trans theirs.symm, fun replies => ?_⟩
  have answered : Answered thread own (one.call thread call) (other.call thread call) := by
    apply steps.alike
    unfold view at replies
    dsimp only at replies
    rw [mine, theirs] at replies
    exact replies
  refine ⟨?_, answered.client⟩
  unfold view at replies ⊢
  dsimp only at replies ⊢
  rw [answered.answer, answered.client.slots, replies, mine, theirs]

theorem views_alone (alike : one.Alike thread own other) (sound : one.holdings.Sound)
    (history : List (Nat × Call))
    (mine : ∀ step ∈ history, step.1 = thread → ∀ resource ∈ step.2.uses, own resource)
    (theirs : ∀ step ∈ history, step.1 ≠ thread → ∀ resource ∈ step.2.uses, ¬ own resource)
    (replies : RepliesAlike (one.views thread history)
      (other.views thread (history.filter fun step => step.1 = thread))) :
    one.views thread history = other.views thread (history.filter fun step => step.1 = thread) := by
  induction history generalizing one other with
  | nil => rfl
  | cons step rest ih =>
    obtain ⟨caller, call⟩ := step
    obtain ⟨first, mine⟩ := List.forall_mem_cons.mp mine
    obtain ⟨elsewhere, theirs⟩ := List.forall_mem_cons.mp theirs
    have sound' := call_sound one sound caller call
    by_cases same : caller = thread
    · subst same
      rw [List.filter_cons_of_pos (by simp), views_own, views_own] at replies ⊢
      obtain ⟨told, goes⟩ := view_alike alike sound call (first rfl)
      obtain ⟨view, after⟩ := goes (replies [] _ _ _ _ rfl rfl told)
      rw [view] at replies ⊢
      exact congrArg _ (ih after sound' mine theirs replies.tail)
    · rw [List.filter_cons_of_neg (by simp [same]), views_other one same] at replies ⊢
      have after := (call_elsewhere one (Ne.symm same) call (elsewhere same)).trans alike
      exact ih after sound' mine theirs replies

end

/-- Handlers whose replies depend on nothing but what they are told. -/
def Steady (replies : Replies) : Prop :=
  ∀ earlier earlier' monitor event, replies earlier monitor event = replies earlier' monitor event

theorem repliesTo_steady {ambient : Ambient} (steady : Steady ambient.replies) (fresh : List Notice) :
    ambient.repliesTo fresh = fresh.map (ambient.replyTo 0) := by
  refine List.mapIdx_eq_iff.mpr fun index => ?_
  rw [List.getElem?_map]
  exact congrArg (fun reply => Option.map reply fresh[index]?) (funext fun notice => steady _ _ _ _)

theorem views_steady [Formats] (thread : Nat) (client : Client engine) (sound : client.holdings.Sound)
    (steady : Steady client.scene.ambient.replies) (history : List (Nat × Call)) :
    ∀ view ∈ client.views thread history, view.replied = view.told.map (client.scene.ambient.replyTo 0) := by
  induction history generalizing client with
  | nil => exact fun _ => nofun
  | cons step rest ih =>
    obtain ⟨caller, call⟩ := step
    have replies := (call_tells_due client sound caller call).replies
    have later := ih (client.call caller call).2 (call_sound client sound caller call)
      (by rw [replies]; exact steady)
    have same : (client.call caller call).2.scene.ambient.replyTo 0 = client.scene.ambient.replyTo 0 := by
      funext notice
      exact congrFun (congrFun (congrFun replies 0) notice.monitor) notice.event
    rw [same] at later
    have first : (client.view caller call).replied = _ :=
      repliesTo_steady steady (client.view caller call).told
    by_cases own : caller = thread
    · subst own
      rw [views_own]
      exact List.forall_mem_cons.mpr ⟨first, later⟩
    · rw [views_other client own]
      exact later

/-- The client with other handlers behind the same monitors. -/
def repliedBy (client : Client engine) (replies : Replies) : Client engine :=
  { client with scene := { client.scene with ambient := { client.scene.ambient with replies } } }

/-- A history in which every thread runs its program. -/
def Interleaves (programs : Nat → List Call) (history : List (Nat × Call)) : Prop :=
  ∀ thread, (history.filter fun step => step.1 = thread) = (programs thread).map fun call => (thread, call)

/-- No two threads use the same builder, session or file. -/
def Apart (programs : Nat → List Call) : Prop :=
  ∀ thread other, thread ≠ other → ∀ call ∈ programs thread, ∀ call' ∈ programs other,
    ∀ resource ∈ call.uses, resource ∉ call'.uses

theorem Interleaves.mem {programs : Nat → List Call} {history : List (Nat × Call)}
    (interleaves : Interleaves programs history) {step : Nat × Call} (member : step ∈ history) :
    step.2 ∈ programs step.1 := by
  have mine : step ∈ history.filter fun other => other.1 = step.1 := List.mem_filter.mpr ⟨member, by simp⟩
  rw [interleaves] at mine
  obtain ⟨call, known, same⟩ := List.mem_map.mp mine
  rw [← same]
  exact known

/-- Every history interleaves the programs that its threads run in it. -/
theorem interleaves_own (history : List (Nat × Call)) :
    Interleaves (fun thread => (history.filter fun step => step.1 = thread).map Prod.snd) history := by
  intro thread
  have own (step : Nat × Call) (member : step ∈ history.filter fun step => step.1 = thread) :
      (thread, step.2) = step := by
    have mine : step.1 = thread := by simpa using (List.mem_filter.mp member).2
    rw [← mine]
  rw [List.map_map]
  exact ((List.map_congr_left own).trans (List.map_id _)).symm

/-- They are apart if no two steps of it on different threads use the same. -/
theorem apart_own {history : List (Nat × Call)}
    (disjoint : ∀ step ∈ history, ∀ step' ∈ history, step.1 ≠ step'.1 →
      ∀ resource ∈ step.2.uses, resource ∉ step'.2.uses) :
    Apart (fun thread => (history.filter fun step => step.1 = thread).map Prod.snd) := by
  intro thread other differ call known call' known'
  obtain ⟨step, member, rfl⟩ := List.mem_map.mp known
  obtain ⟨step', member', rfl⟩ := List.mem_map.mp known'
  obtain ⟨within, mine⟩ := List.mem_filter.mp member
  obtain ⟨within', theirs⟩ := List.mem_filter.mp member'
  rw [decide_eq_true_eq] at mine theirs
  subst mine theirs
  exact disjoint step within step' within' differ

/-- In every interleaving of programs that share no handle a thread sees what it sees when its
program runs alone, if its handlers reply alike; and they do where they reply by what they are told. -/
theorem threads_run_as_alone [Formats] (tree : Config.FileTree) (environment : Config.Variables) (replies : Replies)
    (setup : List Act) {programs : Nat → List Call} {history : List (Nat × Call)}
    (interleaves : Interleaves programs history) (apart : Apart programs) (thread : Nat) :
    let client := ((start tree environment replies).acts setup).2
    let alone := (programs thread).map fun call => (thread, call)
    (∀ replies', RepliesAlike (client.views thread history) ((client.repliedBy replies').views thread alone) →
      client.views thread history = (client.repliedBy replies').views thread alone) ∧
    (Steady replies → client.views thread history = client.views thread alone) := by
  intro client alone
  have sound : client.holdings.Sound := reached_sound tree environment replies setup
  let own (resource : Resource) : Prop := ∃ call ∈ programs thread, resource ∈ call.uses
  have mine : ∀ step ∈ history, step.1 = thread → ∀ resource ∈ step.2.uses, own resource := by
    rintro step member rfl resource used
    exact ⟨step.2, interleaves.mem member, used⟩
  have theirs : ∀ step ∈ history, step.1 ≠ thread → ∀ resource ∈ step.2.uses, ¬ own resource := by
    rintro step member differ resource used ⟨call, known, shared⟩
    exact apart step.1 thread differ step.2 (interleaves.mem member) call known resource used shared
  have goes (replies' : Replies)
      (same : RepliesAlike (client.views thread history) ((client.repliedBy replies').views thread alone)) :
      client.views thread history = (client.repliedBy replies').views thread alone := by
    have alike : client.Alike thread own (client.repliedBy replies') :=
      ⟨rfl, .refl _, rfl, rfl, fun _ _ => rfl, fun _ _ => rfl, fun _ _ => rfl⟩
    have filtered : (history.filter fun step => step.1 = thread) = alone := interleaves thread
    rw [← filtered] at same ⊢
    exact views_alone alike sound history mine theirs same
  refine ⟨goes, fun steady => ?_⟩
  apply goes client.scene.ambient.replies
  rintro past view view' rest rest' within within' told
  have kept : client.scene.ambient.replies = replies := acts_replies _ (start_sound ..) setup
  have reply := views_steady thread client sound (by rw [kept]; exact steady)
  rw [reply history view (within ▸ by simp), reply alone view' (within' ▸ by simp), told]

/-- Two threads that connect to the same place, one of them observed. -/
def connectingApart : List (Nat × Call) :=
  [(0, .observeSessions (some ⟨4096, 5⟩)), (1, .connect none 8020 none (some "t")),
    (0, .connect none 8020 none (some "s")), (1, .disconnect (some "t")), (0, .disconnect none)]

open scoped Formats.Standard

theorem connecting_apart_as_alone :
    let client := ((start ⟨fun _ => .missing⟩ {} fun _ _ _ => 7).acts [.addCluster 0 "" 8020 "c"]).2
    let programs (thread : Nat) := (connectingApart.filter fun step => step.1 = thread).map Prod.snd
    Interleaves programs connectingApart ∧ Apart programs ∧
      client.views 0 connectingApart = client.views 0 ((programs 0).map fun call => (0, call)) ∧
      (client.views 0 connectingApart).map View.call =
        [.observeSessions (some ⟨4096, 5⟩), .connect none 8020 none (some "s"), .disconnect none] := by
  intro client programs
  have interleaves : Interleaves programs connectingApart := interleaves_own connectingApart
  have apart : Apart programs := apart_own (by decide)
  have alone := (threads_run_as_alone ⟨fun _ => .missing⟩ {} (fun _ _ _ => 7) [.addCluster 0 "" 8020 "c"]
    interleaves apart 0).2 fun _ _ _ _ => rfl
  exact ⟨interleaves, apart, alone, client.views_calls 0 connectingApart⟩

end Client
end DfsClient
