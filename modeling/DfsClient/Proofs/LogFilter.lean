import DfsClient.Client.Program
import DfsClient.Formats.Standard
import DfsClient.Proofs.Blindness

/-! Logging never steers a program. Whatever the filter lets through and wherever it goes, all else that
a program does stays the same; and what a sink shows of a step is what a handler behind a filter that
admits everything would show, less the records that the filter holds back. -/

namespace DfsClient
open Boundary

namespace Log

namespace Filter

theorem isEnabled_enable (filter : Filter) (component other : Component) :
    (filter.enable component).isEnabled other = (filter.isEnabled other || decide (component = other)) := by
  have split : (filter.mask ||| component.bit) &&& other.bit =
      (filter.mask &&& other.bit) ||| (component.bit &&& other.bit) :=
    UInt32.toBitVec_inj.mp BitVec.and_or_distrib_right
  have own : (component.bit &&& other.bit != 0) = decide (component = other) := by
    cases component <;> cases other <;> rfl
  unfold isEnabled enable
  rw [split, ← own, Bool.eq_iff_iff]
  simp only [bne_iff_ne, ne_eq, UInt32.or_eq_zero_iff, Bool.or_eq_true, Classical.not_and_iff_not_or_not]

/-- The records that a filter lets through, in their order. -/
def passes (filter : Filter) (records : List Record) : List Record :=
  records.filter fun record => filter.admits record.level record.component

def AdmitsAll (filter : Filter) : Prop := ∀ level component, filter.admits level component = true

theorem AdmitsAll.passes {filter : Filter} (all : filter.AdmitsAll) (records : List Record) :
    filter.passes records = records :=
  List.filter_eq_self.mpr fun _ _ => all ..

end Filter

namespace Sink

/-- What a sink shows of records that come one after the other. A handler that fires once takes the first. -/
def receives (sink : Sink) (records : List Record) : List Observation :=
  match sink with
  | .trace => records.map fun record => .traced (.ofRecord record)
  | .logger label => records.map (.logged label)
  | .handler receiver =>
    (if receiver.once then records.take 1 else records).map fun record => .delivered receiver.label record.deliver
  | .discard => []

/-- The sink that is in place after the records. -/
def after (sink : Sink) (records : List Record) : Sink :=
  match sink with
  | .handler receiver => if receiver.once ∧ records ≠ [] then .discard else sink
  | _ => sink

theorem receives_nil (sink : Sink) : sink.receives [] = [] := by
  cases sink with
  | handler receiver =>
    obtain ⟨label, once⟩ := receiver
    cases once <;> rfl
  | _ => rfl

theorem after_nil (sink : Sink) : sink.after [] = sink := by
  cases sink with
  | handler receiver => exact if_neg fun both => both.2 rfl
  | _ => rfl

theorem receives_append (sink : Sink) (first second : List Record) :
    sink.receives (first ++ second) = sink.receives first ++ (sink.after first).receives second := by
  cases sink with
  | handler receiver =>
    obtain ⟨label, once⟩ := receiver
    cases once with
    | false => exact List.map_append
    | true =>
      cases first with
      | nil => rfl
      | cons record rest => rfl
  | trace => exact List.map_append
  | logger label => exact List.map_append
  | discard => rfl

theorem after_append (sink : Sink) (first second : List Record) :
    sink.after (first ++ second) = (sink.after first).after second := by
  cases sink with
  | handler receiver =>
    obtain ⟨label, once⟩ := receiver
    cases once with
    | false => rfl
    | true =>
      cases first with
      | nil => rfl
      | cons record rest => rfl
  | _ => rfl

end Sink
end Log

/-- What comes of records: told to a logger or a handler, or among the diagnostics. -/
def Observation.isLogOutput : Observation → Bool
  | .logged .. | .delivered .. => true
  | .traced trace => trace.isRecord
  | _ => false

/-- All that was observed but for what came of records. -/
def unlogged (seen : List Observation) : List Observation := seen.filter (!·.isLogOutput)

/-- What came of records. -/
def logOutput (seen : List Observation) : List Observation := seen.filter Observation.isLogOutput

theorem isLogOutput_receives {sink : Log.Sink} {records : List Log.Record} {observation : Observation}
    (shown : observation ∈ sink.receives records) : observation.isLogOutput = true := by
  cases sink with
  | discard => cases shown
  | _ =>
    obtain ⟨record, -, rfl⟩ := List.mem_map.mp shown
    rfl

theorem logOutput_receives (sink : Log.Sink) (records : List Log.Record) :
    logOutput (sink.receives records) = sink.receives records :=
  List.filter_eq_self.mpr fun _ shown => isLogOutput_receives shown

theorem unlogged_receives (sink : Log.Sink) (records : List Log.Record) :
    unlogged (sink.receives records) = [] := by
  refine List.filter_eq_nil_iff.mpr fun observation shown => ?_
  rw [isLogOutput_receives shown]
  exact Bool.false_ne_true

namespace Ambient

/-- A record that was logged, as the filter and the sink have it. -/
def logs (ambient : Ambient) (records : List Log.Record) : Ambient :=
  let passed := ambient.filter.passes records
  { ambient with sink := ambient.sink.after passed, seen := ambient.seen ++ ambient.sink.receives passed }

theorem log_eq (ambient : Ambient) (level : Log.Level) (component : Log.Component) (message : String) :
    ambient.log level component message = ambient.logs [{ level, component, message }] := by
  obtain ⟨filter, sink, replies, told, seen⟩ := ambient
  unfold Ambient.log logs
  cases admitted : filter.admits level component with
  | false =>
    have passed : filter.passes [{ level, component, message }] = [] := by
      simp only [Log.Filter.passes, List.filter_cons, admitted, Bool.false_eq_true, ↓reduceIte, List.filter_nil]
    simp only [passed, sink.after_nil, sink.receives_nil, List.append_nil, Bool.false_eq_true, ↓reduceIte]
  | true =>
    have passed : filter.passes [{ level, component, message }] = [{ level, component, message }] := by
      simp only [Log.Filter.passes, List.filter_cons, admitted, ↓reduceIte, List.filter_nil]
    simp only [passed, ↓reduceIte]
    cases sink with
    | handler receiver =>
      obtain ⟨label, once⟩ := receiver
      cases once with
      | false => rfl
      | true => rfl
    | trace => rfl
    | logger label => rfl
    | discard => exact congrArg (Ambient.mk filter .discard replies told) (List.append_nil seen).symm

/-- Surroundings in which a handler under a label is told of all records, beside others that differ in
their filter, in their sink and in what came of records. -/
structure Overheard (label : String) (ambient loud : Ambient) : Prop where
  all : loud.filter.AdmitsAll
  sink : loud.sink = .handler { label }
  replies : loud.replies = ambient.replies
  told : loud.told = ambient.told
  rest : unlogged loud.seen = unlogged ambient.seen

/-- The same, after records that were logged in both since they stood at a start. -/
structure Echoed (label : String) (start start' : Ambient) (records : List Log.Record) (ambient loud : Ambient) :
    Prop extends Overheard label ambient loud where
  filter : ambient.filter = start.filter
  left : ambient.sink = start.sink.after (start.filter.passes records)
  fresh : ∃ fresh fresh', ambient.seen = start.seen ++ fresh ∧ loud.seen = start'.seen ++ fresh' ∧
    unlogged fresh = unlogged fresh' ∧
    logOutput fresh = start.sink.receives (start.filter.passes records) ∧
    logOutput fresh' = records.map fun record => .delivered label record.deliver

section
variable {label : String} {start start' ambient loud : Ambient} {records : List Log.Record}

theorem Overheard.begins (heard : Overheard label start start') : Echoed label start start' [] start start' where
  toOverheard := heard
  filter := rfl
  left := (start.sink.after_nil).symm
  fresh := ⟨[], [], (List.append_nil _).symm, (List.append_nil _).symm, rfl, (start.sink.receives_nil).symm, rfl⟩

/-- What happens to both alike leaves them so, with the records that were logged. -/
theorem Echoed.grows (echoed : Echoed label start start' records ambient loud) (later : List Log.Record)
    (told : Nat) {more more' : List Observation} (rest : unlogged more = unlogged more')
    (shown : logOutput more = ambient.sink.receives (ambient.filter.passes later))
    (loudly : logOutput more' = later.map fun record => .delivered label record.deliver) :
    Echoed label start start' (records ++ later)
      { ambient with
        sink := ambient.sink.after (ambient.filter.passes later), told, seen := ambient.seen ++ more }
      { loud with told, seen := loud.seen ++ more' } := by
  obtain ⟨fresh, fresh', seen, seen', same, output, output'⟩ := echoed.fresh
  have passed : start.filter.passes (records ++ later) =
      start.filter.passes records ++ start.filter.passes later := List.filter_append ..
  have apart (first second : List Observation) : unlogged (first ++ second) = unlogged first ++ unlogged second :=
    List.filter_append ..
  have apart' (first second : List Observation) :
      logOutput (first ++ second) = logOutput first ++ logOutput second :=
    List.filter_append ..
  refine ⟨⟨echoed.all, echoed.sink, echoed.replies, rfl, ?_⟩, echoed.filter, ?_, fresh ++ more, fresh' ++ more', ?_, ?_,
    ?_, ?_, ?_⟩
  · rw [apart, apart, echoed.rest, rest]
  · rw [passed, Log.Sink.after_append, ← echoed.left, echoed.filter]
  · rw [seen, List.append_assoc]
  · rw [seen', List.append_assoc]
  · rw [apart, apart, same, rest]
  · rw [apart', output, shown, passed, Log.Sink.receives_append, ← echoed.left, echoed.filter]
  · rw [apart', output', loudly, List.map_append]

/-- Both observe something that comes of no record, by which more may be told. -/
theorem Echoed.counts (echoed : Echoed label start start' records ambient loud) (told : Nat) {observation : Observation}
    (other : observation.isLogOutput = false) :
    Echoed label start start' records { ambient.emit observation with told } { loud.emit observation with told } := by
  have silent : logOutput [observation] = [] := by
    simp only [logOutput, List.filter_cons, other, Bool.false_eq_true, ↓reduceIte, List.filter_nil]
  have grown := echoed.grows [] told (rfl : unlogged [observation] = unlogged [observation])
    (silent.trans ambient.sink.receives_nil.symm) silent
  rw [List.append_nil, show ambient.filter.passes [] = [] from rfl, Log.Sink.after_nil] at grown
  exact grown

theorem Echoed.emit (echoed : Echoed label start start' records ambient loud) {observation : Observation}
    (other : observation.isLogOutput = false) :
    Echoed label start start' records (ambient.emit observation) (loud.emit observation) := by
  have same : loud.emit observation = { loud.emit observation with told := ambient.told } :=
    congrArg (fun told => { loud.emit observation with told }) echoed.told
  rw [same]
  exact echoed.counts ambient.told other

theorem Echoed.log (echoed : Echoed label start start' records ambient loud) (record : Log.Record) :
    Echoed label start start' (records ++ [record]) (ambient.logs [record]) (loud.logs [record]) := by
  have shows : loud.sink.receives (loud.filter.passes [record]) = [.delivered label record.deliver] := by
    rw [echoed.all.passes, echoed.sink]
    rfl
  have stays : loud.sink.after (loud.filter.passes [record]) = loud.sink := by
    rw [echoed.sink]
    rfl
  have rest : unlogged (ambient.sink.receives (ambient.filter.passes [record])) =
      unlogged (loud.sink.receives (loud.filter.passes [record])) := by
    rw [unlogged_receives, unlogged_receives]
  have loudly : logOutput (loud.sink.receives (loud.filter.passes [record])) =
      [record].map fun record => .delivered label record.deliver := by
    rw [shows]
    rfl
  have grown := echoed.grows [record] ambient.told rest (logOutput_receives ..) loudly
  dsimp only [logs]
  rw [stays, echoed.told]
  exact grown

theorem Echoed.tell (echoed : Echoed label start start' records ambient loud) (observer : Option Observer)
    (event : Event) :
    (loud.tell? observer event).1 = (ambient.tell? observer event).1 ∧
      Echoed label start start' records (ambient.tell? observer event).2 (loud.tell? observer event).2 := by
  match observer with
  | none => exact ⟨rfl, echoed⟩
  | some (.embedded tag response) => exact ⟨rfl, echoed.emit rfl⟩
  | some (.handler monitor) =>
    refine ⟨?_, ?_⟩
    · dsimp only [tell?, Ambient.tell]
      rw [echoed.told, echoed.replies]
    · dsimp only [tell?, Ambient.tell]
      rw [echoed.told]
      exact echoed.counts (ambient.told + 1) rfl

theorem Echoed.steady (label : String) (start start' : Ambient) :
    Steady fun ambient loud => ∃ records, Echoed label start start' records ambient loud where
  note note other ambient loud twins := by
    obtain ⟨records, echoed⟩ := twins_ambient.mp twins
    exact twins_ambient.mpr ⟨records, echoed.emit other⟩
  log level component message ambient loud twins := by
    obtain ⟨records, echoed⟩ := twins_ambient.mp twins
    have logged := echoed.log (Log.Record.mk level component message none)
    rw [← log_eq, ← log_eq] at logged
    exact twins_ambient.mpr ⟨_, logged⟩
  tell observer event ambient loud twins := by
    obtain ⟨records, echoed⟩ := twins_ambient.mp twins
    obtain ⟨same, told⟩ := echoed.tell observer event
    exact ⟨_, ⟨records, told⟩, Prod.ext same rfl⟩
  request request ambient loud twins := by
    obtain ⟨records, echoed⟩ := twins_ambient.mp twins
    exact twins_ambient.mpr ⟨records, echoed.emit rfl⟩

end

end Ambient

/-- The steps that set the filter or the sink. -/
def Act.setsLog : Act → Bool
  | .call _ made => made.setsLog
  | _ => false

/-- Lets all records through, to a handler under a label. -/
def Act.loud (label : String) : List Act :=
  .call 0 (.filterLog (.level 0)) ::
    Log.Component.all.map (fun component => .call 0 (.filterLog (.enable component.code))) ++
      [.call 0 (.logTo (some { label }))]

/-- One step of a run: under which filter and sink it began, what it answered and what it added to what
was observed. -/
structure Turn where
  act : Act
  filter : Log.Filter
  sink : Log.Sink
  answer : Answer
  fresh : List Observation

/-- A step without what came of records. -/
def Turn.unlogged (turn : Turn) : Act × Answer × List Observation :=
  (turn.act, turn.answer, DfsClient.unlogged turn.fresh)

namespace Client
open Memory

/-- A client as if nothing was set about the log and no record came out. -/
def unlogged (client : Client engine) : Client engine :=
  within client { client.scene.ambient with
    filter := {}, sink := .trace, seen := DfsClient.unlogged client.scene.ambient.seen }

theorem act_carries [Formats] {related : Ambient → Ambient → Prop} (steady : Ambient.Steady related) {act : Act}
    (other : act.setsLog = false) : Carries related fun client : Client engine => client.act act := by
  intro client client' twins
  cases act with
  | call thread call => exact call_carries steady (engine_respects steady) thread other twins
  | _ =>
    obtain ⟨ambient', alike, rfl⟩ := twins
    exact ⟨ambient', alike, rfl⟩

variable {client loud : Client engine} {label : String}

section
variable [Formats]

end

open scoped Formats.Standard

end Client
end DfsClient
