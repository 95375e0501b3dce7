import DfsClient.Formats.Standard
import DfsClient.Proofs.LogFilter
import Mathlib.Data.List.Induction

/-! The filter after requests. A request is accepted if its number is the code of a level or of a component.
Of the accepted ones the last about the level counts, and for each component the last about that component. -/

namespace DfsClient
open Boundary

namespace Log

theorem Level.ofCode?_eq_some_iff {n : Int32} {level : Level} : Level.ofCode? n = some level ↔ level.code = n := by
  constructor
  · intro found
    unfold Level.ofCode? at found
    have kept := List.find?_some found
    exact of_decide_eq_true kept
  · rintro rfl
    exact level.ofCode?_code

theorem Component.ofCode?_eq_some_iff {n : Int32} {component : Component} :
    Component.ofCode? n = some component ↔ component.code = n := by
  constructor
  · intro found
    unfold Component.ofCode? at found
    have kept := List.find?_some found
    exact of_decide_eq_true kept
  · rintro rfl
    exact component.ofCode?_code

theorem Level.exists_code_iff {n : Int32} : (∃ level : Level, level.code = n) ↔ n ∈ ([0, 1, 2, 3, 4] : List Int32) := by
  constructor
  · rintro ⟨level, rfl⟩
    cases level <;> decide
  · intro member
    obtain ⟨level, -, same⟩ := List.mem_map.mp (show n ∈ Level.all.map Level.code from member)
    exact ⟨level, same⟩

theorem Component.exists_code_iff {n : Int32} :
    (∃ component : Component, component.code = n) ↔ n ∈ ([1, 2, 4, 8, 16] : List Int32) := by
  constructor
  · rintro ⟨component, rfl⟩
    cases component <;> decide
  · intro member
    obtain ⟨component, -, same⟩ := List.mem_map.mp (show n ∈ Component.all.map Component.code from member)
    exact ⟨component, same⟩

/-- Bits of different components do not meet. -/
theorem Component.bit_and_not (component other : Component) :
    component.bit &&& ~~~other.bit = if component = other then 0 else component.bit := by
  cases component <;> cases other <;> rfl

namespace Filter

theorem isEnabled_disable (filter : Filter) (component other : Component) :
    (filter.disable component).isEnabled other = (filter.isEnabled other && decide (component ≠ other)) := by
  have regroup : filter.mask &&& ~~~component.bit &&& other.bit = filter.mask &&& (other.bit &&& ~~~component.bit) := by
    rw [UInt32.and_assoc, UInt32.and_comm (~~~component.bit)]
  unfold isEnabled disable
  rw [regroup, other.bit_and_not]
  by_cases same : component = other
  · simp [same]
  · simp [same, Ne.symm same]

/-- What an accepted request says: the least level that passes, or whether a component's records pass. -/
inductive Word where
  | threshold (level : Level)
  | switch (component : Component) (on : Bool)

namespace Word

/-- The component that a word is about, if it is not about the level. -/
def component? : Word → Option Component
  | .threshold _ => none
  | .switch component _ => some component

def threshold? : Word → Option Level
  | .threshold level => some level
  | .switch .. => none

def switch? (component : Component) : Word → Option Bool
  | .threshold _ => none
  | .switch other on => if other = component then some on else none

end Word

namespace Request

/-- A request says something if its number is the code of a level or of a component. -/
inductive Means : Request → Word → Prop
  | level (level : Level) : Means (.level level.code) (.threshold level)
  | enable (component : Component) : Means (.enable component.code) (.switch component true)
  | disable (component : Component) : Means (.disable component.code) (.switch component false)

def word? : Request → Option Word
  | .level n => (Level.ofCode? n).map .threshold
  | .enable n => (Component.ofCode? n).map (.switch · true)
  | .disable n => (Component.ofCode? n).map (.switch · false)

theorem word?_eq_some_iff {request : Request} {word : Word} : request.word? = some word ↔ request.Means word := by
  constructor
  · intro said
    cases request with
    | level n =>
      obtain ⟨level, found, rfl⟩ := Option.map_eq_some_iff.mp said
      obtain rfl := Level.ofCode?_eq_some_iff.mp found
      exact .level level
    | enable n =>
      obtain ⟨component, found, rfl⟩ := Option.map_eq_some_iff.mp said
      obtain rfl := Component.ofCode?_eq_some_iff.mp found
      exact .enable component
    | disable n =>
      obtain ⟨component, found, rfl⟩ := Option.map_eq_some_iff.mp said
      obtain rfl := Component.ofCode?_eq_some_iff.mp found
      exact .disable component
  · rintro (level | component | component)
    · exact congrArg (Option.map Word.threshold) level.ofCode?_code
    · exact congrArg (Option.map (Word.switch · true)) component.ofCode?_code
    · exact congrArg (Option.map (Word.switch · false)) component.ofCode?_code

/-- The numbers that are accepted: those of the five levels, or the flags of the five components. -/
def Valid : Request → Prop
  | .level n => n ∈ ([0, 1, 2, 3, 4] : List Int32)
  | .enable n | .disable n => n ∈ ([1, 2, 4, 8, 16] : List Int32)

theorem valid_iff {request : Request} : request.Valid ↔ ∃ word, request.word? = some word := by
  have named {α : Type} {found : Option α} {say : α → Word} :
      (∃ word, found.map say = some word) ↔ ∃ a, found = some a := by
    cases found <;> simp
  cases request with
  | level n =>
    refine Level.exists_code_iff.symm.trans (Iff.trans ?_ named.symm)
    exact exists_congr fun _ => Level.ofCode?_eq_some_iff.symm
  | enable n | disable n =>
    refine Component.exists_code_iff.symm.trans (Iff.trans ?_ named.symm)
    exact exists_congr fun _ => Component.ofCode?_eq_some_iff.symm

end Request

/-- The filter after a word. -/
def obey (filter : Filter) : Word → Filter
  | .threshold level => { filter with level }
  | .switch component true => filter.enable component
  | .switch component false => filter.disable component

theorem request_eq (filter : Filter) (request : Request) :
    filter.request request =
      match request.word? with
      | some word => (0, filter.obey word)
      | none => (1, filter) := by
  cases request with
  | level n =>
    unfold Filter.request Request.word?
    dsimp only
    cases Level.ofCode? n <;> rfl
  | enable n | disable n =>
    unfold Filter.request Request.word?
    dsimp only
    cases Component.ofCode? n <;> rfl

theorem level_obey (filter : Filter) (word : Word) : (filter.obey word).level = word.threshold?.getD filter.level := by
  match word with
  | .threshold level => rfl
  | .switch component true => rfl
  | .switch component false => rfl

theorem isEnabled_obey (filter : Filter) (word : Word) (component : Component) :
    (filter.obey word).isEnabled component = (word.switch? component).getD (filter.isEnabled component) := by
  match word with
  | .threshold level => rfl
  | .switch other true =>
    refine (filter.isEnabled_enable other component).trans ?_
    unfold Word.switch?
    by_cases same : other = component <;> simp [same]
  | .switch other false =>
    refine (filter.isEnabled_disable other component).trans ?_
    unfold Word.switch?
    by_cases same : other = component <;> simp [same]

theorem isEnabled_obey_other (filter : Filter) {word : Word} {component : Component}
    (other : word.component? ≠ some component) : (filter.obey word).isEnabled component = filter.isEnabled component := by
  rw [isEnabled_obey]
  cases word with
  | threshold level => rfl
  | switch one on =>
    rw [Word.switch?, if_neg (ne_of_apply_ne some other)]
    rfl

/-- No bits are set but those of the components. -/
def Known (filter : Filter) : Prop := filter.mask &&& ~~~31 = 0

theorem Known.obey {filter : Filter} (known : filter.Known) (word : Word) : (filter.obey word).Known := by
  match word with
  | .threshold level => exact known
  | .switch component true =>
    have split : (filter.mask ||| component.bit) &&& ~~~31 = (filter.mask &&& ~~~31) ||| (component.bit &&& ~~~31) :=
      UInt32.toBitVec_inj.mp BitVec.and_or_distrib_right
    have own : component.bit &&& ~~~31 = 0 := by
      cases component <;> rfl
    exact split.trans (by rw [known, own, UInt32.or_self])
  | .switch component false =>
    have regroup : filter.mask &&& ~~~component.bit &&& ~~~31 = (filter.mask &&& ~~~31) &&& ~~~component.bit := by
      rw [UInt32.and_assoc, UInt32.and_comm (~~~component.bit), UInt32.and_assoc]
    exact regroup.trans (by rw [known, UInt32.zero_and])

theorem enable_enable (filter : Filter) (one other : Component) :
    (filter.enable one).enable other = (filter.enable other).enable one := by
  have mask : filter.mask ||| one.bit ||| other.bit = filter.mask ||| other.bit ||| one.bit := by
    rw [UInt32.or_assoc, UInt32.or_comm one.bit, UInt32.or_assoc]
  exact congrArg (Filter.mk filter.level) mask

theorem enable_disable (filter : Filter) {one other : Component} (differ : one ≠ other) :
    (filter.enable one).disable other = (filter.disable other).enable one := by
  have split : (filter.mask ||| one.bit) &&& ~~~other.bit = (filter.mask &&& ~~~other.bit) ||| (one.bit &&& ~~~other.bit) :=
    UInt32.toBitVec_inj.mp BitVec.and_or_distrib_right
  rw [one.bit_and_not, if_neg differ] at split
  exact congrArg (Filter.mk filter.level) split

theorem disable_disable (filter : Filter) (one other : Component) :
    (filter.disable one).disable other = (filter.disable other).disable one := by
  have mask : filter.mask &&& ~~~one.bit &&& ~~~other.bit = filter.mask &&& ~~~other.bit &&& ~~~one.bit := by
    rw [UInt32.and_assoc, UInt32.and_comm (~~~one.bit), UInt32.and_assoc]
  exact congrArg (Filter.mk filter.level) mask

/-- Words about different things may come in either order. -/
theorem obey_comm (filter : Filter) {one other : Word} (apart : one.component? ≠ other.component?) :
    (filter.obey one).obey other = (filter.obey other).obey one := by
  match one, other with
  | .threshold _, .threshold _ => exact absurd rfl apart
  | .threshold _, .switch _ true | .threshold _, .switch _ false => rfl
  | .switch _ true, .threshold _ | .switch _ false, .threshold _ => rfl
  | .switch one true, .switch other true => exact filter.enable_enable one other
  | .switch one true, .switch other false => exact filter.enable_disable (ne_of_apply_ne some apart)
  | .switch one false, .switch other true => exact (filter.enable_disable (ne_of_apply_ne some apart).symm).symm
  | .switch one false, .switch other false => exact filter.disable_disable one other

/-- The last word about the level, if there is one. -/
def lastThreshold (words : List Word) : Option Level := (words.filterMap Word.threshold?).getLast?

/-- The last word about a component, if there is one. -/
def lastSwitch (component : Component) (words : List Word) : Option Bool :=
  (words.filterMap (Word.switch? component)).getLast?

theorem getLast?_filterMap_concat {α β : Type} (view : α → Option β) (before : List α) (last : α) :
    ((before ++ [last]).filterMap view).getLast? = (view last).or (before.filterMap view).getLast? := by
  rw [List.filterMap_append, List.getLast?_append]
  cases shown : view last with
  | none => rw [List.filterMap_cons_none shown]; rfl
  | some b => rw [List.filterMap_cons_some shown]; rfl

theorem lastThreshold_concat (before : List Word) (last : Word) :
    lastThreshold (before ++ [last]) = last.threshold?.or (lastThreshold before) :=
  getLast?_filterMap_concat ..

theorem lastSwitch_concat (component : Component) (before : List Word) (last : Word) :
    lastSwitch component (before ++ [last]) = (last.switch? component).or (lastSwitch component before) :=
  getLast?_filterMap_concat ..

theorem level_foldl_obey (filter : Filter) (words : List Word) :
    (words.foldl obey filter).level = (lastThreshold words).getD filter.level := by
  induction words using List.reverseRecOn with
  | nil => rfl
  | append_singleton before last ih =>
    rw [List.foldl_append, List.foldl_cons, List.foldl_nil, level_obey, ih, lastThreshold_concat]
    cases last.threshold? <;> rfl

theorem isEnabled_foldl_obey (filter : Filter) (words : List Word) (component : Component) :
    (words.foldl obey filter).isEnabled component = (lastSwitch component words).getD (filter.isEnabled component) := by
  induction words using List.reverseRecOn with
  | nil => rfl
  | append_singleton before last ih =>
    rw [List.foldl_append, List.foldl_cons, List.foldl_nil, isEnabled_obey, ih, lastSwitch_concat]
    cases last.switch? component <;> rfl

/-- Before any word, what is at least information passes, whatever component it is about. -/
theorem admits_foldl_obey (words : List Word) (level : Level) (component : Component) :
    (words.foldl obey {}).admits level component = true ↔
      ((lastThreshold words).getD .info).code ≤ level.code ∧ lastSwitch component words ≠ some false := by
  have enabled : (words.foldl obey {}).isEnabled component = (lastSwitch component words).getD true := by
    rw [isEnabled_foldl_obey]
    cases component <;> rfl
  rw [admits, Bool.and_eq_true, Level.reaches, decide_eq_true_eq, level_foldl_obey, enabled]
  refine and_congr_right fun _ => ?_
  match lastSwitch component words with
  | none => simp
  | some true => simp
  | some false => simp

theorem Known.foldl_obey {filter : Filter} (known : filter.Known) (words : List Word) :
    (words.foldl Filter.obey filter).Known := by
  induction words generalizing filter with
  | nil => exact known
  | cons word rest ih => exact ih (known.obey word)

end Filter
end Log

namespace Ambient

/-- The same surroundings twice, under this filter. -/
def Filtered (filter : Log.Filter) (one other : Ambient) : Prop := other = one ∧ one.filter = filter

/-- Whatever happens to surroundings but for requests, the filter stays. -/
theorem Filtered.steady (filter : Log.Filter) : Steady (Filtered filter) where
  note note _ one other twins := by
    obtain ⟨rfl, kept⟩ := twins_ambient.mp twins
    exact twins_ambient.mpr ⟨rfl, kept⟩
  log level component message one other twins := by
    obtain ⟨rfl, kept⟩ := twins_ambient.mp twins
    exact twins_ambient.mpr ⟨rfl, (congrArg Ambient.filter (other.log_eq level component message)).trans kept⟩
  tell observer event one other twins := by
    obtain ⟨rfl, kept⟩ := twins_ambient.mp twins
    refine ⟨(other.tell? observer event).2, ⟨rfl, ?_⟩, rfl⟩
    match observer with
    | none => exact kept
    | some (.handler _) => exact kept
    | some (.embedded _ _) => exact kept
  request request one other twins := by
    obtain ⟨rfl, kept⟩ := twins_ambient.mp twins
    exact twins_ambient.mpr ⟨rfl, kept⟩

end Ambient

open Log.Filter (Word)

/-- What a step says to the filter, if it is a request that is accepted. -/
def Act.word? : Act → Option Word
  | .call _ (.filterLog request) => request.word?
  | _ => none

namespace Client
open Memory Log Log.Filter

section
variable [Formats]

theorem call_filterLog {engine : Engine} (client : Client engine) (thread : Nat) (request : Filter.Request) :
    let ambient := client.scene.ambient
    client.call thread (.filterLog request) =
      match request.word? with
      | some word =>
        (.code 0, { client with scene := { client.scene with
          ambient := { ambient with filter := ambient.filter.obey word } } })
      | none => (.code 1, client) := by
  intro ambient
  unfold Client.call
  dsimp only
  rw [request_eq]
  cases request.word? <;> rfl

theorem act_filter (client : Client engine) (act : Act) :
    (client.act act).2.scene.ambient.filter =
      act.word?.elim client.scene.ambient.filter client.scene.ambient.filter.obey := by
  cases sets : act.setsLog with
  | false =>
    have silent : act.word? = none := by
      cases act with
      | call thread call =>
        cases call with
        | filterLog => cases sets
        | _ => rfl
      | _ => rfl
    have twins : Twins (Ambient.Filtered client.scene.ambient.filter) client client :=
      ⟨client.scene.ambient, ⟨rfl, rfl⟩, rfl⟩
    obtain ⟨-, ⟨-, kept⟩, -⟩ := act_carries (Ambient.Filtered.steady client.scene.ambient.filter) sets twins
    rw [silent]
    exact kept
  | true =>
    cases act with
    | call thread call =>
      cases call with
      | logTo handler => rfl
      | filterLog request =>
        change (client.call thread (.filterLog request)).2.scene.ambient.filter = request.word?.elim _ _
        rw [call_filterLog]
        cases request.word? <;> rfl
      | _ => cases sets
    | _ => cases sets

theorem acts_filter (client : Client engine) (history : List Act) :
    (client.acts history).2.scene.ambient.filter = (history.filterMap Act.word?).foldl obey client.scene.ambient.filter := by
  induction history generalizing client with
  | nil => rfl
  | cons act rest ih =>
    refine (ih (client.act act).2).trans ?_
    rw [act_filter]
    cases said : act.word? with
    | none => rw [List.filterMap_cons_none said]; rfl
    | some word => rw [List.filterMap_cons_some said]; rfl

/-- The last words make the filter. Whatever else a program does, a record passes if its level reaches the one that
was accepted last, and if the last accepted request about its component, if any, enables it. The level is that of
information before any request, and no bits are set but those of the five components. A request is accepted if
its number is one of the five levels or the flag of one component, and changes nothing else; any other changes nothing
at all. Two accepted requests that are about different things may come in either order. -/
theorem last_words_filter (tree : Config.FileTree) (environment : Config.Variables) (replies : Replies)
    (history : List Act) :
    let client := ((start tree environment replies).acts history).2
    let filter := client.scene.ambient.filter
    let words := history.filterMap Act.word?
    (∀ (request : Filter.Request) word, request.word? = some word ↔ request.Means word) ∧
    (∀ level component, filter.admits level component = true ↔
      ((lastThreshold words).getD .info).code ≤ level.code ∧ lastSwitch component words ≠ some false) ∧
    filter.mask &&& ~~~31 = 0 ∧
    (∀ thread (request : Filter.Request),
      ((client.call thread (.filterLog request)).1 = .code 0 ↔ request.Valid) ∧
        (¬request.Valid → client.call thread (.filterLog request) = (.code 1, client))) ∧
    (∀ thread (request : Filter.Request) word, request.Means word →
      let after := (client.call thread (.filterLog request)).2.scene.ambient.filter
      (word.threshold? = none → after.level = filter.level) ∧
        ∀ component, word.component? ≠ some component → after.isEnabled component = filter.isEnabled component) ∧
    ∀ thread thread' (one other : Filter.Request) word word', one.Means word → other.Means word' →
      word.component? ≠ word'.component? →
      client.run [(thread, .filterLog one), (thread', .filterLog other)] =
        client.run [(thread', .filterLog other), (thread, .filterLog one)] := by
  intro client filter words
  have made : filter = words.foldl obey {} := acts_filter (start tree environment replies) history
  have said {request : Filter.Request} {word : Word} (means : request.Means word) : request.word? = some word :=
    Filter.Request.word?_eq_some_iff.mpr means
  refine ⟨fun request word => Filter.Request.word?_eq_some_iff, fun level component => ?_, ?_, fun thread request => ?_,
    fun thread request word means => ?_, fun thread thread' one other word word' means means' apart => ?_⟩
  · rw [made]
    exact admits_foldl_obey words level component
  · have known : Known {} := rfl
    exact made ▸ known.foldl_obey words
  · rw [Filter.Request.valid_iff, call_filterLog]
    cases request.word? with
    | none => simp
    | some word => simp
  · have answers := client.call_filterLog thread request
    rw [said means] at answers
    intro after
    have follows : after = filter.obey word := congrArg (fun got => got.2.scene.ambient.filter) answers
    rw [follows]
    refine ⟨fun silent => ?_, fun component => filter.isEnabled_obey_other⟩
    rw [level_obey, silent]
    rfl
  · have answers := fun (client : Client engine) => client.call_filterLog thread one
    have answers' := fun (client : Client engine) => client.call_filterLog thread' other
    rw [said means] at answers
    rw [said means'] at answers'
    simp only [run, answers, answers', obey_comm _ apart]

end

/-- Two refused requests among accepted ones: no level has the number 7, and 3 is two flags at once. -/
def mixedRequests : List Act :=
  [.call 0 (.filterLog (.level 3)), .call 1 (.filterLog (.level 7)), .call 0 (.filterLog (.disable 2)),
    .call 1 (.filterLog (.enable 3))]

open scoped Formats.Standard

theorem refused_requests_do_not_count :
    let client := ((start ⟨fun _ => .missing⟩ {} fun _ _ _ => 0).acts mixedRequests).2
    let enable : Filter.Request := .enable 2
    let raise : Filter.Request := .level 4
    enable.Means (.switch .rpc true) ∧ raise.Means (.threshold .error) ∧ ¬(Filter.Request.enable 3).Valid ∧
      client.scene.ambient.filter.admits .warning .unknown = true ∧
      ¬client.scene.ambient.filter.admits .error .rpc = true ∧
      client.call 1 (.filterLog (.enable 3)) = (.code 1, client) ∧
      client.run [(0, .filterLog enable), (1, .filterLog raise)] =
        client.run [(1, .filterLog raise), (0, .filterLog enable)] := by
  intro client enable raise
  have enables : enable.Means (.switch .rpc true) := .enable .rpc
  have raises : raise.Means (.threshold .error) := .level .error
  have refused : ¬(Filter.Request.enable 3).Valid := by
    unfold Filter.Request.Valid
    decide
  obtain ⟨-, passes, -, answers, -, either⟩ :=
    last_words_filter ⟨fun _ => .missing⟩ {} (fun _ _ _ => 0) mixedRequests
  refine ⟨enables, raises, refused, (passes .warning .unknown).mpr ⟨by decide, nofun⟩, fun passed => ?_,
    (answers 1 (.enable 3)).2 refused, either 0 1 enable raise _ _ enables raises nofun⟩
  exact ((passes .error .rpc).mp passed).2 rfl

end Client
end DfsClient
