import DfsClient.Config.Options
import DfsClient.Formats.Standard
import DfsClient.Proofs.IntegerLookup
import DfsClient.Proofs.SnapshotLookup
import Mathlib.Data.List.Nodup

/-! Options, field by field. Each field is read from the value of one key and from nothing else: it is what that
value means, or the field's default if the value means nothing or there is none. So a value that is set under a key
shows in the field of that key alone. -/

namespace DfsClient.Options

/-- Times in milliseconds, and a size in bytes. -/
inductive Amount where
  | rpcTimeout
  | rpcConnectTimeout
  | rpcRetryDelay
  | blockSize
deriving DecidableEq

inductive Count where
  | rpcRetries
  | failoverRetries
  | failoverConnectionRetries
deriving DecidableEq

inductive Field where
  | amount (which : Amount)
  | count (which : Count)
  | authentication
  | defaultFs
deriving DecidableEq

namespace Field

def key : Field → String
  | .amount .rpcTimeout => "dfs.client.socket-timeout"
  | .amount .rpcConnectTimeout => "ipc.client.connect.timeout"
  | .amount .rpcRetryDelay => "ipc.client.connect.retry.interval"
  | .amount .blockSize => "dfs.blocksize"
  | .count .rpcRetries => "ipc.client.connect.max.retries"
  | .count .failoverRetries => "dfs.client.failover.max.attempts"
  | .count .failoverConnectionRetries => "dfs.client.failover.connection.retries"
  | .authentication => "hadoop.security.authentication"
  | .defaultFs => "fs.defaultFS"

abbrev Value : Field → Type
  | .amount _ => Nat
  | .count _ => Nat
  | .authentication => Authentication
  | .defaultFs => Option Url

/-- What a text means for a field, blanks around it aside: a decimal integer from zero up to the field's width, the
name of the one method that is not the default, or a URL. -/
def Means [Formats] : (field : Field) → String → field.Value → Prop
  | .amount _, text, n => Text.Denotes text (n : Nat) ∧ n ≤ 9223372036854775807
  | .count _, text, n => Text.Denotes text (n : Nat) ∧ n ≤ 4294967295
  | .authentication, text, method => Text.sameFolded (Text.trim text) "kerberos" = true ∧ method = .kerberos
  | .defaultFs, text, url => ∃ parsed, Formats.url (Text.trim text) = .ok parsed ∧ url = some parsed

end Field

def get : Options → (field : Field) → field.Value
  | options, .amount .rpcTimeout => options.rpcTimeout
  | options, .amount .rpcConnectTimeout => options.rpcConnectTimeout
  | options, .amount .rpcRetryDelay => options.rpcRetryDelay
  | options, .amount .blockSize => options.blockSize
  | options, .count .rpcRetries => options.rpcRetries
  | options, .count .failoverRetries => options.failoverRetries
  | options, .count .failoverConnectionRetries => options.failoverConnectionRetries
  | options, .authentication => options.authentication
  | options, .defaultFs => options.defaultFs

def ofFields (value : (field : Field) → field.Value) : Options where
  rpcTimeout := value (.amount .rpcTimeout)
  rpcConnectTimeout := value (.amount .rpcConnectTimeout)
  rpcRetries := value (.count .rpcRetries)
  rpcRetryDelay := value (.amount .rpcRetryDelay)
  failoverRetries := value (.count .failoverRetries)
  failoverConnectionRetries := value (.count .failoverConnectionRetries)
  authentication := value .authentication
  blockSize := value (.amount .blockSize)
  defaultFs := value .defaultFs

/-- The options with another value in one field. -/
def set (options : Options) (field : Field) (value : field.Value) : Options :=
  ofFields (Function.update options.get field value)

theorem get_ofFields (value : (field : Field) → field.Value) (field : Field) :
    (ofFields value).get field = value field := by
  cases field with
  | amount which => cases which <;> rfl
  | count which => cases which <;> rfl
  | authentication => rfl
  | defaultFs => rfl

theorem get_set_same (options : Options) (field : Field) (value : field.Value) :
    (options.set field value).get field = value :=
  (get_ofFields _ field).trans (Function.update_self field value options.get)

theorem get_set_other (options : Options) {field other : Field} (value : field.Value) (differ : other ≠ field) :
    (options.set field value).get other = options.get other :=
  (get_ofFields _ other).trans (Function.update_of_ne differ value options.get)

/-- There is no more to options than their fields. -/
theorem ext_get {one other : Options} (alike : ∀ field, one.get field = other.get field) : one = other :=
  congrArg ofFields (funext alike)

namespace Field

/-- What a field becomes with a text under its key. -/
def read [Formats] : (field : Field) → String → field.Value
  | .amount which, text => (numberUpTo? Text.greatest64 text).getD (get {} (.amount which))
  | .count which, text => (numberUpTo? 4294967295 text).getD (get {} (.count which))
  | .authentication, text => authenticationOf text
  | .defaultFs, text => Snapshot.urlOf? text

/-- A field is what the text means for it, or the default if it means nothing. -/
def Gets [Formats] (field : Field) (text : String) (value : field.Value) : Prop :=
  field.Means text value ∨ (∀ other, ¬field.Means text other) ∧ value = get {} field

end Field

section
variable [Formats]

/-- The options with the field's value as a key has it, if there is one. -/
def setFrom (options : Options) (field : Field) : Option String → Options
  | some text => options.set field (field.read text)
  | none => options

theorem get_setFrom_same (options : Options) (field : Field) (held : Option String) :
    (options.setFrom field held).get field = (held.map field.read).getD (options.get field) := by
  cases held with
  | none => rfl
  | some text => exact get_set_same options field _

theorem get_setFrom_other (options : Options) {field other : Field} (held : Option String) (differ : other ≠ field) :
    (options.setFrom field held).get other = options.get other := by
  cases held with
  | none => rfl
  | some text => exact get_set_other options _ differ

/-- Each field comes from the value of its own key. -/
theorem get_ofSnapshot (snapshot : Snapshot) (field : Field) :
    (ofSnapshot snapshot).get field = ((snapshot.get? field.key).map field.read).getD (get {} field) := by
  have each {α : Type} (held : Option String) (reads : String → Option α) (default : α) :
      (held.bind reads).getD default = (held.map fun text => (reads text).getD default).getD default := by
    cases held <;> rfl
  have missing {α : Type} (held : Option String) (reads : String → Option α) :
      held.bind reads = (held.map reads).getD none := by
    cases held <;> rfl
  cases field with
  | amount which => cases which <;> exact each ..
  | count which => cases which <;> exact each ..
  | authentication => rfl
  | defaultFs => exact missing _ Snapshot.urlOf?

/-- Values that are taken for several fields, one after the other, do not meet. -/
theorem get_foldl (held : Field → Option String) {order : List Field} (once : order.Nodup) (options : Options)
    (field : Field) :
    (order.foldl (fun options field => options.setFrom field (held field)) options).get field =
      if field ∈ order then (options.setFrom field (held field)).get field else options.get field := by
  induction order generalizing options with
  | nil => rfl
  | cons first rest ih =>
    obtain ⟨absent, once⟩ := List.nodup_cons.mp once
    rw [List.foldl_cons, ih once]
    by_cases same : field = first
    · subst same
      rw [if_neg absent, if_pos List.mem_cons_self]
    · have kept := get_setFrom_other options (held first) same
      simp only [List.mem_cons, same, false_or, get_setFrom_same, kept]

end

theorem numberUpTo?_eq_some_iff {bound : Int} (narrow : bound ≤ Text.greatest64) {text : String} {n : Nat} :
    numberUpTo? bound text = some n ↔ Text.Denotes text n ∧ (n : Int) ≤ bound := by
  unfold numberUpTo?
  simp only [Option.map_eq_some_iff, Option.bind_eq_some_iff, Text.within?_eq_some_iff]
  constructor
  · rintro ⟨value, ⟨m, read, ⟨least, most⟩, rfl⟩, rfl⟩
    rw [Int.toNat_of_nonneg least]
    exact ⟨Snapshot.integerOf?_eq_some_iff.mp read, most⟩
  · rintro ⟨denotes, most⟩
    have fits : Text.Fits64 n := ⟨by omega, most.trans narrow⟩
    have value := Text.toInt_ofInt_of_fits64 fits
    refine ⟨n, ⟨Int64.ofInt n, ?_, ⟨?_, ?_⟩, value⟩, Int.toNat_natCast n⟩
    · rw [Snapshot.integerOf?_eq_some_iff, value]
      exact denotes
    · rw [value]
      exact Int.natCast_nonneg n
    · rw [value]
      exact most

namespace Field

/-- A number that is read up to a bound is a decimal integer from zero up to it. -/
theorem read_number {limit : Int} (bound : Nat) (same : limit = bound) (narrow : limit ≤ Text.greatest64) (text : String)
    (default : Nat) :
    let n := (numberUpTo? limit text).getD default
    (Text.Denotes text n ∧ n ≤ bound) ∨ (∀ other : Nat, ¬(Text.Denotes text other ∧ other ≤ bound)) ∧ n = default := by
  have takes (n : Nat) : numberUpTo? limit text = some n ↔ Text.Denotes text n ∧ n ≤ bound := by
    rw [numberUpTo?_eq_some_iff narrow, same, Int.ofNat_le]
  cases read : numberUpTo? limit text with
  | some n => exact .inl ((takes n).mp read)
  | none =>
    refine .inr ⟨fun other means => ?_, rfl⟩
    cases read.symm.trans ((takes other).mpr means)

theorem gets_read [Formats] (field : Field) (text : String) : field.Gets text (field.read text) := by
  cases field with
  | amount which => exact read_number 9223372036854775807 rfl (le_refl _) text (get {} (.amount which))
  | count which => exact read_number 4294967295 rfl (by decide) text (get {} (.count which))
  | authentication =>
    have method : authenticationOf text =
        if Text.sameFolded (Text.trim text) "kerberos" then .kerberos else .simple := rfl
    by_cases named : Text.sameFolded (Text.trim text) "kerberos" = true
    · exact .inl ⟨named, method.trans (if_pos named)⟩
    · refine .inr ⟨fun other means => ?_, method.trans (if_neg named)⟩
      exact named means.1
  | defaultFs =>
    cases parsed : Formats.url (Text.trim text) with
    | ok url => exact .inl ⟨url, parsed, congrArg Except.toOption parsed⟩
    | error problem =>
      refine .inr ⟨fun other ⟨url, valid, _⟩ => ?_, congrArg Except.toOption parsed⟩
      cases parsed.symm.trans valid

/-- The fields in the order of their keys. -/
def all : List Field :=
  [.defaultFs, .amount .rpcTimeout, .amount .rpcConnectTimeout, .count .rpcRetries, .amount .rpcRetryDelay,
    .count .failoverRetries, .count .failoverConnectionRetries, .authentication, .amount .blockSize]

theorem mem_all (field : Field) : field ∈ all := by
  cases field with
  | amount which => cases which <;> decide
  | count which => cases which <;> decide
  | authentication => decide
  | defaultFs => decide

theorem key_mem (field : Field) : field.key ∈ keys := List.mem_map.mpr ⟨field, mem_all field, rfl⟩

/-- Fields have keys of their own, ASCII case aside. -/
theorem key_injective {field other : Field} (same : Text.sameFolded field.key other.key = true) : field = other := by
  have apart : (all.map fun field => Text.fold field.key).Nodup := by decide +kernel
  exact List.inj_on_of_nodup_map apart (mem_all field) (mem_all other) (beq_iff_eq.mp same)

end Field

/-- A value that is set under a key shows in the field of that key, as what it means or else as the default,
whatever was there before. The other fields stay, and no key has two of them. So options are the defaults with each
field from its own key, in whatever order they are taken. -/
theorem options_follow_their_keys [Formats] (snapshot : Snapshot) (key value : String) :
    let before := ofSnapshot snapshot
    let after := ofSnapshot (snapshot.withValue key value)
    (∀ field : Field, Text.sameFolded key field.key = true → after = before.set field (field.read value)) ∧
    ((∀ name ∈ keys, Text.sameFolded key name = false) → after = before) ∧
    (∀ field other : Field, Text.sameFolded field.key other.key = true → field = other) ∧
    (∀ field : Field, field.Gets value (field.read value)) ∧
    (∀ order : List Field, order.Nodup → (∀ field, field ∈ order) →
      before = order.foldl (fun options field => options.setFrom field (snapshot.get? field.key)) {}) ∧
    before.defaultFs = snapshot.getUrl? "fs.defaultFS" := by
  intro before after
  have value? (field : Field) : after.get field =
      if Text.fold field.key = Text.fold key then field.read value else before.get field := by
    rw [get_ofSnapshot, get_ofSnapshot, Snapshot.get?_withValue]
    split <;> rfl
  refine ⟨fun field same => ext_get fun other => ?_, fun others => ext_get fun field => ?_,
    fun field other => Field.key_injective, fun field => field.gets_read value, fun order once all => ?_, rfl⟩
  · have itself : Text.fold field.key = Text.fold key := (beq_iff_eq.mp same).symm
    rw [value?]
    by_cases here : other = field
    · subst here
      rw [if_pos itself, get_set_same]
    · rw [get_set_other before _ here, if_neg]
      intro shared
      exact here (Field.key_injective (beq_iff_eq.mpr (shared.trans itself.symm)))
  · rw [value?, if_neg]
    intro shared
    have apart := others field.key field.key_mem
    rw [Text.sameFolded, shared, beq_self_eq_true] at apart
    cases apart
  · refine ext_get fun field => ?_
    rw [get_foldl (fun field => snapshot.get? field.key) once, if_pos (all field), get_setFrom_same, get_ofSnapshot]

open scoped Formats.Standard

theorem largest_count_is_taken :
    let key := "IPC.client.connect.MAX.retries"
    Text.sameFolded key (Field.key (.count .rpcRetries)) = true ∧
      ofSnapshot (Snapshot.empty.withValue key " +4294967295 ") = { rpcRetries := 4294967295 } := by
  intro key
  have same : Text.sameFolded key (Field.key (.count .rpcRetries)) = true := by decide +kernel
  have taken : numberUpTo? 4294967295 " +4294967295 " = some 4294967295 := by decide +kernel
  have value : Field.read (.count .rpcRetries) " +4294967295 " = (4294967295 : Nat) := by rw [Field.read, taken]; rfl
  obtain ⟨follows, -⟩ := options_follow_their_keys .empty key " +4294967295 "
  refine ⟨same, ?_⟩
  rw [follows (.count .rpcRetries) same, value]
  rfl

end DfsClient.Options
