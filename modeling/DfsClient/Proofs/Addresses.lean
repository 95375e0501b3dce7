import DfsClient.Config.Snapshot
import DfsClient.Proofs.Numerals

/-! URLs that are written as a scheme, a host and possibly a port, and what a client may take for granted
about how they are read: as they are written, but for a port that is the usual one of its scheme, which
counts as not given. -/

namespace DfsClient

namespace Text

/-- Neither blank nor a control character, and in ASCII. -/
def isInk (c : Char) : Bool := decide (0x20 < c.toNat) && decide (c.toNat < 0x7F)

variable {c : Char}

theorem not_isBlank_ink (ink : isInk c = true) : isBlank c = false := by
  simp only [isInk, Bool.and_eq_true, decide_eq_true_eq] at ink
  simp only [isBlank, blankRanges, List.any_cons, List.any_nil, Bool.or_false, Bool.or_eq_false_iff,
    Bool.and_eq_false_iff, decide_eq_false_iff_not]
  omega

/-- Blanks around a text without blanks are all that a trim takes away. -/
theorem trimBy_around {drops : Char → Bool} {before body behind : List Char} (nonempty : body ≠ [])
    (dropped : ∀ c ∈ before, drops c = true) (dropped' : ∀ c ∈ behind, drops c = true)
    (kept : ∀ c ∈ body, drops c = false) : trimBy drops (before ++ body ++ behind) = body := by
  have forth {before body : List Char} (nonempty : body ≠ []) (rest : List Char)
      (dropped : ∀ c ∈ before, drops c = true) (kept : ∀ c ∈ body, drops c = false) :
      (before ++ (body ++ rest)).dropWhile drops = body ++ rest := by
    obtain ⟨c, cs, rfl⟩ := List.exists_cons_of_ne_nil nonempty
    rw [List.dropWhile_append_of_pos dropped]
    exact List.dropWhile_cons_of_neg (by simp [kept c List.mem_cons_self])
  have back := forth (by simpa using nonempty) []
    (fun c member => dropped' c (List.mem_reverse.mp member)) fun c member => kept c (List.mem_reverse.mp member)
  unfold trimBy
  rw [List.append_assoc, forth nonempty behind dropped kept, List.reverse_append]
  rw [List.append_nil] at back
  rw [back, List.reverse_reverse]

end Text

namespace Url

/-- Letters and digits, points and hyphens. -/
def isHostChar (c : Char) : Bool := c.isAlphanum || c == '.' || c == '-'

theorem isInk_isAlphanum {c : Char} (known : c.isAlphanum = true) : Text.isInk c = true := by
  change ((decide (c.val ≥ 65 ∧ c.val ≤ 90) || (decide (c.val ≥ 97) && decide (c.val ≤ 122))) ||
    (decide (c.val ≥ 48) && decide (c.val ≤ 57))) = true at known
  simp only [Bool.or_eq_true, Bool.and_eq_true, decide_eq_true_eq] at known
  change (((65 ≤ c.toNat ∧ c.toNat ≤ 90) ∨ (97 ≤ c.toNat ∧ c.toNat ≤ 122)) ∨
    (48 ≤ c.toNat ∧ c.toNat ≤ 57)) at known
  simp only [Text.isInk, Bool.and_eq_true, decide_eq_true_eq]
  omega

theorem isInk_isHostChar {c : Char} (known : isHostChar c = true) : Text.isInk c = true := by
  simp only [isHostChar, Bool.or_eq_true, beq_iff_eq] at known
  obtain (known | rfl) | rfl := known
  · exact isInk_isAlphanum known
  · rfl
  · rfl

theorem isInk_isSchemeChar {c : Char} (known : isSchemeChar c = true) : Text.isInk c = true := by
  simp only [isSchemeChar, Bool.or_eq_true, beq_iff_eq] at known
  obtain ((known | rfl) | rfl) | rfl := known
  · exact isInk_isAlphanum known
  · rfl
  · rfl
  · rfl

theorem isInk_isDigit {c : Char} (known : Text.isDigit c = true) : Text.isInk c = true := by
  simp only [Text.isDigit, Bool.and_eq_true, decide_eq_true_eq] at known
  change 48 ≤ c.toNat ∧ c.toNat ≤ 57 at known
  simp only [Text.isInk, Bool.and_eq_true, decide_eq_true_eq]
  omega

/-- A port as it may be written after a host. Zeros may stand in front. -/
inductive PortText : List Char → Option UInt16 → Prop
  | absent : PortText [] none
  | present (digits : List Char) (port : UInt16) (value : Text.natural? digits = some port.toNat) :
    PortText (':' :: digits) (some port)

theorem PortText.chars {text : List Char} {port : Option UInt16} (written : PortText text port) :
    ∀ c ∈ text, c = ':' ∨ Text.isDigit c = true := by
  cases written with
  | absent => exact nofun
  | present digits port value =>
    refine List.forall_mem_cons.mpr ⟨.inl rfl, fun c member => .inr ?_⟩
    unfold Text.natural? at value
    split at value
    next all => exact List.all_eq_true.mp all.2 c member
    next => cases value

theorem PortText.ink {text : List Char} {port : Option UInt16} (written : PortText text port) :
    ∀ c ∈ text, Text.isInk c = true := by
  intro c member
  obtain rfl | digit := written.chars c member
  · rfl
  · exact isInk_isDigit digit

/-- The port that a URL shows, which is never the usual one of its scheme. -/
def shownPort (scheme : String) (port : Option UInt16) : Option UInt16 :=
  port.filter fun port => usualPort? scheme ≠ some port

/-- A scheme as it may be written, in any case. -/
def IsScheme (scheme : List Char) : Prop :=
  ∃ first rest, scheme = first :: rest ∧ first.isAlpha = true ∧ ∀ c ∈ rest, isSchemeChar c = true

/-- A scheme, a host and possibly a port, and nothing else. -/
def spell (scheme host text : List Char) : List Char := scheme ++ ':' :: '/' :: '/' :: (host ++ text)

variable {scheme host text : List Char} {port : Option UInt16}

theorem IsScheme.chars (isScheme : IsScheme scheme) : ∀ c ∈ scheme, isSchemeChar c = true := by
  obtain ⟨first, rest, rfl, letter, others⟩ := isScheme
  refine List.forall_mem_cons.mpr ⟨?_, others⟩
  simp only [isSchemeChar, Char.isAlphanum, letter, Bool.true_or]

theorem spell_ink (isScheme : IsScheme scheme) (known : ∀ c ∈ host, isHostChar c = true)
    (written : PortText text port) : ∀ c ∈ spell scheme host text, Text.isInk c = true := by
  intro c member
  obtain among | member := List.mem_append.mp member
  · exact isInk_isSchemeChar (isScheme.chars c among)
  · simp only [List.mem_cons, List.mem_append] at member
    obtain rfl | rfl | rfl | among | behind := member
    · rfl
    · rfl
    · rfl
    · exact isInk_isHostChar (known c among)
    · exact written.ink c behind

/-- A text that is a scheme, a host and possibly a port, with blanks around it. -/
inductive Spelled (scheme host : String) (port : Option UInt16) : String → Prop
  | around (before behind text : List Char) (blank : ∀ c ∈ before ++ behind, Text.isBlank c = true)
    (written : PortText text port) :
    Spelled scheme host port (String.ofList (before ++ spell scheme.toList host.toList text ++ behind))

end Url

open Url

/-- URLs are read as they are written. Lower-case letters are a host under every scheme but that of files, and
what a host may be made of is one under the client's own scheme. -/
structure Formats.ReadsAddresses [Formats] : Prop where
  letters : ∀ {scheme host text : List Char} {port : Option UInt16}, IsScheme scheme →
    Text.fold (String.ofList scheme) ≠ "file" → host ≠ [] → (∀ c ∈ host, c.isLower = true) → PortText text port →
    ∃ url, Formats.url (String.ofList (spell scheme host text)) = .ok url ∧ url.host? = some (String.ofList host) ∧
      url.port? = shownPort (Text.fold (String.ofList scheme)) port
  hdfs : ∀ {host text : List Char} {port : Option UInt16}, host ≠ [] → (∀ c ∈ host, isHostChar c = true) →
    PortText text port →
    ∃ url, Formats.url (String.ofList (spell "hdfs".toList host text)) = .ok url ∧
      url.host? = some (String.ofList host) ∧ url.port? = port

namespace Url

theorem trim_around {scheme host text before behind : List Char} {port : Option UInt16} (isScheme : IsScheme scheme)
    (known : ∀ c ∈ host, isHostChar c = true) (written : PortText text port)
    (blank : ∀ c ∈ before ++ behind, Text.isBlank c = true) :
    Text.trim (String.ofList (before ++ spell scheme host text ++ behind)) =
      String.ofList (spell scheme host text) := by
  have ink := spell_ink isScheme known written
  rw [Text.trim, String.toList_ofList, Text.trimBy_around]
  · exact List.append_ne_nil_of_right_ne_nil _ nofun
  · exact fun c member => blank c (List.mem_append_left _ member)
  · exact fun c member => blank c (List.mem_append_right _ member)
  · exact fun c member => Text.not_isBlank_ink (ink c member)

theorem isHostChar_isLower {c : Char} (lower : c.isLower = true) : isHostChar c = true := by
  have letter : c.isAlphanum = true := by
    change ((c.isUpper || c.isLower) || c.isDigit) = true
    rw [lower, Bool.or_true, Bool.true_or]
  rw [isHostChar, letter]
  rfl

variable [Formats] (reads : Formats.ReadsAddresses) {scheme host value : String} {port : Option UInt16}
include reads

theorem urlOf?_letters (isScheme : IsScheme scheme.toList)
    (remote : Text.fold scheme ≠ "file") (nonempty : host ≠ "") (lower : ∀ c ∈ host.toList, c.isLower = true)
    (spelled : Spelled scheme host port value) :
    ∃ url, Snapshot.urlOf? value = some url ∧ url.host? = some host ∧
      url.port? = shownPort (Text.fold scheme) port := by
  obtain ⟨before, behind, text, blank, written⟩ := spelled
  have known : ∀ c ∈ host.toList, isHostChar c = true := fun c member => isHostChar_isLower (lower c member)
  have trimmed := trim_around isScheme known written blank
  obtain ⟨url, parsed, host?, port?⟩ :=
    reads.letters isScheme (String.ofList_toList.symm ▸ remote) (by simpa using nonempty) lower written
  rw [String.ofList_toList] at host? port?
  refine ⟨url, ?_, host?, port?⟩
  rw [Snapshot.urlOf?, trimmed, parsed]
  rfl

theorem urlOf?_hdfs (nonempty : host ≠ "") (known : ∀ c ∈ host.toList, isHostChar c = true)
    (spelled : Spelled "hdfs" host port value) :
    ∃ url, Snapshot.urlOf? value = some url ∧ url.host? = some host ∧ url.port? = port := by
  obtain ⟨before, behind, text, blank, written⟩ := spelled
  have isScheme : IsScheme "hdfs".toList := ⟨'h', ['d', 'f', 's'], rfl, rfl, List.all_eq_true.mp rfl⟩
  have trimmed := trim_around isScheme known written blank
  obtain ⟨url, parsed, host?, port?⟩ := reads.hdfs (by simpa using nonempty) known written
  rw [String.ofList_toList] at host?
  refine ⟨url, ?_, host?, port?⟩
  rw [Snapshot.urlOf?, trimmed, parsed]
  rfl

end Url
end DfsClient
