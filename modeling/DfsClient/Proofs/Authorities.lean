import DfsClient.Formats.Standard
import DfsClient.Proofs.Addresses
import DfsClient.Proofs.PlainText

/-! The reader at hand reads URLs of a scheme, a host and possibly a port as they are written, but for
one thing: a port that is the usual one of its scheme counts as not given. -/

namespace DfsClient
namespace Url

theorem not_isEdge_ink {c : Char} (ink : Text.isInk c = true) : isEdge c = false := by
  simp only [Text.isInk, Bool.and_eq_true, decide_eq_true_eq] at ink
  simp only [isEdge, decide_eq_false_iff_not]
  omega

theorem not_isBreak_ink {c : Char} (ink : Text.isInk c = true) : isBreak c = false := by
  have other (mark : Char) (blank : Text.isInk mark = false) : (c == mark) = false := by
    refine beq_eq_false_iff_ne.mpr ?_
    rintro rfl
    rw [blank] at ink
    cases ink
  rw [isBreak, other '\t' rfl, other '\n' rfl, other '\r' rfl]
  rfl

/-- A character of a host is none of those that mean something around it. -/
theorem isHostChar_ne {c mark : Char} (known : isHostChar c = true) (other : isHostChar mark = false) : c ≠ mark := by
  rintro rfl
  rw [known] at other
  cases other

theorem not_contains {cs marks : List Char} (known : ∀ c ∈ cs, isHostChar c = true)
    (others : marks.any isHostChar = false) : cs.any marks.contains = false := by
  refine List.any_eq_false.mpr fun c member found => ?_
  have among := List.contains_iff_mem.mp found
  exact List.any_eq_false.mp others c among (known c member)

/-! Hosts. -/

theorem bracketed?_host {cs : List Char} (known : ∀ c ∈ cs, isHostChar c = true) : bracketed? cs = none := by
  unfold bracketed?
  split
  next rest => exact absurd rfl (isHostChar_ne (known '[' List.mem_cons_self) rfl)
  next => rfl

theorem not_isControl_ink {c : Char} (ink : Text.isInk c = true) : isControl c = false := by
  simp only [Text.isInk, Bool.and_eq_true, decide_eq_true_eq] at ink
  have last : c ≠ '\x7f' := by
    rintro rfl
    exact absurd ink.2 (by decide)
  simp only [isControl, Bool.or_eq_false_iff, decide_eq_false_iff_not, beq_eq_false_iff_ne]
  exact ⟨by omega, last⟩

theorem encode_ink {set : Char → Bool} {cs : List Char} (ink : ∀ c ∈ cs, Text.isInk c = true)
    (plain : ∀ c ∈ cs, set c = false) : encode set cs = cs := by
  induction cs with
  | nil => rfl
  | cons c cs ih =>
    have first := ink c List.mem_cons_self
    simp only [Text.isInk, Bool.and_eq_true, decide_eq_true_eq] at first
    have ascii : decide (0x80 ≤ c.toNat) = false := decide_eq_false (by omega)
    have kept : encodeChar set c = [c] := by
      simp only [encodeChar, plain c List.mem_cons_self, ascii, Bool.or_self, Bool.false_eq_true, ↓reduceIte]
    have rest := ih (fun c member => ink c (List.mem_cons_of_mem _ member))
      fun c member => plain c (List.mem_cons_of_mem _ member)
    rw [encode, List.flatMap_cons, kept, ← encode, rest]
    rfl

theorem opaqueHost_self {cs : List Char} (known : ∀ c ∈ cs, isHostChar c = true) : opaqueHost cs = .ok cs := by
  have ink : ∀ c ∈ cs, Text.isInk c = true := fun c member => isInk_isHostChar (known c member)
  have free : cs.any forbiddenHostChars.contains = false := not_contains known rfl
  unfold opaqueHost
  rw [bracketed?_host known]
  simp only [free, Bool.false_eq_true, ↓reduceIte]
  rw [encode_ink ink fun c member => not_isControl_ink (ink c member)]

theorem decodeBytes_host {cs : List Char} (known : ∀ c ∈ cs, isHostChar c = true) :
    decodeBytes cs = cs.map fun c => c.val.toUInt8 := by
  induction cs with
  | nil => rfl
  | cons c cs ih =>
    have first := known c List.mem_cons_self
    have rest := ih fun c member => known c (List.mem_cons_of_mem _ member)
    have ink := isInk_isHostChar first
    simp only [Text.isInk, Bool.and_eq_true, decide_eq_true_eq] at ink
    have single : String.utf8EncodeChar c = [c.val.toUInt8] := by
      refine String.utf8EncodeChar_eq_singleton (Char.utf8Size_eq_one_iff.mpr ?_)
      rw [UInt32.le_iff_toNat_le]
      change c.toNat ≤ 127
      omega
    have step : decodeBytes (c :: cs) = String.utf8EncodeChar c ++ decodeBytes cs := by
      have other := isHostChar_ne first (rfl : isHostChar '%' = false)
      rw [decodeBytes.eq_def]
      split
      next same => exact absurd (List.cons.inj same).1 other
      next same =>
        obtain ⟨rfl, rfl⟩ := List.cons.inj same
        rfl
      next same => cases same
    rw [step, single, rest]
    rfl

theorem decode?_host {cs : List Char} (known : ∀ c ∈ cs, isHostChar c = true) :
    Text.decode? (decodeBytes cs) = some (String.ofList cs) := by
  have code (c : Char) (member : c ∈ cs) : c.val.toUInt8.toNat = c.toNat := by
    have ink := isInk_isHostChar (known c member)
    simp only [Text.isInk, Bool.and_eq_true, decide_eq_true_eq] at ink
    rw [UInt32.toNat_toUInt8]
    exact Nat.mod_eq_of_lt (show c.toNat < 256 by omega)
  rw [decodeBytes_host known, Text.decode?_ascii, List.map_map]
  · have same : cs.map ((fun byte : UInt8 => Char.ofNat byte.toNat) ∘ fun c => c.val.toUInt8) = cs := by
      refine (List.map_congr_left fun c member => ?_).trans (List.map_id cs)
      rw [Function.comp_apply, code c member, Char.ofNat_toNat]
      rfl
    rw [same]
  · intro byte member
    obtain ⟨c, among, rfl⟩ := List.mem_map.mp member
    have ink := isInk_isHostChar (known c among)
    simp only [Text.isInk, Bool.and_eq_true, decide_eq_true_eq] at ink
    rw [code c among]
    omega

theorem splitAt_free {mark : Char} {cs : List Char} (free : mark ∉ cs) : splitAt mark cs = [cs] := by
  induction cs with
  | nil => rfl
  | cons c cs ih =>
    obtain ⟨other, rest⟩ := not_or.mp (mt List.mem_cons.mpr free)
    rw [splitAt, if_neg (Ne.symm other), ih rest]

theorem code_isLower {c : Char} (lower : c.isLower = true) : 97 ≤ c.toNat ∧ c.toNat ≤ 122 := by
  change (decide (c.val ≥ 97) && decide (c.val ≤ 122)) = true at lower
  rw [Bool.and_eq_true, decide_eq_true_eq, decide_eq_true_eq] at lower
  exact lower

theorem toLower_isLower {c : Char} (lower : c.isLower = true) : c.toLower = c := by
  have code := code_isLower lower
  unfold Char.toLower
  split
  next upper =>
    have upper := upper.2
    rw [UInt32.le_iff_toNat_le] at upper
    have upper : c.toNat ≤ 90 := upper
    omega
  next => rfl

theorem not_isDecimalDigit_isLower {c : Char} (lower : c.isLower = true) : isDecimalDigit c = false := by
  have code := code_isLower lower
  have high : ¬c ≤ '9' := by
    intro low
    have low : c.toNat ≤ 57 := low
    omega
  rw [isDecimalDigit, decide_eq_false high, Bool.and_false]

theorem endsInNumber_letters {c : Char} {cs : List Char} (lower : ∀ d ∈ c :: cs, d.isLower = true) :
    endsInNumber (c :: cs) = false := by
  have first := not_isDecimalDigit_isLower (lower c List.mem_cons_self)
  have digits : (c :: cs).all isDecimalDigit = false := by
    rw [List.all_cons, first, Bool.false_and]
  have zero : c ≠ '0' := by
    rintro rfl
    cases first
  have number : ipv4Number? (c :: cs) = none := by
    unfold ipv4Number?
    split
    next same => cases same
    next same => exact absurd (List.cons.inj same).1 zero
    next same => exact absurd (List.cons.inj same).1 zero
    next same => exact absurd (List.cons.inj same).1 zero
    next same => exact absurd (List.cons.inj same).1 zero
    next => rw [digits]; rfl
  have whole : splitAt '.' (c :: cs) = [c :: cs] := by
    refine splitAt_free fun member => ?_
    exact absurd (lower '.' member) (by decide)
  unfold endsInNumber
  rw [whole]
  simp only [List.reverse_cons, List.reverse_nil, List.nil_append, digits, number, Bool.and_false,
    Option.isSome_none, Bool.or_self]

theorem domainHost_letters {cs : List Char} (nonempty : cs ≠ []) (lower : ∀ c ∈ cs, c.isLower = true) :
    domainHost cs = .ok cs := by
  have known : ∀ c ∈ cs, isHostChar c = true := fun c member => isHostChar_isLower (lower c member)
  have small : cs.map Char.toLower = cs := by
    exact (List.map_congr_left fun c member => toLower_isLower (lower c member)).trans (List.map_id cs)
  have allowed : cs.any isForbiddenDomainChar = false := by
    refine List.any_eq_false.mpr fun c member => ?_
    have free : forbiddenHostChars.contains c = false := by
      have all : [c].any forbiddenHostChars.contains = false :=
        not_contains (List.forall_mem_singleton.mpr (known c member)) rfl
      rw [List.any_cons, List.any_nil, Bool.or_false] at all
      exact all
    have other : (c == '%') = false := beq_eq_false_iff_ne.mpr (isHostChar_ne (known c member) rfl)
    rw [isForbiddenDomainChar, not_isControl_ink (isInk_isHostChar (known c member)), free, other]
    exact Bool.false_ne_true
  have named : endsInNumber cs = false := by
    obtain ⟨c, rest, rfl⟩ := List.exists_cons_of_ne_nil nonempty
    exact endsInNumber_letters lower
  unfold domainHost
  rw [bracketed?_host known, decode?_host known]
  simp only [String.toList_ofList, small, allowed, nonempty, named, Bool.false_eq_true, ↓reduceIte]

/-! Authorities. -/

theorem endsAuthority_host (kind : Kind) {c : Char} (known : isHostChar c = true) : endsAuthority kind c = false := by
  have ne (mark : Char) (other : isHostChar mark = false) : (c == mark) = false :=
    beq_eq_false_iff_ne.mpr (isHostChar_ne known other)
  simp only [endsAuthority, ne '/' rfl, ne '?' rfl, ne '#' rfl, ne '\\' rfl, Bool.and_false, Bool.or_self]

theorem isSlash_host (kind : Kind) {c : Char} (known : isHostChar c = true) : isSlash kind c = false := by
  rw [isSlash, beq_eq_false_iff_ne.mpr (isHostChar_ne known (rfl : isHostChar '/' = false)),
    beq_eq_false_iff_ne.mpr (isHostChar_ne known (rfl : isHostChar '\\' = false)), Bool.and_false]
  rfl

/-- A host ends at the end of the text or at a colon. -/
theorem hostPart_host (kind : Kind) {host rest : List Char} (known : ∀ c ∈ host, isHostChar c = true)
    (ends : rest = [] ∨ rest.head? = some ':') : hostPart kind false (host ++ rest) = (host, rest) := by
  induction host with
  | nil =>
    cases rest with
    | nil => rfl
    | cons c rest =>
      obtain none | colon := ends
      · cases none
      · cases colon
        rfl
  | cons c host ih =>
    have first := known c List.mem_cons_self
    have more := ih fun c member => known c (List.mem_cons_of_mem _ member)
    have ne (mark : Char) (other : isHostChar mark = false) : c ≠ mark := isHostChar_ne first other
    have within : ((c == ':' && !false) || endsAuthority kind c) = false := by
      rw [beq_eq_false_iff_ne.mpr (ne ':' rfl), endsAuthority_host kind first]
      rfl
    rw [List.cons_append, hostPart, within]
    simp only [Bool.false_eq_true, ↓reduceIte, ne '[' rfl, ne ']' rfl, more]

theorem le_ofDigitChars (cs : List Char) (start : Nat) : start ≤ Nat.ofDigitChars 10 cs start := by
  induction cs generalizing start with
  | nil => exact Nat.le_refl start
  | cons c cs ih =>
    rw [Nat.ofDigitChars_cons]
    have := ih (10 * start + (c.toNat - '0'.toNat))
    omega

theorem portNumber_digits {cs : List Char} (start : Nat) (digits : ∀ c ∈ cs, Text.isDigit c = true)
    (fits : Nat.ofDigitChars 10 cs start ≤ 65535) :
    portNumber start true cs = .ok (some (Nat.ofDigitChars 10 cs start), []) := by
  induction cs generalizing start with
  | nil => rfl
  | cons c cs ih =>
    have first : isDecimalDigit c = true := digits c List.mem_cons_self
    rw [Nat.ofDigitChars_cons, Nat.mul_comm] at fits ⊢
    have bound := le_ofDigitChars cs (start * 10 + (c.toNat - '0'.toNat))
    rw [portNumber, if_pos first]
    dsimp only
    rw [if_neg (by omega)]
    exact ih _ (fun c member => digits c (List.mem_cons_of_mem _ member)) fits

theorem portNumber_natural {digits : List Char} {port : UInt16} (value : Text.natural? digits = some port.toNat) :
    portNumber 0 false digits = .ok (some port.toNat, []) := by
  unfold Text.natural? at value
  split at value
  next all =>
    obtain ⟨nonempty, all⟩ := all
    obtain ⟨c, cs, rfl⟩ := List.exists_cons_of_ne_nil nonempty
    have digits := List.all_eq_true.mp all
    have bound := port.toNat_lt
    have first : isDecimalDigit c = true := digits c List.mem_cons_self
    have same : portNumber 0 false (c :: cs) = portNumber 0 true (c :: cs) := by
      rw [portNumber, portNumber, if_pos first, if_pos first]
    rw [same, portNumber_digits 0 digits (by rw [Option.some.inj value]; omega), Option.some.inj value]
  next => cases value

theorem PortText.ends {text : List Char} {port : Option UInt16} (written : PortText text port) :
    text = [] ∨ text.head? = some ':' := by
  cases written with
  | absent => exact .inl rfl
  | present => exact .inr rfl

/-- Without an at sign nobody's name stands in front of a host. -/
theorem credentials_host (kind : Kind) {host text : List Char} {port : Option UInt16}
    (known : ∀ c ∈ host, isHostChar c = true) (written : PortText text port) :
    credentials kind (host ++ text) = .ok (([], []), host ++ text) := by
  have free : '@' ∉ (host ++ text).takeWhile fun c => !endsAuthority kind c := by
    intro member
    obtain among | behind := List.mem_append.mp ((List.takeWhile_sublist _).subset member)
    · exact isHostChar_ne (known '@' among) rfl rfl
    · obtain colon | digit := written.chars '@' behind
      · cases colon
      · cases digit
  have absent : ((host ++ text).takeWhile fun c => !endsAuthority kind c).contains '@' = false := by
    rw [List.contains_eq_mem]
    exact decide_eq_false free
  unfold credentials
  simp only [absent, Bool.false_eq_true, ↓reduceIte]

theorem unusualPort_shown (scheme : String) (port : Option UInt16) :
    unusualPort scheme (port.map UInt16.toNat) = shownPort scheme port := by
  cases port with
  | none => rfl
  | some port =>
    rw [Option.map_some, unusualPort, UInt16.ofNat_toNat, shownPort, Option.filter_some]
    by_cases usual : usualPort? scheme = some port
    · simp [usual]
    · simp [usual]

theorem readAuthority_host (scheme : String) {kind : Kind} {host text : List Char} {port : Option UInt16}
    (nonempty : host ≠ []) (known : ∀ c ∈ host, isHostChar c = true) (reads : readHost kind host = .ok host)
    (written : PortText text port) :
    readAuthority scheme kind (host ++ text) =
      .ok ({ host := String.ofList host, port := shownPort scheme port }, []) := by
  have parts := hostPart_host kind known written.ends
  have shown := unusualPort_shown scheme port
  unfold readAuthority
  simp only [credentials_host kind known written, bind, Except.bind, parts, reads, nonempty, false_and, ↓reduceIte]
  cases written with
  | absent => rfl
  | present digits port value =>
    change (portNumber 0 false digits).bind (fun read => .ok (({
      host := String.ofList host, port := unusualPort scheme read.1 } : Authority), read.2)) = _
    rw [portNumber_natural value, ← shown]
    rfl

/-! Whole URLs. -/

variable {scheme host text : List Char} {port : Option UInt16}

theorem scheme?_spell (isScheme : IsScheme scheme) (rest : List Char) :
    scheme? (scheme ++ ':' :: rest) = some (Text.fold (String.ofList scheme), rest) := by
  have chars := isScheme.chars
  have kept : (scheme ++ ':' :: rest).takeWhile isSchemeChar = scheme := by
    rw [List.takeWhile_append_of_pos chars]
    exact List.append_nil scheme
  have left : (scheme ++ ':' :: rest).dropWhile isSchemeChar = ':' :: rest :=
    List.dropWhile_append_of_pos chars
  obtain ⟨first, others, rfl, letter, -⟩ := isScheme
  have named : Text.fold (String.ofList (first :: others)) = String.ofList ((first :: others).map Char.toLower) := by
    rw [Text.fold, String.toList_ofList]
  unfold scheme?
  simp only [List.cons_append, letter, ↓reduceIte]
  rw [List.cons_append] at kept left
  rw [left, kept, named]
  rfl

theorem ofScheme_remote {scheme : String} (remote : scheme ≠ "file") :
    Kind.ofScheme scheme = .web ∨ Kind.ofScheme scheme = .other := by
  unfold Kind.ofScheme
  rw [if_neg remote]
  split
  · exact .inl rfl
  · exact .inr rfl

/-- A host that its scheme reads as it is written is the host of the URL, with the port that is written
unless it is the usual one. -/
theorem parse_spell (isScheme : IsScheme scheme) (remote : Text.fold (String.ofList scheme) ≠ "file")
    (nonempty : host ≠ []) (known : ∀ c ∈ host, isHostChar c = true)
    (reads : readHost (Kind.ofScheme (Text.fold (String.ofList scheme))) host = .ok host)
    (written : PortText text port) :
    ∃ url, parse (String.ofList (spell scheme host text)) = .ok url ∧ url.host? = some (String.ofList host) ∧
      url.port? = shownPort (Text.fold (String.ofList scheme)) port := by
  have ink := spell_ink isScheme known written
  have edges : Text.trimBy isEdge (spell scheme host text) = spell scheme host text :=
    Text.trimBy_self fun c member => not_isEdge_ink (ink c member)
  have seen : visible (spell scheme host text) = spell scheme host text :=
    List.filter_eq_self.mpr fun c member => by rw [not_isBreak_ink (ink c member)]; rfl
  have found : scheme? (spell scheme host text) =
      some (Text.fold (String.ofList scheme), '/' :: '/' :: (host ++ text)) := scheme?_spell isScheme _
  have authority := readAuthority_host (Text.fold (String.ofList scheme)) nonempty known reads written
  have hosted : String.ofList host ≠ "" := by simpa using nonempty
  unfold parse
  rw [String.toList_ofList, edges]
  dsimp only
  rw [seen, found]
  dsimp only
  cases ofScheme_remote remote with
  | inl web =>
    have slashes : ('/' :: '/' :: (host ++ text)).dropWhile (isSlash .web) = host ++ text := by
      obtain ⟨c, rest, rfl⟩ := List.exists_cons_of_ne_nil nonempty
      rw [List.cons_append]
      change (c :: (rest ++ text)).dropWhile (isSlash .web) = _
      exact List.dropWhile_cons_of_neg (by simp [isSlash_host .web (known c List.mem_cons_self)])
    rw [web] at authority ⊢
    dsimp only
    rw [slashes, authority]
    exact ⟨_, rfl, if_neg hosted, rfl⟩
  | inr other =>
    rw [other] at authority ⊢
    change ∃ url, (readAuthority _ .other (host ++ text)).bind (fun read => .ok
      (assemble _ .other (some read.1) (pathAfterAuthority .other read.2) read.2)) = .ok url ∧ _
    rw [authority]
    exact ⟨_, rfl, if_neg hosted, rfl⟩

theorem readHost_letters (kind : Kind) {cs : List Char} (nonempty : cs ≠ []) (lower : ∀ c ∈ cs, c.isLower = true) :
    readHost kind cs = .ok cs := by
  unfold readHost
  split
  · rw [domainHost_letters nonempty lower]
  · exact opaqueHost_self fun c member => isHostChar_isLower (lower c member)

end Url

open scoped Formats.Standard
open Url

/-- The reader at hand reads addresses as a client expects it. -/
theorem Formats.Standard.readsAddresses : Formats.ReadsAddresses where
  letters isScheme remote nonempty lower written := by
    have known := fun c member => isHostChar_isLower (lower c member)
    obtain ⟨url, parsed, host?, port?⟩ :=
      parse_spell isScheme remote nonempty known (readHost_letters _ nonempty lower) written
    exact ⟨url, congrArg (Except.mapError Error.message) parsed, host?, port?⟩
  hdfs := by
    intro host text port nonempty known written
    have isScheme : IsScheme "hdfs".toList := ⟨'h', ['d', 'f', 's'], rfl, rfl, List.all_eq_true.mp rfl⟩
    have folded : Text.fold (String.ofList "hdfs".toList) = "hdfs" := by decide
    have reads : readHost (Kind.ofScheme (Text.fold (String.ofList "hdfs".toList))) host = .ok host := by
      rw [folded]
      exact opaqueHost_self known
    have kept : shownPort (Text.fold (String.ofList "hdfs".toList)) port = port := by
      rw [folded]
      cases port <;> rfl
    obtain ⟨url, parsed, host?, port?⟩ := parse_spell isScheme (by rw [folded]; decide) nonempty known reads written
    exact ⟨url, congrArg (Except.mapError Error.message) parsed, host?, port?.trans kept⟩

end DfsClient
