import ByteAtlas.Dump
import ByteAtlas.Proofs.Description.Literals

/-!
# Dumps can be read back

Nothing is lost in the text of a span. Numbers and bytes in base sixteen are read back (`Text.readDigits?_hexDigits`,
`Text.readHexBytes?_hexBytes`). No digit is a dot or a space, so the parts of a line are told apart, whatever the name
is (`Span.line_injective`); and no preview has a line break, so the preview is told apart from the line, also where the
name has line breaks (`Span.dump_eq_iff`).
-/

namespace ByteAtlas

section Splitting

variable {α : Type} {mark : α} {before other behind rest : List α}

/-- What is in front of the first mark and what is behind it. -/
lemma append_cons_inj_of_first (first : mark ∉ before) (first' : mark ∉ other)
    (same : before ++ mark :: behind = other ++ mark :: rest) : before = other ∧ behind = rest := by
  induction before generalizing other with
  | nil =>
    cases other with
    | nil => exact ⟨rfl, (List.cons.inj same).2⟩
    | cons x other => exact absurd ((List.cons.inj same).1 ▸ List.mem_cons_self) first'
  | cons x before ih =>
    cases other with
    | nil => exact absurd ((List.cons.inj same).1 ▸ List.mem_cons_self) first
    | cons y other =>
      obtain ⟨rfl, more⟩ := List.cons.inj same
      obtain ⟨rfl, rfl⟩ := ih (List.not_mem_of_not_mem_cons first) (List.not_mem_of_not_mem_cons first') more
      exact ⟨rfl, rfl⟩

/-- What is in front of the last mark and what is behind it. -/
lemma append_cons_inj_of_last (last : mark ∉ behind) (last' : mark ∉ rest)
    (same : before ++ mark :: behind = other ++ mark :: rest) : before = other ∧ behind = rest := by
  have reversed := congrArg List.reverse same
  simp only [List.reverse_append, List.reverse_cons, List.append_assoc, List.singleton_append] at reversed
  obtain ⟨behind, before⟩ :=
    append_cons_inj_of_first (mt List.mem_reverse.1 last) (mt List.mem_reverse.1 last') reversed
  exact ⟨List.reverse_inj.1 before, List.reverse_inj.1 behind⟩

end Splitting

namespace Text

open Description

/-- The byte of two digits in base sixteen. -/
def readHexPair? : List Char → Option UInt8
  | [a, b] => do
    let high ← hexValue? a
    let low ← hexValue? b
    some (UInt8.ofNat (16 * high + low))
  | _ => none

/-- The bytes of a text in which there are two digits in base sixteen for each, with a space between them. -/
def readHexBytes? (text : String) : Option (List UInt8) :=
  if text = "" then some [] else (text.toList.splitOn ' ').mapM readHexPair?

lemma isDigit_digitChar {base d : Nat} (small : d < base) : IsDigit base d (Nat.digitChar d) := ⟨small, .inl rfl⟩

lemma hexValue?_hexDigit {d : Nat} (small : d < 16) : hexValue? (hexDigit d) = some d :=
  hexValue?_eq_some_iff.2 (isDigit_digitChar small)

lemma spellsNumber_toDigits (n : Nat) : SpellsNumber 16 n (Nat.toDigits 16 n) := by
  induction n using Nat.strongRecOn with
  | ind n ih =>
    refine ⟨Nat.toDigits_ne_nil, ?_⟩
    rw [Nat.toDigits_eq_if (by decide)]
    split
    · next small => exact ⟨[n], .cons (isDigit_digitChar small) .nil, Nat.ofDigits_singleton.symm⟩
    · next large =>
      obtain ⟨-, digits, spelled, value⟩ := ih (n / 16) (by omega)
      have last : IsDigit 16 (n % 16) (n % 16).digitChar := isDigit_digitChar (Nat.mod_lt n (by decide))
      refine ⟨digits ++ [n % 16], List.rel_append spelled (.cons last .nil), ?_⟩
      rw [List.reverse_append, List.reverse_singleton, List.singleton_append, Nat.ofDigits_cons, ← value]
      exact (Nat.mod_add_div n 16).symm

/-- A zero in front does not change the number. -/
lemma spellsNumber_zero_cons {n : Nat} {chars : List Char} (spelled : SpellsNumber 16 n chars) :
    SpellsNumber 16 n ('0' :: chars) := by
  obtain ⟨-, digits, are_digits, rfl⟩ := spelled
  refine ⟨List.cons_ne_nil _ _, 0 :: digits, .cons (isDigit_digitChar (by decide)) are_digits, ?_⟩
  rw [List.reverse_cons]
  exact (Nat.ofDigits_append_zero _).symm

lemma spellsNumber_hexDigits (width n : Nat) : SpellsNumber 16 n (hexDigits width n) := by
  rw [hexDigits]
  induction width - (Nat.toDigits 16 n).length with
  | zero => exact spellsNumber_toDigits n
  | succ zeros ih => exact spellsNumber_zero_cons ih

theorem readDigits?_hexDigits (width n : Nat) : readDigits? 16 hexValue? (hexDigits width n) = some n :=
  (readDigits?_eq_some_iff hexValue?_eq_some_iff).2 (spellsNumber_hexDigits width n)

lemma toList_hexNumber (width n : Nat) : (hexNumber width n).toList = '0' :: 'x' :: hexDigits width n :=
  String.toList_ofList

lemma hexNumber_inj {width n m : Nat} (same : (hexNumber width n).toList = (hexNumber width m).toList) : n = m := by
  rw [toList_hexNumber, toList_hexNumber] at same
  have digits : hexDigits width n = hexDigits width m := (List.cons.inj (List.cons.inj same).2).2
  exact Option.some.inj ((readDigits?_hexDigits width n).symm.trans (digits ▸ readDigits?_hexDigits width m))

/-- Apart from the mark in front there are only digits. -/
lemma not_mem_hexNumber {width n : Nat} {c : Char} (no_mark : c ≠ 'x') (no_digit : isHexDigit c = false) :
    c ∉ (hexNumber width n).toList := by
  have digits : c ∉ hexDigits width n := by
    intro mem
    have digit := (exists_spellsNumber.1 ⟨n, spellsNumber_hexDigits width n⟩).2 c mem
    rw [exists_isDigit_sixteen, no_digit] at digit
    cases digit
  have no_zero : c ≠ '0' := by
    rintro rfl
    cases no_digit
  rw [toList_hexNumber]
  exact List.not_mem_cons_of_ne_of_not_mem no_zero (List.not_mem_cons_of_ne_of_not_mem no_mark digits)

lemma toList_hexBytes (bytes : List UInt8) : (hexBytes bytes).toList = [' '].intercalate (bytes.map hexPair) :=
  String.toList_ofList

lemma isHexDigit_of_mem_hexPair {b : UInt8} {c : Char} (mem : c ∈ hexPair b) : isHexDigit c = true := by
  have bound := b.toNat_lt
  obtain rfl | rfl := List.mem_pair.1 mem
  · exact exists_isDigit_sixteen.1 ⟨_, isDigit_digitChar (by omega)⟩
  · exact exists_isDigit_sixteen.1 ⟨_, isDigit_digitChar (Nat.mod_lt _ (by decide))⟩

/-- Apart from the spaces there are only digits. -/
lemma not_mem_hexBytes {bytes : List UInt8} {c : Char} (no_space : c ≠ ' ') (no_digit : isHexDigit c = false) :
    c ∉ (hexBytes bytes).toList := by
  have no_pair (b : UInt8) : c ∉ hexPair b := by
    intro mem
    rw [isHexDigit_of_mem_hexPair mem] at no_digit
    cases no_digit
  rw [toList_hexBytes]
  induction bytes with
  | nil => exact List.not_mem_nil
  | cons b bytes ih =>
    cases bytes with
    | nil =>
      rw [List.map_singleton, List.intercalate_singleton]
      exact no_pair b
    | cons next bytes =>
      rw [List.map_cons, List.map_cons, List.intercalate_cons_cons]
      simp only [List.mem_append, List.mem_singleton, not_or]
      exact ⟨⟨no_pair b, no_space⟩, ih⟩

lemma readHexPair?_hexPair (b : UInt8) : readHexPair? (hexPair b) = some b := by
  have bound := b.toNat_lt
  have high : hexValue? (hexDigit (b.toNat / 16)) = some (b.toNat / 16) := hexValue?_hexDigit (by omega)
  have low : hexValue? (hexDigit (b.toNat % 16)) = some (b.toNat % 16) := hexValue?_hexDigit (Nat.mod_lt _ (by decide))
  rw [hexPair, readHexPair?, high, low]
  exact congrArg some ((congrArg UInt8.ofNat (Nat.div_add_mod _ 16)).trans UInt8.ofNat_toNat)

lemma mapM_readHexPair? (bytes : List UInt8) : (bytes.map hexPair).mapM readHexPair? = some bytes := by
  induction bytes with
  | nil => rfl
  | cons b bytes ih =>
    rw [List.map_cons, List.mapM_cons, readHexPair?_hexPair, ih]
    rfl

theorem readHexBytes?_hexBytes (bytes : List UInt8) : readHexBytes? (hexBytes bytes) = some bytes := by
  cases bytes with
  | nil => rfl
  | cons b bytes =>
    have apart : ∀ pair ∈ (b :: bytes).map hexPair, ' ' ∉ pair := by
      intro pair mem space
      obtain ⟨b, -, rfl⟩ := List.mem_map.1 mem
      cases isHexDigit_of_mem_hexPair space
    have groups := List.splitOn_intercalate ' ' apart (List.cons_ne_nil _ _)
    rw [← toList_hexBytes] at groups
    rw [readHexBytes?]
    split
    · next empty =>
      rw [empty] at groups
      cases groups
    · rw [groups, mapM_readHexPair?]

lemma hexBytes_injective : Function.Injective hexBytes := by
  intro bytes other same
  exact Option.some.inj ((readHexBytes?_hexBytes bytes).symm.trans (same ▸ readHexBytes?_hexBytes other))

end Text

namespace Span

open Text

lemma toList_line (s : Span) :
    s.line.toList = (hexNumber 8 s.first).toList ++ '.' :: ('.' :: ((hexNumber 8 s.last).toList ++
      ' ' :: (' ' :: ((fillUp 7 s.color.name).toList ++ ' ' :: s.name.toList)))) := by
  simp only [line, String.toList_append, List.append_assoc]
  rfl

/-- All colours take the same place in a line. -/
lemma length_fillUp_color (c : Color) : (fillUp 7 c.name).toList.length = 7 := by
  cases c <;> rfl

lemma takeWhile_fillUp_color (c : Color) : (fillUp 7 c.name).toList.takeWhile (· ≠ ' ') = c.name.toList := by
  cases c <;> rfl

lemma fillUp_color_inj {c d : Color} (same : (fillUp 7 c.name).toList = (fillUp 7 d.name).toList) : c = d := by
  have names : c.name = d.name := by
    rw [← String.toList_inj, ← takeWhile_fillUp_color, ← takeWhile_fillUp_color, same]
  exact Option.some.inj ((Color.ofName?_name c).symm.trans (names ▸ Color.ofName?_name d))

lemma line_injective : Function.Injective line := by
  rintro ⟨name, color, first, last⟩ ⟨name', color', first', last'⟩ same
  have chars := congrArg String.toList same
  rw [toList_line, toList_line] at chars
  obtain ⟨same_first, chars⟩ := append_cons_inj_of_first (not_mem_hexNumber (by decide) rfl)
    (not_mem_hexNumber (by decide) rfl) chars
  obtain ⟨same_last, chars⟩ := append_cons_inj_of_first (not_mem_hexNumber (by decide) rfl)
    (not_mem_hexNumber (by decide) rfl) (List.cons.inj chars).2
  obtain ⟨same_color, chars⟩ := List.append_inj (List.cons.inj chars).2
    ((length_fillUp_color _).trans (length_fillUp_color _).symm)
  obtain rfl := hexNumber_inj same_first
  obtain rfl := hexNumber_inj same_last
  obtain rfl := fillUp_color_inj same_color
  obtain rfl := String.toList_inj.1 (List.cons.inj chars).2
  rfl

/-- The bytes of a span that a preview shows, if they can be read. -/
def shown? (source : Source) (s : Span) : Option (List UInt8) :=
  (source.read s.first (min s.size previewBytes)).toOption

/-- The preview for the bytes that are shown, or for none. -/
def previewOf (s : Span) : Option (List UInt8) → String
  | some bytes => hexBytes bytes ++ if previewBytes < s.size then " ..." else ""
  | none => "<unreadable>"

lemma preview_eq (source : Source) (s : Span) : s.preview source = s.previewOf (s.shown? source) := by
  rw [preview, shown?]
  cases source.read s.first (min s.size previewBytes) <;> rfl

/-- In a preview that shows bytes there are only digits, spaces and dots. -/
lemma not_mem_previewOf_some (s : Span) (bytes : List UInt8) {c : Char} (no_mark : c ∉ " ...".toList)
    (no_digit : Description.isHexDigit c = false) : c ∉ (s.previewOf (some bytes)).toList := by
  have no_space : c ≠ ' ' := by
    rintro rfl
    exact no_mark (by decide)
  rw [previewOf, String.toList_append, List.mem_append, not_or]
  refine ⟨not_mem_hexBytes no_space no_digit, ?_⟩
  split
  · exact no_mark
  · exact List.not_mem_nil

lemma newline_not_mem_previewOf (s : Span) (bytes? : Option (List UInt8)) : '\n' ∉ (s.previewOf bytes?).toList := by
  cases bytes? with
  | none => exact show '\n' ∉ "<unreadable>".toList by decide
  | some bytes => exact not_mem_previewOf_some s bytes (by decide) rfl

/-- Bytes that can be read do not look like bytes that cannot. -/
lemma previewOf_some_ne (s : Span) (bytes : List UInt8) : s.previewOf (some bytes) ≠ "<unreadable>" := by
  intro same
  have absent : '<' ∉ (s.previewOf (some bytes)).toList := not_mem_previewOf_some s bytes (by decide) rfl
  rw [same] at absent
  exact absent (by decide)

lemma previewOf_injective (s : Span) : Function.Injective s.previewOf := by
  intro bytes? other? same
  cases bytes? with
  | none =>
    cases other? with
    | none => rfl
    | some other => exact absurd same.symm (previewOf_some_ne s other)
  | some bytes =>
    cases other? with
    | none => exact absurd same (previewOf_some_ne s bytes)
    | some other =>
      rw [previewOf, previewOf, String.append_left_inj] at same
      rw [hexBytes_injective same]

lemma toList_dump (source : Source) (s : Span) :
    (s.dump (some source)).toList =
      s.line.toList ++ '\n' :: ("    " ++ s.previewOf (s.shown? source)).toList ++ ['\n'] := by
  rw [← preview_eq, dump]
  simp only [String.toList_append, List.append_assoc]
  rfl

/-- The last line break but the one at the end is in front of the preview. -/
lemma dump_eq_iff {s t : Span} {a b : Source} :
    s.dump (some a) = t.dump (some b) ↔ s = t ∧ s.shown? a = t.shown? b := by
  constructor
  · intro same
    have chars := congrArg String.toList same
    rw [toList_dump, toList_dump, List.append_left_inj] at chars
    have one_line (s : Span) (bytes? : Option (List UInt8)) : '\n' ∉ ("    " ++ s.previewOf bytes?).toList := by
      rw [String.toList_append, List.mem_append, not_or]
      exact ⟨by decide, newline_not_mem_previewOf s bytes?⟩
    obtain ⟨line, preview⟩ := append_cons_inj_of_last (one_line _ _) (one_line _ _) chars
    obtain rfl := line_injective (String.toList_inj.1 line)
    exact ⟨rfl, previewOf_injective s ((String.append_right_inj _).1 (String.toList_inj.1 preview))⟩
  · rintro ⟨rfl, shown⟩
    rw [dump, dump]
    simp only [preview_eq, shown]

/-- The size of any span is counted in words of sixty-four bits. -/
lemma intCast_size (s : Span) : (s.size : ℤ) = ((s.last : ℤ) - s.first + 1) % 2 ^ 64 := by
  have one : (1 : UInt64).toNat = 1 := rfl
  rw [size, UInt64.toNat_add, UInt64.toNat_sub, UInt64.toNat_ofNat', UInt64.toNat_ofNat', one]
  omega

/-- What is shown of a buffer are its bytes from the start of the span on, if it has as many. -/
lemma shown?_ofBytes (s : Span) (data : Array UInt8) :
    s.shown? (.ofBytes data) =
      if s.first + min s.size 16 ≤ data.size then some ((data.toList.drop s.first).take (min s.size 16)) else none := by
  rw [← slice?_eq_take_drop, shown?]
  dsimp only [Source.ofBytes, previewBytes]
  cases slice? data s.first (min s.size 16) <;> rfl

/-- A line determines its span, whatever the offsets and the name are. Bytes are read back from their text. So the
text of a span above its preview determines the span, whether the bytes that are shown of it can be read, and, if so,
what they are; of a buffer these are the first of the span, up to sixteen. Nothing is asked of the size of the span:
that of a reversed one wraps around, and of the one of all offsets, the size of which is zero, no bytes are shown. -/
theorem dump_lossless :
    Function.Injective line ∧ Function.Injective hexBytes ∧
      (∀ bytes, readHexBytes? (hexBytes bytes) = some bytes) ∧
      (∀ (s t : Span) (a b : Source), s.dump (some a) = t.dump (some b) ↔ s = t ∧ s.shown? a = t.shown? b) ∧
      (∀ (s : Span) (data : Array UInt8), s.shown? (.ofBytes data) =
        if s.first + min s.size 16 ≤ data.size then some ((data.toList.drop s.first).take (min s.size 16)) else none) ∧
      ∀ s : Span, (s.size : ℤ) = ((s.last : ℤ) - s.first + 1) % 2 ^ 64 :=
  ⟨line_injective, hexBytes_injective, readHexBytes?_hexBytes, fun _ _ _ _ => dump_eq_iff, shown?_ofBytes, intCast_size⟩

end Span
end ByteAtlas
