import ByteAtlas.Proofs.Description.Grammar

/-!
# What literals stand for

Numbers, scalar types, bytes and texts are read from what spells them, and from nothing else
(`spellsCount_iff`, `readScalarType_eq_ok_iff`, `unescape_eq_ok_iff`, `spellsPairs_iff`).
-/

namespace ByteAtlas.Description

lemma map_eq_ok_iff {ε α β : Type} {f : α → β} {x : Except ε α} {b : β} :
    x.map f = .ok b ↔ ∃ a, x = .ok a ∧ f a = b := by
  cases x <;> simp [Except.map]

lemma bind_eq_ok_iff {ε α β : Type} {x : Except ε α} {f : α → Except ε β} {b : β} :
    (x >>= f) = .ok b ↔ ∃ a, x = .ok a ∧ f a = .ok b := by
  cases x <;> simp [bind, Except.bind]

lemma mapError_eq_ok_iff {ε ε' α : Type} {f : ε → ε'} {x : Except ε α} {a : α} : x.mapError f = .ok a ↔ x = .ok a := by
  cases x <;> simp [Except.mapError]

/-! Digits. -/

/-- Digits by their place among the characters. -/
lemma isDigit_iff_toNat {d : Nat} {c : Char} (small : d < 16) :
    (c = Nat.digitChar d ∨ c = (Nat.digitChar d).toUpper) ↔
      if d < 10 then c.toNat = 48 + d else c.toNat = 87 + d ∨ c.toNat = 55 + d := by
  have places : ∀ d < 16,
      if d < 10 then (Nat.digitChar d).toNat = 48 + d ∧ (Nat.digitChar d).toUpper.toNat = 48 + d
      else (Nat.digitChar d).toNat = 87 + d ∧ (Nat.digitChar d).toUpper.toNat = 55 + d := by decide
  have place := places d small
  rw [← Char.toNat_inj, ← Char.toNat_inj]
  split at place <;> simp_all

lemma hexValue?_eq_some_iff {c : Char} {d : Nat} : Text.hexValue? c = some d ↔ IsDigit 16 d c := by
  simp only [Text.hexValue?, Char.le_def, UInt32.le_iff_toNat_le, Char.toNat_val, Char.reduceToNat]
  constructor
  · intro found
    split_ifs at found <;> cases found
    all_goals
      refine ⟨by omega, (isDigit_iff_toNat (by omega)).2 ?_⟩
      split <;> omega
  · rintro ⟨small, digit⟩
    rw [isDigit_iff_toNat small] at digit
    split at digit <;> split_ifs <;> first | exact congrArg some (by omega) | omega

lemma decimalValue?_eq_some_iff {c : Char} {d : Nat} : Text.decimalValue? c = some d ↔ IsDigit 10 d c := by
  simp only [Text.decimalValue?, Char.le_def, UInt32.le_iff_toNat_le, Char.toNat_val, Char.reduceToNat]
  constructor
  · intro found
    split_ifs at found
    cases found
    refine ⟨by omega, (isDigit_iff_toNat (by omega)).2 ?_⟩
    split <;> omega
  · rintro ⟨small, digit⟩
    rw [isDigit_iff_toNat (by omega), if_pos small] at digit
    split_ifs <;> first | exact congrArg some (by omega) | omega

lemma exists_isDigit_ten {c : Char} : (∃ d, IsDigit 10 d c) ↔ c.isDigit = true := by
  simp only [← decimalValue?_eq_some_iff, ← Option.isSome_iff_exists, Text.decimalValue?]
  simp [Char.isDigit, Char.le_def]

lemma exists_isDigit_sixteen {c : Char} : (∃ d, IsDigit 16 d c) ↔ isHexDigit c = true := by
  simp only [← hexValue?_eq_some_iff, ← Option.isSome_iff_exists, Text.hexValue?, isHexDigit, Char.isDigit]
  split_ifs <;> simp_all [Char.le_def]

section

variable {base : Nat} {value? : Char → Option Nat} (digit : ∀ {c d}, value? c = some d ↔ IsDigit base d c)

include digit

lemma foldlM_digits {chars : List Char} {start n : Nat} :
    chars.foldlM (fun n c => (value? c).map (base * n + ·)) start = some n ↔
      ∃ digits, List.Forall₂ (IsDigit base) digits chars ∧ n = digits.foldl (fun n d => base * n + d) start := by
  induction chars generalizing start with
  | nil => simp [eq_comm]
  | cons c chars ih =>
    simp only [List.foldlM_cons, Option.bind_eq_bind, Option.bind_eq_some_iff, Option.map_eq_some_iff, digit, ih,
      List.forall₂_cons_right_iff]
    constructor
    · rintro ⟨_, ⟨d, is_digit, rfl⟩, digits, are_digits, rfl⟩
      exact ⟨_, ⟨d, digits, is_digit, are_digits, rfl⟩, rfl⟩
    · rintro ⟨_, ⟨d, digits, is_digit, are_digits, rfl⟩, rfl⟩
      exact ⟨_, ⟨d, is_digit, rfl⟩, digits, are_digits, rfl⟩

theorem readDigits?_eq_some_iff {chars : List Char} {n : Nat} :
    Text.readDigits? base value? chars = some n ↔ SpellsNumber base n chars := by
  have place_value (digits : List Nat) :
      digits.foldl (fun n d => base * n + d) 0 = Nat.ofDigits base digits.reverse := by
    rw [Nat.ofDigits_eq_foldr, List.foldl_eq_foldr_reverse]
    simp [Nat.add_comm]
  rw [SpellsNumber]
  cases chars with
  | nil => simp [Text.readDigits?]
  | cons c chars =>
    rw [Text.readDigits?, foldlM_digits digit]
    · simp only [place_value, ne_eq, reduceCtorEq, not_false_eq_true, true_and]
    · simp

end

lemma exists_spellsNumber {base : Nat} {chars : List Char} :
    (∃ n, SpellsNumber base n chars) ↔ chars ≠ [] ∧ ∀ c ∈ chars, ∃ d, IsDigit base d c := by
  have one_by_one :
      (∃ digits, List.Forall₂ (IsDigit base) digits chars) ↔ ∀ c ∈ chars, ∃ d, IsDigit base d c := by
    induction chars with
    | nil => simp
    | cons c chars ih =>
      rw [List.forall_mem_cons, ← ih]
      constructor
      · rintro ⟨_, digits⟩
        obtain ⟨d, more, is_digit, are_digits, rfl⟩ := List.forall₂_cons_right_iff.1 digits
        exact ⟨⟨d, is_digit⟩, more, are_digits⟩
      · rintro ⟨⟨d, is_digit⟩, more, are_digits⟩
        exact ⟨d :: more, .cons is_digit are_digits⟩
  rw [← one_by_one]
  constructor
  · rintro ⟨n, some_char, digits, are_digits, -⟩
    exact ⟨some_char, digits, are_digits⟩
  · rintro ⟨some_char, digits, are_digits⟩
    exact ⟨_, some_char, digits, are_digits, rfl⟩

/-! Counts. -/

lemma hexDigits?_eq_some_iff {word : String} {digits : List Char} :
    hexDigits? word = some digits ↔
      word = String.ofList ('0' :: 'x' :: digits) ∧ ∃ n, SpellsNumber 16 n digits := by
  have spelled : (∃ n, SpellsNumber 16 n digits) ↔ (!digits.isEmpty && digits.all isHexDigit) = true := by
    simp [exists_spellsNumber, exists_isDigit_sixteen]
  rw [spelled]
  constructor
  · intro found
    revert found
    fun_cases hexDigits? word <;> intro found
    case case1 digits' split formed =>
      cases found
      exact ⟨by rw [← split, String.ofList_toList], formed⟩
    all_goals cases found
  · rintro ⟨rfl, formed⟩
    simp only [hexDigits?, String.toList_ofList, if_pos formed]

lemma isDecimal_iff {word : String} : isDecimal word = true ↔ ∃ n, SpellsNumber 10 n word.toList := by
  simp [exists_spellsNumber, exists_isDigit_ten, isDecimal]

lemma checkedNumber_eq_ok_iff {word : String} {n? : Option Nat} {count : CountTerm} :
    checkedNumber word n? = .ok count ↔ ∃ n, n? = some n ∧ n ≤ maxOffset ∧ count = .number n := by
  cases n? with
  | none => simp [checkedNumber]
  | some n =>
    rw [checkedNumber]
    split <;> simp_all [eq_comm]

lemma hexDigits?_eq_none {word : String} (other : ∀ digits, word ≠ String.ofList ('0' :: 'x' :: digits)) :
    hexDigits? word = none :=
  Option.eq_none_iff_forall_ne_some.2 fun digits found => other digits (hexDigits?_eq_some_iff.1 found).1

/-- A number in base ten is none in base sixteen: its second character is no `x`. -/
lemma SpellsNumber.no_hex {n : Nat} {chars : List Char} (spelled : SpellsNumber 10 n chars) :
    hexDigits? (String.ofList chars) = none := by
  refine hexDigits?_eq_none fun digits same => ?_
  obtain ⟨d, digit⟩ := (exists_spellsNumber.1 ⟨n, spelled⟩).2 'x' (by simp [String.ofList_inj.1 same])
  exact absurd (exists_isDigit_ten.1 ⟨d, digit⟩) (by decide)

lemma Identifier.no_number {word : String} (identifier : Identifier word) :
    hexDigits? word = none ∧ ¬isDecimal word = true := by
  obtain ⟨first, rest, split, letter, -⟩ := identifier
  have no_digit : ¬first.isDigit = true := by
    rcases letter with letter | rfl
    · exact not_isDigit_of_isAlpha letter
    · decide
  constructor
  · refine hexDigits?_eq_none fun digits same => ?_
    rw [same, String.toList_ofList] at split
    cases split
    exact no_digit rfl
  · simp [isDecimal, split, no_digit]

theorem spellsCount_iff {word : String} {count : CountTerm} :
    SpellsCount count word ↔ IsCount word ∧ readCount word = .ok count := by
  constructor
  · intro spelled
    cases spelled with
    | @decimal n chars spelled small =>
      have decimal : isDecimal (String.ofList chars) = true :=
        isDecimal_iff.2 ⟨n, by rwa [String.toList_ofList]⟩
      have read := (readDigits?_eq_some_iff decimalValue?_eq_some_iff).2 spelled
      refine ⟨.inr (.inl decimal), ?_⟩
      rw [readCount, spelled.no_hex, if_pos decimal, String.toList_ofList]
      exact checkedNumber_eq_ok_iff.2 ⟨n, read, small, rfl⟩
    | @hexadecimal n chars spelled small =>
      have digits : hexDigits? (String.ofList ('0' :: 'x' :: chars)) = some chars :=
        hexDigits?_eq_some_iff.2 ⟨rfl, n, spelled⟩
      have read := (readDigits?_eq_some_iff hexValue?_eq_some_iff).2 spelled
      refine ⟨.inl (by rw [isHexNumber, digits]; rfl), ?_⟩
      rw [readCount, digits]
      exact checkedNumber_eq_ok_iff.2 ⟨n, read, small, rfl⟩
    | name identifier no_color =>
      refine ⟨.inr (.inr ⟨identifier, no_color⟩), ?_⟩
      rw [readCount, identifier.no_number.1, if_neg identifier.no_number.2]
  · rintro ⟨is_count, read⟩
    rw [readCount] at read
    split at read
    · next digits found =>
      obtain ⟨rfl, -⟩ := hexDigits?_eq_some_iff.1 found
      obtain ⟨n, spelled, small, rfl⟩ := checkedNumber_eq_ok_iff.1 read
      exact .hexadecimal ((readDigits?_eq_some_iff hexValue?_eq_some_iff).1 spelled) small
    · next no_hex =>
      split at read
      · obtain ⟨n, spelled, small, rfl⟩ := checkedNumber_eq_ok_iff.1 read
        have spelled := SpellsCount.decimal ((readDigits?_eq_some_iff decimalValue?_eq_some_iff).1 spelled) small
        rwa [String.ofList_toList] at spelled
      · next no_decimal =>
        cases read
        obtain is_hex | is_decimal | ⟨identifier, no_color⟩ := is_count
        · rw [isHexNumber, no_hex] at is_hex
          cases is_hex
        · exact absurd is_decimal no_decimal
        · exact .name identifier no_color

/-! Scalar types. -/

lemma mem_all (base : BaseType) : base ∈ BaseType.all := by
  cases base with
  | unsigned width | signed width => cases width <;> decide
  | single | double => decide

lemma mem_words_iff {word : String} {type : ScalarType} :
    (word, type) ∈ ScalarType.words ↔ SpellsType type word := by
  rw [ScalarType.words, List.mem_flatMap]
  constructor
  · rintro ⟨base, -, among⟩
    rw [ScalarType.wordsFor] at among
    obtain same | ⟨_, among⟩ := among
    · exact .plain
    · split at among
      · cases among
      · next several =>
        have wide : 1 < base.width := lt_of_le_of_ne base.width_pos (Ne.symm several)
        rcases List.mem_pair.1 among with same | same <;> cases same
        · exact .little wide
        · exact .big wide
  · intro spelled
    cases spelled with
    | @plain base => exact ⟨base, mem_all base, List.mem_cons_self ..⟩
    | @little base wide => exact ⟨base, mem_all base, by simp [ScalarType.wordsFor, wide.ne']⟩
    | @big base wide => exact ⟨base, mem_all base, by simp [ScalarType.wordsFor, wide.ne']⟩

theorem readScalarType_eq_ok_iff {word : String} {type : ScalarType} :
    readScalarType word = .ok type ↔ SpellsType type word := by
  rw [← mem_words_iff]
  have found_again : ∀ entry ∈ ScalarType.words, ScalarType.words.lookup entry.1 = some entry.2 := by decide
  have looked_up : readScalarType word = .ok type ↔ ScalarType.words.lookup word = some type := by
    rw [readScalarType, ScalarType.ofWord?]
    cases ScalarType.words.lookup word <;> simp
  rw [looked_up]
  constructor
  · intro found
    obtain ⟨before, after, split, -⟩ := List.lookup_eq_some_iff.1 found
    rw [split]
    exact List.mem_append_right _ (List.mem_cons_self ..)
  · exact found_again _

lemma SpellsType.mem_scalarWords {word : String} {type : ScalarType} (spelled : SpellsType type word) :
    word ∈ scalarWords := by
  refine List.mem_flatMap.2 ⟨type.base, mem_all _, ?_⟩
  cases spelled <;> simp

/-! Bytes and texts. -/

lemma spellsNumber_singleton {base n : Nat} {c : Char} : SpellsNumber base n [c] ↔ IsDigit base n c := by
  simp [SpellsNumber, List.forall₂_cons_right_iff]

lemma spellsNumber_pair {base n : Nat} {a b : Char} :
    SpellsNumber base n [a, b] ↔ ∃ high low, IsDigit base high a ∧ IsDigit base low b ∧ n = base * high + low := by
  simp only [SpellsNumber, List.forall₂_cons_right_iff, List.forall₂_nil_right_iff]
  constructor
  · rintro ⟨-, _, ⟨high, _, is_high, ⟨low, _, is_low, rfl, rfl⟩, rfl⟩, rfl⟩
    exact ⟨high, low, is_high, is_low, by simp [Nat.ofDigits_cons, Nat.add_comm]⟩
  · rintro ⟨high, low, is_high, is_low, rfl⟩
    exact ⟨by simp, _, ⟨high, _, is_high, ⟨low, _, is_low, rfl, rfl⟩, rfl⟩,
      by simp [Nat.ofDigits_cons, Nat.add_comm]⟩

lemma readSigned?_eq_some_iff {a b : Char} {n : Nat} :
    Text.readSigned? 16 Text.hexValue? [a, b] = some n ↔
      (∃ high low, IsDigit 16 high a ∧ IsDigit 16 low b ∧ n = 16 * high + low) ∨ a = '+' ∧ IsDigit 16 n b := by
  by_cases plus : a = '+'
  · subst plus
    have no_digit (d : Nat) : ¬IsDigit 16 d '+' := by
      rw [← hexValue?_eq_some_iff]
      intro found
      cases found
    rw [Text.readSigned?, readDigits?_eq_some_iff hexValue?_eq_some_iff, spellsNumber_singleton]
    simp [no_digit]
  · have unsigned : Text.readSigned? 16 Text.hexValue? [a, b] = Text.readDigits? 16 Text.hexValue? [a, b] := by
      rw [Text.readSigned?]
      intro digits same
      cases same
      exact plus rfl
    rw [unsigned, readDigits?_eq_some_iff hexValue?_eq_some_iff, spellsNumber_pair]
    simp [plus]

lemma escapedByte?_eq_some_iff {a b : Char} {byte : UInt8} :
    escapedByte? a b = some byte ↔
      (∃ high low, IsDigit 16 high a ∧ IsDigit 16 low b ∧ UInt8.ofNat (16 * high + low) = byte) ∨
        a = '+' ∧ ∃ low, IsDigit 16 low b ∧ UInt8.ofNat low = byte := by
  rw [escapedByte?, Option.map_eq_some_iff]
  simp only [readSigned?_eq_some_iff]
  constructor
  · rintro ⟨n, ⟨high, low, is_high, is_low, rfl⟩ | ⟨plus, is_low⟩, rfl⟩
    · exact .inl ⟨high, low, is_high, is_low, rfl⟩
    · exact .inr ⟨plus, n, is_low, rfl⟩
  · rintro (⟨high, low, is_high, is_low, rfl⟩ | ⟨plus, low, is_low, rfl⟩)
    · exact ⟨_, .inl ⟨high, low, is_high, is_low, rfl⟩, rfl⟩
    · exact ⟨_, .inr ⟨plus, is_low⟩, rfl⟩

lemma spellsBytes_of_unescape {body : List Char} {bytes : List UInt8} (read : unescape body = .ok bytes) :
    SpellsBytes bytes body := by
  fun_induction unescape body generalizing bytes with
  | case1 =>
    cases read
    exact .nil
  | case2 => cases read
  | case3 rest ih | case4 rest ih | case5 rest ih | case6 rest ih | case7 rest ih =>
    obtain ⟨more, later, rfl⟩ := map_eq_ok_iff.1 read
    exact .escape (.letter (by simp)) (ih later)
  | case8 a b rest byte escaped ih =>
    obtain ⟨more, later, rfl⟩ := map_eq_ok_iff.1 read
    obtain ⟨high, low, is_high, is_low, rfl⟩ | ⟨rfl, low, is_low, rfl⟩ := escapedByte?_eq_some_iff.1 escaped
    · exact .escape (.digits is_high is_low) (ih later)
    · exact .stray (.signed is_low) (ih later)
  | case9 => cases read
  | case10 => cases read
  | case11 => cases read
  | case12 c rest alone _ _ _ _ _ _ _ no_escape ih =>
    obtain ⟨more, later, rfl⟩ := map_eq_ok_iff.1 read
    refine .plain ?_ (ih later)
    -- A backslash, alone or with anything behind it, has a case of its own.
    rintro rfl
    cases rest with
    | nil => exact alone rfl rfl
    | cons c rest => exact no_escape _ _ rfl rfl

theorem unescape_eq_ok_iff {body : List Char} {bytes : List UInt8} :
    unescape body = .ok bytes ↔ SpellsBytes bytes body := by
  refine ⟨spellsBytes_of_unescape, fun spelled => ?_⟩
  induction spelled with
  | nil => rfl
  | plain no_backslash _ ih =>
    rw [unescape, ih]
    · rfl
    all_goals simp [no_backslash]
  | escape meant _ ih =>
    cases meant with
    | letter among =>
      simp only [List.mem_cons, Prod.mk.injEq, List.not_mem_nil, or_false] at among
      obtain ⟨rfl, rfl⟩ | ⟨rfl, rfl⟩ | ⟨rfl, rfl⟩ | ⟨rfl, rfl⟩ | ⟨rfl, rfl⟩ := among
      all_goals
        rw [unescape, ih]
        rfl
    | digits is_high is_low =>
      rw [unescape, escapedByte?_eq_some_iff.2 (.inl ⟨_, _, is_high, is_low, rfl⟩), ih]
      rfl
  | stray signed _ ih =>
    cases signed with
    | signed is_low =>
      rw [unescape, escapedByte?_eq_some_iff.2 (.inr ⟨rfl, _, is_low, rfl⟩), ih]
      rfl

theorem unescapeText_eq_ok_iff {body : List Char} {text : String} :
    unescapeText body = .ok text ↔ SpellsText text body := by
  rw [unescapeText, map_eq_ok_iff, SpellsText]
  simp only [unescape_eq_ok_iff, @eq_comm _ _ text]

theorem spellsPairs_iff {chars : List Char} {bytes : List UInt8} :
    SpellsPairs bytes chars ↔ (∀ c ∈ chars, isHexDigit c = true) ∧ hexPairs chars = .ok bytes := by
  constructor
  · intro spelled
    induction spelled with
    | nil => exact ⟨by simp, rfl⟩
    | cons is_high is_low _ ih =>
      obtain ⟨digits, read⟩ := ih
      refine ⟨List.forall_mem_cons.2 ⟨exists_isDigit_sixteen.1 ⟨_, is_high⟩,
        List.forall_mem_cons.2 ⟨exists_isDigit_sixteen.1 ⟨_, is_low⟩, digits⟩⟩, ?_⟩
      rw [hexPairs, read, hexValue?_eq_some_iff.2 is_high, hexValue?_eq_some_iff.2 is_low]
      rfl
  · rintro ⟨digits, read⟩
    fun_induction hexPairs chars generalizing bytes with
    | case1 =>
      cases read
      exact .nil
    | case2 => cases read
    | case3 a b rest ih =>
      rw [List.forall_mem_cons, List.forall_mem_cons] at digits
      obtain ⟨a_digit, b_digit, digits⟩ := digits
      obtain ⟨high, is_high⟩ := exists_isDigit_sixteen.2 a_digit
      obtain ⟨low, is_low⟩ := exists_isDigit_sixteen.2 b_digit
      obtain ⟨more, later, rfl⟩ := map_eq_ok_iff.1 read
      rw [hexValue?_eq_some_iff.2 is_high, hexValue?_eq_some_iff.2 is_low]
      exact .cons is_high is_low (ih digits later)

lemma checkedMagic_eq_ok_iff {bytes magic : List UInt8} :
    checkedMagic bytes = .ok magic ↔ bytes ≠ [] ∧ bytes = magic := by
  rw [checkedMagic]
  split <;> simp_all

end ByteAtlas.Description
