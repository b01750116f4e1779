import ByteAtlas.Proofs.Description.Literals

/-!
# Backslashes in quoted texts

Which quoted texts can be read, told from the places of their backslashes. A backslash that is not escaped by the one in
front of it (`isEscaped`) has to be followed by something that is understood (`exists_unescape_iff`); the first that is
not is reported (`unescape_eq_error_iff`). What is understood is more than what is meant to stand there (`MeantEscape`):
a plus sign is taken for the first of two digits, so a text is read that should be refused. What is written with two
digits for every byte is read back (`spellsBytes_escapes`).
-/

namespace ByteAtlas.Description

/-- Whether the character behind a beginning of a text is escaped: by a backslash right in front of it that is not
escaped itself. -/
def isEscaped (before : List Char) : Bool := before.foldl (fun escaped c => c = '\\' && !escaped) false

/-- Two parts of a text with a backslash between them that is not escaped. -/
structure Backslash (body before after : List Char) : Prop where
  split : body = before ++ '\\' :: after
  plain : isEscaped before = false

/-- What is meant to stand behind a backslash: a character with a meaning, or `x` and two digits in base sixteen. -/
inductive MeantEscape : List Char → Prop
  | letter {c rest} : c ∈ ['\\', '"', 'n', 't', '0'] → MeantEscape (c :: rest)
  | byte {a b rest} : isHexDigit a = true → isHexDigit b = true → MeantEscape ('x' :: a :: b :: rest)

/-- A plus sign in the place of the first digit. -/
inductive SignedEscape : List Char → Prop
  | byte {b rest} : isHexDigit b = true → SignedEscape ('x' :: '+' :: b :: rest)

/-- What is understood behind a backslash. -/
def Understood (after : List Char) : Prop := MeantEscape after ∨ SignedEscape after

/-- What is reported of the text behind a backslash: one character, and up to two more behind `x`. -/
def reported : List Char → List Char
  | 'x' :: rest => 'x' :: rest.take 2
  | rest => rest.take 1

/-- The first backslash that is followed by something that is not understood. -/
structure FirstBad (body before after : List Char) : Prop where
  backslash : Backslash body before after
  bad : ¬Understood after
  earlier : ∀ front back, Backslash body front back → front.length < before.length → Understood back

variable {body before after : List Char} {c : Char}

/-! Places of backslashes. -/

lemma isEscaped_cons (plain : c ≠ '\\') : isEscaped (c :: before) = isEscaped before := by
  simp [isEscaped, plain]

lemma isEscaped_pair : isEscaped ('\\' :: c :: before) = isEscaped before := by
  simp [isEscaped]

lemma backslash_cons_iff (plain : c ≠ '\\') :
    Backslash (c :: body) before after ↔ ∃ front, before = c :: front ∧ Backslash body front after := by
  constructor
  · rintro ⟨split, not_escaped⟩
    cases before with
    | nil => exact absurd (List.cons.inj split).1 plain
    | cons d front =>
      obtain ⟨rfl, split_body⟩ := List.cons.inj split
      exact ⟨front, rfl, split_body, isEscaped_cons plain ▸ not_escaped⟩
  · rintro ⟨front, rfl, split, not_escaped⟩
    exact ⟨congrArg _ split, (isEscaped_cons plain).trans not_escaped⟩

lemma backslash_pair_iff :
    Backslash ('\\' :: c :: body) before after ↔
      before = [] ∧ after = c :: body ∨ ∃ front, before = '\\' :: c :: front ∧ Backslash body front after := by
  constructor
  · rintro ⟨split, not_escaped⟩
    match before with
    | [] => exact .inl ⟨rfl, (List.cons.inj split).2.symm⟩
    | [d] =>
      obtain ⟨rfl, -⟩ := List.cons.inj split
      cases not_escaped
    | d :: e :: front =>
      simp only [List.cons_append, List.cons.injEq] at split
      obtain ⟨rfl, rfl, split_body⟩ := split
      exact .inr ⟨front, rfl, split_body, isEscaped_pair ▸ not_escaped⟩
  · rintro (⟨rfl, rfl⟩ | ⟨front, rfl, split, not_escaped⟩)
    · exact ⟨rfl, rfl⟩
    · exact ⟨congrArg ('\\' :: c :: ·) split, isEscaped_pair.trans not_escaped⟩

/-! What a text is refused for. -/

/-- The error that keeps a quoted text from being read. -/
def complaint? (body : List Char) : Option LiteralError :=
  match unescape body with
  | .ok _ => none
  | .error cause => some cause

lemma complaint?_eq_none_iff : complaint? body = none ↔ ∃ bytes, unescape body = .ok bytes := by
  rw [complaint?]
  cases unescape body <;> simp

lemma complaint?_eq_some_iff {cause : LiteralError} : complaint? body = some cause ↔ unescape body = .error cause := by
  rw [complaint?]
  cases unescape body <;> simp

/-- A text in front of another changes only the bytes, not the complaint. -/
lemma complaint?_of_map {rest : List Char} {f : List UInt8 → List UInt8} (read : unescape body = (unescape rest).map f) :
    complaint? body = complaint? rest := by
  rw [complaint?, complaint?, read]
  cases unescape rest <;> rfl

lemma complaint?_cons (plain : c ≠ '\\') : complaint? (c :: body) = complaint? body := by
  apply complaint?_of_map
  rw [unescape]
  all_goals simp [plain]

lemma isHexDigit_ne {a d : Char} (digit : isHexDigit a = true) (other : isHexDigit d = false) : a ≠ d := by
  rintro rfl
  cases digit.symm.trans other

/-- What is understood is passed over. -/
lemma complaint?_understood (understood : Understood (c :: body)) : complaint? ('\\' :: c :: body) = complaint? body := by
  obtain meant | signed := understood
  · cases meant with
    | letter among =>
      simp only [List.mem_cons, List.not_mem_nil, or_false] at among
      obtain rfl | rfl | rfl | rfl | rfl := among <;> exact complaint?_of_map (by rw [unescape])
    | @byte a b rest a_digit b_digit =>
      obtain ⟨high, is_high⟩ := exists_isDigit_sixteen.2 a_digit
      obtain ⟨low, is_low⟩ := exists_isDigit_sixteen.2 b_digit
      have byte := escapedByte?_eq_some_iff.2 (.inl ⟨high, low, is_high, is_low, rfl⟩)
      rw [complaint?_cons (isHexDigit_ne a_digit rfl), complaint?_cons (isHexDigit_ne b_digit rfl)]
      exact complaint?_of_map (by rw [unescape, byte])
  · cases signed with
    | @byte b rest b_digit =>
      obtain ⟨low, is_low⟩ := exists_isDigit_sixteen.2 b_digit
      have byte := escapedByte?_eq_some_iff.2 (.inr ⟨rfl, low, is_low, rfl⟩)
      have plus : '+' ≠ '\\' := by decide
      rw [complaint?_cons plus, complaint?_cons (isHexDigit_ne b_digit rfl)]
      exact complaint?_of_map (by rw [unescape, byte])

/-- What is not understood is reported. -/
lemma complaint?_bad (bad : ¬Understood (c :: body)) :
    complaint? ('\\' :: c :: body) = some (.escape (String.ofList (reported (c :: body)))) := by
  rw [complaint?_eq_some_iff]
  by_cases hexadecimal : c = 'x'
  · subst hexadecimal
    match body with
    | [] => rfl
    | [a] => rfl
    | a :: b :: rest =>
      have no_byte : escapedByte? a b = none := by
        rw [Option.eq_none_iff_forall_ne_some]
        intro byte read
        obtain ⟨high, low, is_high, is_low, -⟩ | ⟨rfl, low, is_low, -⟩ := escapedByte?_eq_some_iff.1 read
        · exact bad (.inl (.byte (exists_isDigit_sixteen.1 ⟨high, is_high⟩) (exists_isDigit_sixteen.1 ⟨low, is_low⟩)))
        · exact bad (.inr (.byte (exists_isDigit_sixteen.1 ⟨low, is_low⟩)))
      rw [unescape, no_byte]
      rfl
  · have no_letter : c ∉ ['\\', '"', 'n', 't', '0'] := fun among => bad (.inl (.letter among))
    simp only [List.mem_cons, List.not_mem_nil, or_false, not_or] at no_letter
    obtain ⟨h₁, h₂, h₃, h₄, h₅⟩ := no_letter
    rw [unescape]
    · simp [reported, hexadecimal]
    all_goals simp_all

/-- A quoted text is read if all its backslashes are understood, and else refused for the first that is not. -/
lemma complaint?_cases (admitted : IsBody body) :
    (complaint? body = none ∧ ∀ before after, Backslash body before after → Understood after) ∨
      ∃ before after, FirstBad body before after ∧
        complaint? body = some (.escape (String.ofList (reported after))) := by
  induction admitted with
  | nil => exact .inl ⟨rfl, fun before after found => absurd found.split (by simp)⟩
  | @plain c body _ plain _ ih =>
    rw [complaint?_cons plain]
    obtain ⟨read, understood⟩ | ⟨before, after, ⟨backslash, bad, earlier⟩, refused⟩ := ih
    · refine .inl ⟨read, fun before after found => ?_⟩
      obtain ⟨front, -, found_later⟩ := (backslash_cons_iff plain).1 found
      exact understood front after found_later
    · refine .inr ⟨c :: before, after, ⟨(backslash_cons_iff plain).2 ⟨before, rfl, backslash⟩, bad, ?_⟩, refused⟩
      intro _ back found shorter
      obtain ⟨front, rfl, found_later⟩ := (backslash_cons_iff plain).1 found
      exact earlier front back found_later (Nat.lt_of_succ_lt_succ shorter)
  | @escape c body _ ih =>
    by_cases here : Understood (c :: body)
    · rw [complaint?_understood here]
      obtain ⟨read, understood⟩ | ⟨before, after, ⟨backslash, bad, earlier⟩, refused⟩ := ih
      · refine .inl ⟨read, fun before after found => ?_⟩
        obtain ⟨-, rfl⟩ | ⟨front, -, found_later⟩ := backslash_pair_iff.1 found
        · exact here
        · exact understood front after found_later
      · refine .inr ⟨'\\' :: c :: before, after,
          ⟨backslash_pair_iff.2 (.inr ⟨before, rfl, backslash⟩), bad, ?_⟩, refused⟩
        intro _ back found shorter
        obtain ⟨-, rfl⟩ | ⟨front, rfl, found_later⟩ := backslash_pair_iff.1 found
        · exact here
        · exact earlier front back found_later (by simpa using shorter)
    · refine .inr ⟨[], c :: body, ⟨backslash_pair_iff.2 (.inl ⟨rfl, rfl⟩), here, ?_⟩, complaint?_bad here⟩
      intro front back _ shorter
      cases shorter

/-- There is one first backslash that is not understood, if any. -/
lemma FirstBad.unique {before' after' : List Char} (first : FirstBad body before after)
    (other : FirstBad body before' after') : after = after' := by
  have same_length : before.length = before'.length := by
    rcases Nat.lt_trichotomy before.length before'.length with shorter | same | longer
    · exact absurd (other.earlier _ _ first.backslash shorter) first.bad
    · exact same
    · exact absurd (first.earlier _ _ other.backslash longer) other.bad
  have same := List.append_inj_right (first.backslash.split.symm.trans other.backslash.split) same_length
  exact (List.cons.inj same).2

theorem exists_unescape_iff (admitted : IsBody body) :
    (∃ bytes, unescape body = .ok bytes) ↔ ∀ before after, Backslash body before after → Understood after := by
  rw [← complaint?_eq_none_iff]
  obtain ⟨read, understood⟩ | ⟨before, after, first, refused⟩ := complaint?_cases admitted
  · exact iff_of_true read understood
  · rw [refused]
    exact iff_of_false (by simp) fun understood => first.bad (understood before after first.backslash)

theorem unescape_eq_error_iff (admitted : IsBody body) {cause : LiteralError} :
    unescape body = .error cause ↔
      ∃ before after, FirstBad body before after ∧ cause = .escape (String.ofList (reported after)) := by
  rw [← complaint?_eq_some_iff]
  obtain ⟨read, understood⟩ | ⟨before, after, first, refused⟩ := complaint?_cases admitted
  · rw [read]
    apply iff_of_false (by simp)
    rintro ⟨before, after, first, -⟩
    exact first.bad (understood before after first.backslash)
  · rw [refused, Option.some.injEq]
    constructor
    · rintro rfl
      exact ⟨before, after, first, rfl⟩
    · rintro ⟨before', after', other, rfl⟩
      rw [first.unique other]

/-! Bytes written as digits. -/

/-- Two digits in base sixteen, of either case, that spell a byte. -/
def SpellsByte (byte : UInt8) (digits : Char × Char) : Prop :=
  IsDigit 16 (byte.toNat / 16) digits.1 ∧ IsDigit 16 (byte.toNat % 16) digits.2

/-- An escape for every byte. -/
def escapes (digits : List (Char × Char)) : List Char := digits.flatMap fun (a, b) => ['\\', 'x', a, b]

lemma isBody_escapes {bytes : List UInt8} {digits : List (Char × Char)}
    (spelled : List.Forall₂ SpellsByte bytes digits) : IsBody (escapes digits) := by
  induction spelled with
  | nil => exact .nil
  | @cons byte pair bytes digits here _ ih =>
    have high := exists_isDigit_sixteen.1 ⟨_, here.1⟩
    have low := exists_isDigit_sixteen.1 ⟨_, here.2⟩
    exact .escape (.plain (isHexDigit_ne high rfl) (isHexDigit_ne high rfl)
      (.plain (isHexDigit_ne low rfl) (isHexDigit_ne low rfl) ih))

lemma spellsBytes_escapes {bytes : List UInt8} {digits : List (Char × Char)}
    (spelled : List.Forall₂ SpellsByte bytes digits) : SpellsBytes bytes (escapes digits) := by
  induction spelled with
  | nil => exact .nil
  | @cons byte pair bytes digits here _ ih =>
    have same : UInt8.ofNat (16 * (byte.toNat / 16) + byte.toNat % 16) = byte := by
      rw [Nat.div_add_mod, UInt8.ofNat_toNat]
    have written := SpellsBytes.escape (.digits here.1 here.2) ih
    rwa [same] at written

/-- Every byte has two digits. -/
lemma exists_spelled (bytes : List UInt8) : ∃ digits, List.Forall₂ SpellsByte bytes digits := by
  induction bytes with
  | nil => exact ⟨[], .nil⟩
  | cons byte bytes ih =>
    obtain ⟨digits, spelled⟩ := ih
    have high : byte.toNat / 16 < 16 := by have := byte.toNat_lt; omega
    have low : byte.toNat % 16 < 16 := Nat.mod_lt _ (by decide)
    exact ⟨(Nat.digitChar _, Nat.digitChar _) :: digits, .cons ⟨⟨high, .inl rfl⟩, low, .inl rfl⟩ spelled⟩

/-! What may be written between quotes. -/

/-- A text between quotes is read if each of its backslashes, escaped ones apart, is understood. Then it stands for the
bytes that it spells. Else it is refused for the first backslash that is not understood, with what stands behind it, and
never for a backslash at its end. Bytes that are written with two digits each are read back. -/
theorem unescape_exact {body : List Char} (admitted : IsBody body) :
    ((∃ bytes, unescape body = .ok bytes) ↔ ∀ before after, Backslash body before after → Understood after) ∧
      (∀ bytes, unescape body = .ok bytes ↔ SpellsBytes bytes body) ∧
      (∀ cause, unescape body = .error cause ↔
        ∃ before after, FirstBad body before after ∧ cause = .escape (String.ofList (reported after))) ∧
      unescape body ≠ .error .danglingBackslash ∧
      ∀ bytes : List UInt8, (∃ digits, List.Forall₂ SpellsByte bytes digits) ∧
        ∀ digits, List.Forall₂ SpellsByte bytes digits →
          IsBody (escapes digits) ∧ unescape (escapes digits) = .ok bytes := by
  refine ⟨exists_unescape_iff admitted, fun _ => unescape_eq_ok_iff, fun _ => unescape_eq_error_iff admitted, ?_,
    fun bytes => ⟨exists_spelled bytes, fun digits spelled => ?_⟩⟩
  · intro dangling
    obtain ⟨_, _, _, same⟩ := (unescape_eq_error_iff admitted).1 dangling
    cases same
  · exact ⟨isBody_escapes spelled, unescape_eq_ok_iff.2 (spellsBytes_escapes spelled)⟩

/-- Between a line feed and an escaped backslash, `\x4` is the first that is not understood: a digit is missing. -/
theorem unescape_exact_digit_missing :
    IsBody "A\\n\\x4\\\\".toList ∧ unescape "A\\n\\x4\\\\".toList = .error (.escape "x4\\") ∧
      ∃ before after, FirstBad "A\\n\\x4\\\\".toList before after ∧
        LiteralError.escape "x4\\" = .escape (String.ofList (reported after)) := by
  have admitted : IsBody "A\\n\\x4\\\\".toList :=
    .plain (by decide) (by decide) (.escape (.escape (.plain (by decide) (by decide) (.escape .nil))))
  have refused : unescape "A\\n\\x4\\\\".toList = .error (.escape "x4\\") := rfl
  exact ⟨admitted, refused, ((unescape_exact admitted).2.2.1 _).1 refused⟩

/-- The plus sign in `\x+4` is no digit, and yet the text is read. -/
theorem unescape_sign :
    IsBody "\\x+4".toList ∧
      ¬((∃ bytes, unescape "\\x+4".toList = .ok bytes) ↔
        ∀ before after, Backslash "\\x+4".toList before after → MeantEscape after) := by
  have admitted : IsBody "\\x+4".toList :=
    .escape (.plain (by decide) (by decide) (.plain (by decide) (by decide) .nil))
  refine ⟨admitted, fun exact_escapes => ?_⟩
  have meant := exact_escapes.1 ⟨[4], rfl⟩ [] "x+4".toList ⟨rfl, rfl⟩
  cases meant with
  | letter among => exact absurd among (by decide)
  | byte no_digit _ => exact absurd no_digit (by decide)

end ByteAtlas.Description
