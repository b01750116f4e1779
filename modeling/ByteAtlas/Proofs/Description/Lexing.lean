import ByteAtlas.Proofs.Description.Spelling

/-!
# Cutting a text into tokens

The lexer finds the tokens that a text spells, and none if it spells none (`Token.lex?_eq_some_iff`). So no text
spells two different lists of tokens.
-/

namespace ByteAtlas.Description

lemma isWordChar_iff {c : Char} : Token.isWordChar c = true ↔ c.isAlphanum ∨ c = '_' := by
  simp [Token.isWordChar]

lemma isBlank_iff {c : Char} : Token.isBlank c = true ↔ c ∈ [' ', '\t', '\r', '\n'] := by
  simp [Token.isBlank, or_assoc]

lemma mark?_eq_some_iff {c : Char} {m : Mark} : Token.mark? c = some m ↔ SpellsMark m c := by
  constructor
  · intro found
    simp only [Token.mark?] at found
    split at found
    · next same => cases found; cases same; exact .semicolon
    · split at found
      · next same => cases found; cases same; exact .opening
      · split at found
        · next same => cases found; cases same; exact .closing
        · cases found
  · rintro (_ | _ | _) <;> rfl

namespace Token

/-- A comment between slashes and stars is cut off behind the first end of it. -/
lemma afterStars?_eq_some_iff {text rest : List Char} :
    afterStars? text = some rest ↔ ∃ body, ¬['*', '/'] <:+: body ∧ text = body ++ '*' :: '/' :: rest := by
  fun_induction afterStars? text with
  | case1 => simp
  | case2 more =>
    constructor
    · intro same
      cases same
      exact ⟨[], by simp, rfl⟩
    · rintro ⟨body, open_end, split⟩
      cases body with
      | nil =>
        cases split
        rfl
      | cons c body =>
        cases body with
        | nil => cases split
        | cons d body =>
          cases split
          exact absurd ⟨[], body, rfl⟩ open_end
  | case3 c more other ih =>
    rw [ih]
    constructor
    · rintro ⟨body, open_end, rfl⟩
      refine ⟨c :: body, ?_, rfl⟩
      rw [List.infix_cons_iff]
      rintro (begins | later)
      · -- An end that begins with this character would have been found before.
        obtain ⟨tail, same⟩ := begins
        cases body with
        | nil => cases same
        | cons d body =>
          cases same
          exact other _ rfl rfl
      · exact open_end later
    · rintro ⟨body, open_end, split⟩
      cases body with
      | nil =>
        cases split
        exact absurd rfl (other rest rfl)
      | cons d body =>
        cases split
        exact ⟨body, fun later => open_end (List.infix_cons later), rfl⟩

/-- The body of a quoted text ends at the first quote without a backslash in front. -/
lemma quotedBody?_eq_some_iff {text body rest : List Char} :
    quotedBody? text = some (body, rest) ↔ IsBody body ∧ text = body ++ '"' :: rest := by
  fun_induction quotedBody? text generalizing body with
  | case1 => simp
  | case2 more =>
    constructor
    · intro same
      cases same
      exact ⟨.nil, rfl⟩
    · rintro ⟨quotable, split⟩
      cases quotable with
      | nil =>
        cases split
        rfl
      | plain no_quote _ _ =>
        cases split
        exact absurd rfl no_quote
      | escape _ => cases split
  | case3 c more ih =>
    rw [Option.map_eq_some_iff]
    constructor
    · rintro ⟨⟨inner, tail⟩, found, same⟩
      cases same
      obtain ⟨quotable, rfl⟩ := ih.1 found
      exact ⟨.escape quotable, rfl⟩
    · rintro ⟨quotable, split⟩
      cases quotable with
      | nil => cases split
      | plain _ no_backslash _ =>
        simp only [List.cons_append, List.cons.injEq] at split
        exact absurd split.1.symm no_backslash
      | escape quotable =>
        simp only [List.cons_append, List.cons.injEq, true_and] at split
        obtain ⟨rfl, rfl⟩ := split
        exact ⟨_, ih.2 ⟨quotable, rfl⟩, rfl⟩
  | case4 c more no_quote no_escape ih =>
    rw [Option.map_eq_some_iff]
    constructor
    · rintro ⟨⟨inner, tail⟩, found, same⟩
      cases same
      obtain ⟨quotable, rfl⟩ := ih.1 found
      refine ⟨.plain no_quote ?_ quotable, rfl⟩
      -- A backslash is not the last character, since a quote follows.
      rintro rfl
      cases inner with
      | nil => exact no_escape _ _ rfl rfl
      | cons d inner => exact no_escape _ _ rfl rfl
    · rintro ⟨quotable, split⟩
      cases quotable with
      | nil =>
        cases split
        exact absurd rfl no_quote
      | plain _ _ quotable =>
        cases split
        exact ⟨_, ih.2 ⟨quotable, rfl⟩, rfl⟩
      | escape quotable =>
        simp only [List.cons_append, List.cons.injEq] at split
        exact absurd split.2 (no_escape _ _ split.1)

/-- The longest beginning with characters of one kind, and what follows it. -/
lemma longest_iff (p : Char → Bool) {text body rest : List Char} :
    text.takeWhile p = body ∧ text.dropWhile p = rest ↔
      (∀ c ∈ body, p c = true) ∧ (∀ c ∈ rest.head?, ¬p c = true) ∧ text = body ++ rest := by
  constructor
  · rintro ⟨rfl, rfl⟩
    refine ⟨fun c among => List.mem_takeWhile_imp among, fun c first => ?_, List.takeWhile_append_dropWhile.symm⟩
    have stops := List.head?_dropWhile_not p text
    rw [Option.mem_def.1 first] at stops
    simpa using stops
  · rintro ⟨kind, stops, rfl⟩
    rw [List.takeWhile_append_of_pos kind, List.dropWhile_append_of_pos kind]
    cases rest with
    | nil => simp
    | cons c rest =>
      have stop : ¬p c = true := stops c rfl
      simp [List.takeWhile_cons_of_neg stop, List.dropWhile_cons_of_neg stop]

/-- A comment begins with a second slash or with a star. -/
lemma afterComment?_eq_some_iff {text rest : List Char} :
    afterComment? text = some rest ↔
      (∃ body, '\n' ∉ body ∧ (∀ c ∈ rest.head?, c = '\n') ∧ text = '/' :: body ++ rest) ∨
      ∃ body, ¬['*', '/'] <:+: body ∧ text = '*' :: body ++ '*' :: '/' :: rest := by
  constructor
  · intro found
    revert found
    fun_cases afterComment? text <;> intro found
    case case1 line =>
      cases found
      obtain ⟨kind, stops, split⟩ := (longest_iff (· ≠ '\n')).1 (⟨rfl, rfl⟩ : line.takeWhile _ = _ ∧ _)
      simp only [decide_eq_true_eq, not_not] at kind stops
      exact .inl ⟨_, fun among => kind _ among rfl, stops, congrArg (List.cons '/') split⟩
    case case2 block =>
      obtain ⟨body, open_end, rfl⟩ := afterStars?_eq_some_iff.1 found
      exact .inr ⟨body, open_end, rfl⟩
    case case3 => cases found
  · rintro (⟨body, one_line, stops, rfl⟩ | ⟨body, open_end, rfl⟩)
    · have kind : ∀ c ∈ body, decide (c ≠ '\n') = true :=
        fun c among => decide_eq_true fun same => one_line (same ▸ among)
      have stop : ∀ c ∈ rest.head?, ¬decide (c ≠ '\n') = true := by simpa using stops
      exact congrArg some ((longest_iff (· ≠ '\n')).2 ⟨kind, stop, rfl⟩).2
    · exact afterStars?_eq_some_iff.2 ⟨body, open_end, rfl⟩

/-! One piece of the text after the other. -/

lemma lex?_blank {c : Char} {rest : List Char} (blank : c ∈ [' ', '\t', '\r', '\n']) :
    lex? (c :: rest) = lex? rest := by
  rw [lex?, if_pos (isBlank_iff.2 blank)]

lemma lex?_word {chars rest : List Char} (word : IsWord chars)
    (stops : ∀ c ∈ rest.head?, ¬(c.isAlphanum ∨ c = '_')) :
    lex? (chars ++ rest) = (lex? rest).map (.atom (.word (String.ofList chars)) :: ·) := by
  obtain ⟨some_char, kind⟩ := word
  cases chars with
  | nil => exact absurd rfl some_char
  | cons c chars =>
    have first : isWordChar c = true := isWordChar_iff.2 (kind c (List.mem_cons_self ..))
    have no_blank : ¬isBlank c = true := by
      rw [isBlank_iff]
      intro blank
      fin_cases blank <;> cases first
    have others : ∀ d ∈ chars, isWordChar d = true :=
      fun d among => isWordChar_iff.2 (kind d (List.mem_cons_of_mem _ among))
    have stop : ∀ d ∈ rest.head?, ¬isWordChar d = true := fun d next => isWordChar_iff.not.2 (stops d next)
    obtain ⟨taken, dropped⟩ := (longest_iff isWordChar).2 ⟨others, stop, rfl⟩
    rw [List.cons_append, lex?, if_neg no_blank, if_pos first, taken, dropped]

lemma lex?_quoted {body rest : List Char} (quotable : IsBody body) :
    lex? ('"' :: body ++ '"' :: rest) = (lex? rest).map (.atom (.quoted body) :: ·) := by
  have found : quotedBody? (body ++ '"' :: rest) = some (body, rest) :=
    quotedBody?_eq_some_iff.2 ⟨quotable, rfl⟩
  rw [List.cons_append, lex?, if_neg (by decide), if_neg (by decide), if_pos rfl]
  split
  · next same =>
    cases found.symm.trans same
    rfl
  · next missing => cases found.symm.trans missing

lemma lex?_comment {text rest : List Char} (found : afterComment? text = some rest) :
    lex? ('/' :: text) = lex? rest := by
  rw [lex?, if_neg (by decide), if_neg (by decide), if_neg (by decide), if_pos rfl]
  split
  · next same =>
    cases found.symm.trans same
    rfl
  · next missing => cases found.symm.trans missing

lemma lex?_mark {c : Char} {m : Mark} {rest : List Char} (spelled : SpellsMark m c) :
    lex? (c :: rest) = (lex? rest).map (.mark m :: ·) := by
  cases spelled <;> rw [lex?] <;> rfl

lemma lex?_skips {text rest : List Char} (skips : Skips text rest) : lex? text = lex? rest := by
  induction skips with
  | done => rfl
  | blank blank _ ih => rw [lex?_blank blank, ih]
  | line one_line stops _ ih =>
    rw [← ih]
    exact lex?_comment (afterComment?_eq_some_iff.2 (.inl ⟨_, one_line, stops, rfl⟩))
  | block open_end _ ih =>
    rw [← ih]
    exact lex?_comment (afterComment?_eq_some_iff.2 (.inr ⟨_, open_end, rfl⟩))

end Token

lemma Skips.trans {text middle rest : List Char} (first : Skips text middle) (second : Skips middle rest) :
    Skips text rest := by
  induction first with
  | done => exact second
  | blank blank _ ih => exact .blank blank (ih second)
  | line one_line stops _ ih => exact .line one_line stops (ih second)
  | block open_end _ ih => exact .block open_end (ih second)

/-- Blanks and comments may stand in front. -/
lemma SpellsTokens.behind {tokens : List Token} {text rest : List Char} (skips : Skips text rest)
    (spelled : SpellsTokens tokens rest) : SpellsTokens tokens text := by
  cases spelled with
  | nil skips' => exact .nil (skips.trans skips')
  | word skips' word stops spelled => exact .word (skips.trans skips') word stops spelled
  | quoted skips' quotable spelled => exact .quoted (skips.trans skips') quotable spelled
  | mark skips' mark spelled => exact .mark (skips.trans skips') mark spelled

lemma SpellsTokens.isWord {tokens : List Token} {text : List Char} {word : String}
    (spelled : SpellsTokens tokens text) (among : .atom (.word word) ∈ tokens) : IsWord word.toList := by
  induction spelled with
  | nil _ => cases among
  | word _ is_word _ _ ih =>
    cases among with
    | head => rwa [String.toList_ofList]
    | tail _ later => exact ih later
  | quoted _ _ _ ih =>
    cases among with
    | tail _ later => exact ih later
  | mark _ _ _ ih =>
    cases among with
    | tail _ later => exact ih later

namespace Token

/-- The tokens that are found spell the text. -/
lemma spells_of_lex? {text : List Char} {tokens : List Token} (found : lex? text = some tokens) :
    SpellsTokens tokens text := by
  fun_induction lex? text generalizing tokens with
  | case1 =>
    cases found
    exact .nil .done
  | case2 c rest blank ih => exact (ih found).behind (.blank (isBlank_iff.1 blank) .done)
  | case3 c rest _ first ih =>
    -- The word is as long as it can be, so no character of a word follows.
    obtain ⟨more, later, rfl⟩ := Option.map_eq_some_iff.1 found
    obtain ⟨kind, stops, split⟩ := (longest_iff isWordChar).1 (⟨rfl, rfl⟩ : rest.takeWhile _ = _ ∧ _)
    have whole : Skips (c :: rest) (c :: rest.takeWhile isWordChar ++ rest.dropWhile isWordChar) := by
      rw [List.cons_append, ← split]
      exact .done
    simp only [isWordChar_iff] at first kind stops
    exact .word whole ⟨List.cons_ne_nil _ _, List.forall_mem_cons.2 ⟨first, kind⟩⟩ stops (ih later)
  | case4 rest body more quoted _ _ ih =>
    obtain ⟨tokens, later, rfl⟩ := Option.map_eq_some_iff.1 found
    obtain ⟨quotable, rfl⟩ := quotedBody?_eq_some_iff.1 quoted
    exact .quoted .done quotable (ih later)
  | case5 => cases found
  | case6 rest more comment _ _ _ ih =>
    refine (ih found).behind ?_
    rcases afterComment?_eq_some_iff.1 comment with ⟨body, one_line, stops, rfl⟩ | ⟨body, open_end, rfl⟩
    · exact .line one_line stops .done
    · exact .block open_end .done
  | case7 => cases found
  | case8 c rest _ _ _ _ m is_mark ih =>
    obtain ⟨more, later, rfl⟩ := Option.map_eq_some_iff.1 found
    exact .mark .done (mark?_eq_some_iff.1 is_mark) (ih later)
  | case9 => cases found

/-- The lexer finds the tokens that a text spells. -/
theorem lex?_eq_some_iff {text : List Char} {tokens : List Token} :
    lex? text = some tokens ↔ SpellsTokens tokens text := by
  refine ⟨spells_of_lex?, fun spelled => ?_⟩
  induction spelled with
  | nil skips => simp [lex?_skips skips, lex?]
  | word skips word stops _ ih => simp [lex?_skips skips, lex?_word word stops, ih]
  | quoted skips quotable _ ih => rw [lex?_skips skips, lex?_quoted quotable, ih, Option.map_some]
  | mark skips mark _ ih => rw [lex?_skips skips, lex?_mark mark, ih, Option.map_some]

end Token
end ByteAtlas.Description
