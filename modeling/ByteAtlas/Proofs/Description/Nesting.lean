import ByteAtlas.Proofs.Description.Spelling

/-!
# Statements and lines

Tokens fall into statements in one way (`Statement.ofTokens?_eq_some_iff`), and lines into sections in one way
(`sectionsOfLines?_eq_some_iff`). What spells items and groups is therefore told by the lines of them
(`spellsItems_iff`).
-/

namespace ByteAtlas.Description

namespace Statement

/-- The tokens of a statement. -/
def tokens (s : Statement) : List Token := s.atoms.map .atom ++ [.mark s.mark]

lemma ofTokens?_tokens (s : Statement) (rest : List Token) :
    ofTokens? (s.tokens ++ rest) = (ofTokens? rest).map (s :: ·) := by
  obtain ⟨atoms, mark⟩ := s
  induction atoms with
  | nil => rfl
  | cons a atoms ih =>
    have unfolds : tokens ⟨a :: atoms, mark⟩ ++ rest = .atom a :: (tokens ⟨atoms, mark⟩ ++ rest) := rfl
    rw [unfolds, ofTokens?, ih]
    cases ofTokens? rest <;> rfl

/-- Statements are found where their tokens stand one after the other. -/
theorem ofTokens?_eq_some_iff {pieces : List Token} {statements : List Statement} :
    ofTokens? pieces = some statements ↔ pieces = statements.flatMap tokens := by
  constructor
  · intro found
    fun_induction ofTokens? pieces generalizing statements with
    | case1 =>
      cases found
      rfl
    | case2 m rest ih =>
      obtain ⟨more, later, rfl⟩ := Option.map_eq_some_iff.1 found
      rw [ih later]
      rfl
    | case3 a rest s more later ih =>
      cases found
      rw [ih later]
      rfl
    | case4 => cases found
  · rintro rfl
    induction statements with
    | nil => rfl
    | cons s more ih => rw [List.flatMap_cons, ofTokens?_tokens, ih, Option.map_some]

end Statement

section

variable {η ι σ : Type}

/-! The lines of what is nested. -/

def Outline.lines : Outline ι σ → List (Line η ι σ)
  | nil => []
  | item i rest => .item i :: rest.lines
  | group name inner rest => .group name :: inner.lines ++ .close :: rest.lines

def Section.lines (s : Section η ι σ) : List (Line η ι σ) := .heading s.heading :: s.body.lines ++ [.close]

namespace Right

def lines (r : Right η ι σ) : List (Line η ι σ) :=
  r.bodies.flatMap (fun body => body.lines ++ [.close]) ++ r.sections.flatMap Section.lines

lemma lines_of_attach? {line : Line η ι σ} {r r' : Right η ι σ} (attached : attach? line r = some r') :
    r'.lines = line :: r.lines := by
  revert attached
  fun_cases attach? line r <;> intro attached <;> cases attached
  all_goals simp [lines, Outline.lines, Section.lines]

lemma lines_of_ofLines? {text : List (Line η ι σ)} {r : Right η ι σ} (found : ofLines? text = some r) :
    text = r.lines := by
  induction text generalizing r with
  | nil =>
    cases found
    rfl
  | cons line more ih =>
    obtain ⟨right, later, attached⟩ := Option.bind_eq_some_iff.1 found
    rw [ih later, lines_of_attach? attached]

/-- An outline in front of the lines of a body that holds nothing yet becomes that body. -/
lemma ofLines?_outline (body : Outline ι σ) {more : List (Line η ι σ)} {outer : List (Outline ι σ)}
    {sections : List (Section η ι σ)} (found : ofLines? more = some ⟨.nil :: outer, sections⟩) :
    ofLines? (body.lines ++ more) = some ⟨body :: outer, sections⟩ := by
  induction body generalizing more outer with
  | nil => exact found
  | item i rest ih =>
    rw [Outline.lines, List.cons_append, ofLines?, ih found]
    rfl
  | group name inner rest ih_inner ih_rest =>
    have closed : ofLines? (.close :: (rest.lines ++ more)) = some ⟨.nil :: rest :: outer, sections⟩ := by
      rw [ofLines?, ih_rest found]
      rfl
    rw [Outline.lines, List.cons_append, List.cons_append, List.append_assoc, List.cons_append, ofLines?,
      ih_inner closed]
    rfl

lemma ofLines?_sections (sections : List (Section η ι σ)) :
    ofLines? (sections.flatMap Section.lines) = some ⟨[], sections⟩ := by
  induction sections with
  | nil => rfl
  | cons s more ih =>
    have closed : ofLines? (.close :: more.flatMap Section.lines) = some ⟨[.nil], more⟩ := by
      rw [ofLines?, ih]
      rfl
    rw [List.flatMap_cons, Section.lines, List.cons_append, List.cons_append, List.append_assoc,
      List.singleton_append, ofLines?, ofLines?_outline _ closed]
    rfl

end Right

/-- Sections are found where their lines stand one after the other. -/
theorem sectionsOfLines?_eq_some_iff {text : List (Line η ι σ)} {sections : List (Section η ι σ)} :
    sectionsOfLines? text = some sections ↔ text = sections.flatMap Section.lines := by
  constructor
  · intro found
    rw [sectionsOfLines?] at found
    split at found
    · next found' =>
      cases found
      simpa [Right.lines] using Right.lines_of_ofLines? found'
    · cases found
  · rintro rfl
    rw [sectionsOfLines?, Right.ofLines?_sections]

/-! Spelled line by line. -/

/-- Which line a statement is. -/
inductive IsLine (heading : η → List Atom → Prop) (item : ι → List Atom → Prop)
    (text : σ → List Char → Prop) : Statement → Line η ι σ → Prop
  | heading {h atoms} : heading h atoms → IsLine heading item text ⟨atoms, .opening⟩ (.heading h)
  | item {i atoms} : item i atoms → IsLine heading item text ⟨atoms, .semicolon⟩ (.item i)
  | group {name body} : text name body →
    IsLine heading item text ⟨[.word "group", .quoted body], .opening⟩ (.group name)
  | close : IsLine heading item text ⟨[], .closing⟩ .close

variable {heading : η → List Atom → Prop} {item : ι → List Atom → Prop} {text : σ → List Char → Prop}

lemma spellsItems_iff {body : Outline ι σ} {pieces : List Token} :
    SpellsItems item text body pieces ↔
      ∃ statements, List.Forall₂ (IsLine heading item text) statements body.lines ∧
        pieces = statements.flatMap Statement.tokens := by
  constructor
  · intro spelled
    induction spelled with
    | nil => exact ⟨[], .nil, rfl⟩
    | @item here atoms rest tokens spelled _ ih =>
      obtain ⟨statements, lines, rfl⟩ := ih
      refine ⟨⟨atoms, .semicolon⟩ :: statements, .cons (.item spelled) lines, ?_⟩
      simp [Statement.tokens]
    | @group name body inner within rest tokens spelled _ _ ih_inner ih_rest =>
      obtain ⟨inside, inner_lines, rfl⟩ := ih_inner
      obtain ⟨statements, lines, rfl⟩ := ih_rest
      refine ⟨⟨[.word "group", .quoted body], .opening⟩ :: inside ++ ⟨[], .closing⟩ :: statements,
        .cons (.group spelled) (List.rel_append inner_lines (.cons .close lines)), ?_⟩
      simp [Statement.tokens]
  · rintro ⟨statements, lines, rfl⟩
    induction body generalizing statements with
    | nil =>
      cases lines
      exact .nil
    | item here rest ih =>
      obtain ⟨s, statements, first, later, rfl⟩ := List.forall₂_cons_right_iff.1 lines
      obtain _ | spelled := first
      simpa [Statement.tokens] using SpellsItems.item spelled (ih _ later)
    | group name inner rest ih_inner ih_rest =>
      -- The name of the group, the lines inside, the brace behind them, and the lines after it.
      obtain ⟨s, statements, first, later, rfl⟩ := List.forall₂_cons_right_iff.1 lines
      have within := ih_inner _ (List.forall₂_take_append _ _ _ later)
      obtain ⟨s', outside, last, after, split⟩ :=
        List.forall₂_cons_right_iff.1 (List.forall₂_drop_append _ _ _ later)
      obtain _ | _ | spelled := first
      cases last
      have spelled := SpellsItems.group spelled within (ih_rest _ after)
      rw [← List.take_append_drop inner.lines.length statements, split]
      simpa [Statement.tokens] using spelled

lemma spellsSection_iff {s : Section η ι σ} {pieces : List Token} :
    SpellsSection heading item text s pieces ↔
      ∃ statements, List.Forall₂ (IsLine heading item text) statements s.lines ∧
        pieces = statements.flatMap Statement.tokens := by
  constructor
  · rintro ⟨spelled, inside⟩
    obtain ⟨statements, lines, rfl⟩ := spellsItems_iff.1 inside
    refine ⟨⟨_, .opening⟩ :: statements ++ [⟨[], .closing⟩],
      .cons (.heading spelled) (List.rel_append lines (.cons .close .nil)), ?_⟩
    simp [Statement.tokens]
  · rintro ⟨statements, lines, rfl⟩
    obtain ⟨s', more, first, later, rfl⟩ := List.forall₂_cons_right_iff.1 lines
    have within := spellsItems_iff.2 ⟨_, List.forall₂_take_append _ _ _ later, rfl⟩
    obtain ⟨s'', none_left, last, after, split⟩ :=
      List.forall₂_cons_right_iff.1 (List.forall₂_drop_append _ _ _ later)
    obtain ⟨spelled⟩ := first
    cases last
    cases after
    have spelled := SpellsSection.mk spelled within
    rw [← List.take_append_drop s.body.lines.length more, split]
    simpa [Statement.tokens] using spelled

/-- What spells sections one after the other is told by the lines of them. -/
theorem spellsSections_iff {sections : List (Section η ι σ)} {tokens : List Token} :
    (∃ pieces, List.Forall₂ (SpellsSection heading item text) sections pieces ∧ tokens = pieces.flatten) ↔
      ∃ statements, List.Forall₂ (IsLine heading item text) statements (sections.flatMap Section.lines) ∧
        tokens = statements.flatMap Statement.tokens := by
  induction sections generalizing tokens with
  | nil => simp
  | cons s more ih =>
    constructor
    · rintro ⟨pieces, spelled, rfl⟩
      obtain ⟨piece, later, first, others, rfl⟩ := List.forall₂_cons_left_iff.1 spelled
      obtain ⟨here, lines, rfl⟩ := spellsSection_iff.1 first
      obtain ⟨statements, more_lines, same⟩ := ih.1 ⟨later, others, rfl⟩
      refine ⟨here ++ statements, List.rel_append lines more_lines, ?_⟩
      rw [List.flatten_cons, List.flatMap_append, same]
    · rintro ⟨statements, lines, rfl⟩
      have first := spellsSection_iff.2 ⟨_, List.forall₂_take_append _ _ _ lines, rfl⟩
      obtain ⟨pieces, spelled, same⟩ := ih.2 ⟨_, List.forall₂_drop_append _ _ _ lines, rfl⟩
      refine ⟨_ :: pieces, .cons first spelled, ?_⟩
      rw [List.flatten_cons, ← same, ← List.flatMap_append, List.take_append_drop]

end
end ByteAtlas.Description
