import ByteAtlas.Proofs.Description.Lexing
import ByteAtlas.Proofs.Description.Nesting

/-!
# The grammar

The definitions of a text as they are written follow the same rules as what has been read, with literals that stand
for themselves (`written?_eq_some_iff`). Whether the literals mean something is not asked here.
-/

namespace ByteAtlas

lemma Color.ofName?_eq_some_iff {word : String} {color : Color} :
    ofName? word = some color ↔ word = color.name := by
  constructor
  · intro found
    have same := List.find?_some found
    exact (eq_of_beq same).symm
  · rintro rfl
    exact ofName?_name color

namespace Description

/-- Which words have the form of a count. -/
def IsCount (word : String) : Prop :=
  isHexNumber word ∨ isDecimal word ∨ Identifier word ∧ ∀ color : Color, word ≠ color.name

/-- The spellings of what is written: by the form of the words. -/
def writtenLexicon : Lexicon String (List Char) String :=
  ⟨fun type word => type = word ∧ word ∈ scalarWords, Eq, fun count word => count = word ∧ IsCount word⟩

lemma not_isDigit_of_isAlpha {c : Char} (letter : c.isAlpha) : ¬c.isDigit := by
  simp only [Char.isAlpha, Char.isUpper, Char.isLower, Char.isDigit, UInt32.le_iff_toNat_le, ge_iff_le,
    Bool.or_eq_true, Bool.and_eq_true, decide_eq_true_eq] at letter ⊢
  simp only [Char.reduceVal, UInt32.reduceToNat] at letter ⊢
  omega

lemma isName_iff {word : String} (is_word : IsWord word.toList) : isName word = true ↔ Identifier word := by
  obtain ⟨some_char, kind⟩ := is_word
  unfold Identifier
  cases split : word.toList with
  | nil => exact absurd split some_char
  | cons first rest =>
    rw [split, List.forall_mem_cons] at kind
    obtain ⟨first_kind, kind⟩ := kind
    have digit_first : isName word = true ↔ ¬first.isDigit = true := by simp [isName, split]
    rw [digit_first]
    constructor
    · intro no_digit
      refine ⟨first, rest, rfl, ?_, kind⟩
      rcases first_kind with either | rfl
      · rw [Char.isAlphanum, Bool.or_eq_true] at either
        exact .inl (either.resolve_right no_digit)
      · exact .inr rfl
    · rintro ⟨first', rest', same, letter | rfl, -⟩ <;> cases same
      · exact not_isDigit_of_isAlpha letter
      · decide

lemma isCount_iff {word : String} (is_word : IsWord word.toList) : isCount word = true ↔ IsCount word := by
  have no_color : (Color.ofName? word).isNone = true ↔ ∀ color : Color, word ≠ color.name := by
    simp [Option.isNone_iff_eq_none, Option.eq_none_iff_forall_ne_some, Color.ofName?_eq_some_iff]
  simp [isCount, IsCount, isName_iff is_word, no_color, or_assoc]

namespace Statement

/-- Every word among words and quoted texts is one by its characters. -/
def Worded (atoms : List Atom) : Prop := ∀ word, .word word ∈ atoms → IsWord word.toList

lemma Worded.head {word : String} {atoms : List Atom} (worded : Worded (.word word :: atoms)) :
    IsWord word.toList :=
  worded word (List.mem_cons_self ..)

lemma Worded.tail {a : Atom} {atoms : List Atom} (worded : Worded (a :: atoms)) : Worded atoms :=
  fun word among => worded word (List.mem_cons_of_mem _ among)

lemma Worded.append_right {front atoms : List Atom} (worded : Worded (front ++ atoms)) : Worded atoms :=
  fun word among => worded word (List.mem_append_right _ among)

lemma name?_eq_some_iff {word name : String} (is_word : IsWord word.toList) :
    name? word = some name ↔ Identifier name ∧ word = name := by
  rw [name?, Option.ite_none_right_eq_some, isName_iff is_word, Option.some.injEq]
  exact and_congr_left fun same => by rw [same]

lemma count?_eq_some_iff {word count : String} (is_word : IsWord word.toList) :
    count? word = some count ↔ writtenLexicon.count count word := by
  rw [count?, Option.ite_none_right_eq_some, Option.some.injEq, isCount_iff is_word, and_comm, eq_comm]
  rfl

lemma color?_eq_some_iff {atoms : List Atom} {color : Color} :
    color? atoms = some color ↔ SpellsColor color atoms := by
  constructor
  · intro found
    revert found
    fun_cases color? atoms <;> intro found
    case case1 =>
      cases found
      exact .default
    case case2 word =>
      obtain rfl := Color.ofName?_eq_some_iff.1 found
      exact .named color
    case case3 => cases found
  · rintro (_ | _)
    · rfl
    · exact Color.ofName?_name color

lemma colorAndBind?_eq_some_iff {atoms : List Atom} {color : Color} {bind : Option String}
    (worded : Worded atoms) :
    colorAndBind? atoms = some (color, bind) ↔
      ∃ paint binding, atoms = paint ++ binding ∧ SpellsColor color paint ∧ SpellsBind bind binding := by
  constructor
  · intro found
    revert found
    fun_cases colorAndBind? atoms <;> intro found
    case case1 =>
      cases found
      exact ⟨[], [], rfl, .default, .none⟩
    case case2 word =>
      obtain ⟨color', named, same⟩ := Option.map_eq_some_iff.1 found
      cases same
      obtain rfl := Color.ofName?_eq_some_iff.1 named
      exact ⟨_, [], rfl, .named color, .none⟩
    case case3 bound =>
      obtain ⟨name, named, same⟩ := Option.map_eq_some_iff.1 found
      cases same
      obtain ⟨identifier, rfl⟩ := (name?_eq_some_iff worded.tail.head).1 named
      exact ⟨[], _, rfl, .default, .some identifier⟩
    case case4 word bound =>
      obtain ⟨color', named, found⟩ := Option.bind_eq_some_iff.1 found
      obtain ⟨name, named', same⟩ := Option.bind_eq_some_iff.1 found
      cases same
      obtain rfl := Color.ofName?_eq_some_iff.1 named
      obtain ⟨identifier, rfl⟩ := (name?_eq_some_iff worded.tail.tail.head).1 named'
      exact ⟨_, _, rfl, .named color, .some identifier⟩
    case case5 => cases found
  · rintro ⟨paint, binding, rfl, painted, bound⟩
    cases painted <;> cases bound
    case default.none => rfl
    case default.some name identifier =>
      have named := (name?_eq_some_iff worded.tail.head).2 ⟨identifier, rfl⟩
      simp [colorAndBind?, named]
      rfl
    case named.none => simp [colorAndBind?, Color.ofName?_name]
    case named.some name identifier =>
      have named := (name?_eq_some_iff worded.tail.tail.head).2 ⟨identifier, rfl⟩
      simp [colorAndBind?, Color.ofName?_name, named]

/-- Behind the keyword and the name of an embedded format, if the keyword says how often. -/
lemma target?_some_eq_some_iff {fixed times : Times String} {atoms : List Atom} {target : String}
    (worded : Worded atoms) :
    target? (some fixed) atoms = some (times, target) ↔
      fixed = times ∧ atoms = [.word target] ∧ Identifier target := by
  constructor
  · intro found
    rw [target?.eq_def] at found
    split at found
    · next same =>
      cases same
      obtain ⟨name, named, same⟩ := Option.map_eq_some_iff.1 found
      cases same
      obtain ⟨identifier, rfl⟩ := (name?_eq_some_iff worded.head).1 named
      exact ⟨rfl, rfl, identifier⟩
    · next same => cases same
    · cases found
  · rintro ⟨rfl, rfl, identifier⟩
    rw [target?, (name?_eq_some_iff worded.head).2 ⟨identifier, rfl⟩]
    rfl

lemma target?_none_eq_some_iff {times : Times String} {atoms : List Atom} {target : String}
    (worded : Worded atoms) :
    target? none atoms = some (times, target) ↔
      ∃ count, times = .count count ∧ IsCount count ∧ atoms = [.word count, .word target] ∧ Identifier target := by
  constructor
  · intro found
    rw [target?.eq_def] at found
    split at found
    · next same => cases same
    · obtain ⟨count, counted, found⟩ := Option.bind_eq_some_iff.1 found
      obtain ⟨name, named, same⟩ := Option.bind_eq_some_iff.1 found
      cases same
      obtain ⟨rfl, is_count⟩ := (count?_eq_some_iff worded.head).1 counted
      obtain ⟨identifier, rfl⟩ := (name?_eq_some_iff worded.tail.head).1 named
      exact ⟨_, rfl, is_count, rfl, identifier⟩
    · cases found
  · rintro ⟨count, rfl, is_count, rfl, identifier⟩
    have counted : count? count = some count := (count?_eq_some_iff worded.head).2 ⟨rfl, is_count⟩
    have named := (name?_eq_some_iff worded.tail.head).2 ⟨identifier, rfl⟩
    simp [target?, counted, named]

/-- A name may stand in front of what an embedded format repeats. -/
lemma embed?_eq_some_iff {fixed : Option (Times String)} {atoms : List Atom} {i : WrittenItem} :
    embed? fixed atoms = some i ↔
      ∃ name named times target more, SpellsName Eq name named ∧ atoms = named ++ more ∧
        target? fixed more = some (times, target) ∧ i = .embed name times target := by
  constructor
  · intro found
    revert found
    fun_cases embed? fixed atoms <;> intro found
    case case1 body rest =>
      obtain ⟨⟨times, target⟩, aimed, rfl⟩ := Option.map_eq_some_iff.1 found
      exact ⟨_, _, _, _, _, .some rfl, rfl, aimed, rfl⟩
    case case2 =>
      obtain ⟨⟨times, target⟩, aimed, rfl⟩ := Option.map_eq_some_iff.1 found
      exact ⟨_, _, _, _, _, .none, rfl, aimed, rfl⟩
  · rintro ⟨name, named, times, target, more, spelled, rfl, found, rfl⟩
    cases spelled with
    | none =>
      rw [List.nil_append, embed?.eq_def]
      split
      · -- A quoted text is no target.
        cases fixed <;> cases found
      · rw [found]
        rfl
    | some same =>
      cases same
      rw [List.singleton_append, embed?, found]
      rfl

lemma spellsItem_of_item? {atoms : List Atom} {i : WrittenItem} (worded : Worded atoms)
    (found : item? atoms = some i) : SpellsItem writtenLexicon i atoms := by
  revert found
  fun_cases item? atoms <;> intro found
  case case1 body count rest =>
    obtain ⟨count, counted, found⟩ := Option.bind_eq_some_iff.1 found
    obtain ⟨color, painted, same⟩ := Option.bind_eq_some_iff.1 found
    cases same
    exact .bytes rfl ((count?_eq_some_iff worded.tail.tail.head).1 counted) (color?_eq_some_iff.1 painted)
  case case2 rest =>
    obtain ⟨name, named, times, target, more, spelled, rfl, aimed, rfl⟩ := embed?_eq_some_iff.1 found
    obtain ⟨rfl, rfl, identifier⟩ := (target?_some_eq_some_iff worded.tail.append_right).1 aimed
    exact .child spelled identifier
  case case3 rest =>
    obtain ⟨name, named, times, target, more, spelled, rfl, aimed, rfl⟩ := embed?_eq_some_iff.1 found
    obtain ⟨rfl, rfl, identifier⟩ := (target?_some_eq_some_iff worded.tail.append_right).1 aimed
    exact .sequence spelled identifier
  case case4 rest =>
    obtain ⟨name, named, times, target, more, spelled, rfl, aimed, rfl⟩ := embed?_eq_some_iff.1 found
    obtain ⟨count, rfl, is_count, rfl, identifier⟩ :=
      (target?_none_eq_some_iff worded.tail.append_right).1 aimed
    exact .array spelled ⟨rfl, is_count⟩ identifier
  case case5 word body rest _ _ _ _ is_type =>
    obtain ⟨⟨color, bind⟩, followed, rfl⟩ := Option.map_eq_some_iff.1 found
    obtain ⟨paint, binding, rfl, painted, bound⟩ := (colorAndBind?_eq_some_iff worded.tail.tail).1 followed
    exact .scalar ⟨rfl, is_type⟩ rfl painted bound
  all_goals cases found

/-- No keyword of an item has the form of a scalar type. -/
lemma keyword_of_scalarWords {word : String} (type : word ∈ scalarWords) :
    word ≠ "bytes" ∧ word ≠ "child" ∧ word ≠ "sequence" ∧ word ≠ "array" := by
  revert word
  decide

lemma item?_scalar {word : String} {body : List Char} {rest : List Atom} {color : Color} {bind : Option String}
    (type : word ∈ scalarWords) (followed : colorAndBind? rest = some (color, bind)) :
    item? (.word word :: .quoted body :: rest) = some (.scalar word body color bind) := by
  obtain ⟨no_bytes, no_child, no_sequence, no_array⟩ := keyword_of_scalarWords type
  simp [item?, no_bytes, type, followed]

theorem item?_eq_some_iff {atoms : List Atom} {i : WrittenItem} (worded : Worded atoms) :
    item? atoms = some i ↔ SpellsItem writtenLexicon i atoms := by
  refine ⟨spellsItem_of_item? worded, fun spelled => ?_⟩
  cases spelled with
  | @scalar type word name body color paint bind binding type_word same painted bound =>
    obtain ⟨rfl, is_type⟩ := type_word
    cases same
    exact item?_scalar is_type
      ((colorAndBind?_eq_some_iff worded.tail.tail).2 ⟨paint, binding, rfl, painted, bound⟩)
  | bytes same counted painted =>
    cases same
    rw [item?, (count?_eq_some_iff worded.tail.tail.head).2 counted, color?_eq_some_iff.2 painted]
    rfl
  | child spelled identifier =>
    exact embed?_eq_some_iff.2 ⟨_, _, _, _, _, spelled, rfl,
      (target?_some_eq_some_iff worded.tail.append_right).2 ⟨rfl, rfl, identifier⟩, rfl⟩
  | array spelled counted identifier =>
    obtain ⟨rfl, is_count⟩ := counted
    exact embed?_eq_some_iff.2 ⟨_, _, _, _, _, spelled, rfl,
      (target?_none_eq_some_iff worded.tail.append_right).2 ⟨_, rfl, is_count, rfl, identifier⟩, rfl⟩
  | sequence spelled identifier =>
    exact embed?_eq_some_iff.2 ⟨_, _, _, _, _, spelled, rfl,
      (target?_some_eq_some_iff worded.tail.append_right).2 ⟨rfl, rfl, identifier⟩, rfl⟩

/-- Which words and quoted texts spell a heading as it is written. -/
inductive SpellsHeadingAsWritten : Heading → List Atom → Prop
  | mk {name clauses atoms} : Identifier name → clauses? atoms = some clauses →
    SpellsHeadingAsWritten ⟨name, clauses⟩ (.word "format" :: .word name :: atoms)

theorem line?_eq_some_iff {s : Statement} {line : WrittenLine} (worded : Worded s.atoms) :
    line? s = some line ↔ IsLine SpellsHeadingAsWritten (SpellsItem writtenLexicon) Eq s line := by
  constructor
  · intro found
    revert found
    fun_cases line? s <;> intro found
    case case1 atoms =>
      obtain ⟨i, is_item, rfl⟩ := Option.map_eq_some_iff.1 found
      exact .item ((item?_eq_some_iff worded).1 is_item)
    case case2 =>
      cases found
      exact .close
    case case3 name =>
      cases found
      exact .group rfl
    case case4 word rest =>
      obtain ⟨name, named, found⟩ := Option.bind_eq_some_iff.1 found
      obtain ⟨clauses, read, same⟩ := Option.bind_eq_some_iff.1 found
      cases same
      obtain ⟨identifier, rfl⟩ := (name?_eq_some_iff worded.tail.head).1 named
      exact .heading (.mk identifier read)
    case case5 => cases found
  · intro is_line
    cases is_line with
    | heading spelled =>
      obtain ⟨identifier, read⟩ := spelled
      have named := (name?_eq_some_iff worded.tail.head).2 ⟨identifier, rfl⟩
      simp [line?, named, read]
    | item spelled => rw [line?, (item?_eq_some_iff worded).2 spelled, Option.map_some]
    | group same =>
      cases same
      rfl
    | close => rfl

end Statement

lemma mapM_eq_some_iff {α β : Type} {f : α → Option β} {l : List α} {r : List β} :
    l.mapM f = some r ↔ List.Forall₂ (fun a b => f a = some b) l r := by
  induction l generalizing r with
  | nil => simp [eq_comm]
  | cons a l ih =>
    rw [List.mapM_cons, List.forall₂_cons_left_iff]
    simp [Option.bind_eq_some_iff, ih, @eq_comm _ r]

/-- Which tokens spell a definition as it is written. -/
def SpellsAsWritten (w : WrittenDefinition) (tokens : List Token) : Prop :=
  SpellsSection Statement.SpellsHeadingAsWritten (SpellsItem writtenLexicon) Eq w tokens

lemma lines_iff {statements : List Statement} {lines : List WrittenLine}
    (worded : ∀ s ∈ statements, Statement.Worded s.atoms) :
    statements.mapM Statement.line? = some lines ↔
      List.Forall₂ (IsLine Statement.SpellsHeadingAsWritten (SpellsItem writtenLexicon) Eq) statements lines := by
  rw [mapM_eq_some_iff]
  constructor
  · intro found
    exact ((List.forall₂_and_left _ _).2 ⟨worded, found⟩).imp fun _ _ both =>
      (Statement.line?_eq_some_iff both.1).1 both.2
  · intro spelled
    exact ((List.forall₂_and_left _ _).2 ⟨worded, spelled⟩).imp fun _ _ both =>
      (Statement.line?_eq_some_iff both.1).2 both.2

lemma SpellsTokens.worded {statements : List Statement} {text : List Char} {s : Statement}
    (spelled : SpellsTokens (statements.flatMap Statement.tokens) text) (among : s ∈ statements) :
    Statement.Worded s.atoms := by
  intro word within
  refine spelled.isWord (List.mem_flatMap.2 ⟨s, among, ?_⟩)
  exact List.mem_append_left _ (List.mem_map_of_mem within)

/-- A text follows the grammar where it spells definitions as they are written. -/
theorem written?_eq_some_iff {text : List Char} {written : List WrittenDefinition} :
    written? text = some written ↔
      ∃ pieces, List.Forall₂ SpellsAsWritten written pieces ∧ SpellsTokens pieces.flatten text := by
  constructor
  · intro found
    obtain ⟨tokens, cut, found⟩ := Option.bind_eq_some_iff.1 found
    obtain ⟨statements, formed, found⟩ := Option.bind_eq_some_iff.1 found
    obtain ⟨lines, told, nested⟩ := Option.bind_eq_some_iff.1 found
    obtain rfl := Statement.ofTokens?_eq_some_iff.1 formed
    obtain rfl := sectionsOfLines?_eq_some_iff.1 nested
    have spelled := Token.lex?_eq_some_iff.1 cut
    obtain ⟨pieces, told, same⟩ :=
      spellsSections_iff.2 ⟨statements, (lines_iff fun _ among => spelled.worded among).1 told, rfl⟩
    exact ⟨pieces, told, same ▸ spelled⟩
  · rintro ⟨pieces, told, spelled⟩
    obtain ⟨statements, told, same⟩ := spellsSections_iff.1 ⟨pieces, told, rfl⟩
    rw [same] at spelled
    have told := (lines_iff fun _ among => spelled.worded among).2 told
    simp [written?, Token.lex?_eq_some_iff.2 spelled, Statement.ofTokens?_eq_some_iff.2 rfl, told,
      sectionsOfLines?_eq_some_iff]

end Description
end ByteAtlas
