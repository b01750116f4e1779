import ByteAtlas.Proofs.Description.Faults
import ByteAtlas.Proofs.Description.Parsing

/-!
# The leftmost bad literal

The literals of a text, told from its tokens: each is known by what stands next to it (`LiteralAt`). These are the
literals of what is written, in the order of the text (`literals_flatten`). So a text that follows the grammar
is refused exactly if it holds a bad literal, and for the one that stands furthest to the left
(`parse_refuses_leftmost`), in whatever definition, clause or group it stands.
-/

namespace ByteAtlas.Description

/-- Whether the word for magic bytes is the last of some tokens. -/
def endsWithMagic (before : List Token) : Bool := before.getLast? = some (.atom (.word "magic"))

/-- Which literal stands between tokens that follow the grammar. A word for a scalar type stands in front of a quoted
text; other words are literals if they are numbers, and quoted texts always are. -/
inductive LiteralAt (before : List Token) : List Token → Literal → Prop
  | scalarType {word body after} : word ∈ scalarWords →
    LiteralAt before (.atom (.word word) :: .atom (.quoted body) :: after) (.scalarType word)
  | text {body after} : endsWithMagic before = false →
    LiteralAt before (.atom (.quoted body) :: after) (.text body)
  | magicText {body after} : endsWithMagic before = true →
    LiteralAt before (.atom (.quoted body) :: after) (.magicText body)
  | magicHex {word after} : endsWithMagic before = true → isHexNumber word →
    LiteralAt before (.atom (.word word) :: after) (.magicHex word)
  | count {word after} : endsWithMagic before = false → IsNumber word →
    LiteralAt before (.atom (.word word) :: after) (.count word)

/-- Whether a bad literal stands behind a beginning of some tokens. -/
def BadAt (tokens before : List Token) (cause : LiteralError) : Prop :=
  ∃ after literal, tokens = before ++ after ∧ LiteralAt before after literal ∧ literal.Bad cause

/-- The bad literal that has the fewest tokens before it. -/
structure LeftmostBad (tokens before : List Token) (cause : LiteralError) : Prop where
  bad : BadAt tokens before cause
  earlier : ∀ front other, BadAt tokens front other → before.length ≤ front.length

/-- Whether a text follows the grammar, with some tokens. What its literals mean is not asked. -/
def FollowsGrammar (text : String) (tokens : List Token) : Prop :=
  SpellsTokens tokens text.toList ∧
    ∃ written pieces, List.Forall₂ SpellsAsWritten written pieces ∧ tokens = pieces.flatten

/-! The literals of tokens, one after the other. -/

def startsQuoted : List Token → Bool
  | .atom (.quoted _) :: _ => true
  | _ => false

/-- The literal that a token is, after the word for magic bytes or not, and in front of others. -/
def literal? (magic : Bool) : Token → List Token → Option Literal
  | .atom (.quoted body), _ => some (if magic then .magicText body else .text body)
  | .atom (.word word), after =>
    if magic ∧ isHexNumber word then some (.magicHex word)
    else if ¬magic ∧ IsNumber word then some (.count word)
    else if word ∈ scalarWords ∧ startsQuoted after then some (.scalarType word)
    else none
  | .mark _, _ => none

def literals (magic : Bool) : List Token → List Literal
  | [] => []
  | t :: after => (literal? magic t after).toList ++ literals (t = .atom (.word "magic")) after

lemma not_isNumber_of_scalarWords {word : String} (type : word ∈ scalarWords) : ¬IsNumber word := by
  revert word
  decide

lemma startsQuoted_iff {tokens : List Token} :
    startsQuoted tokens = true ↔ ∃ body after, tokens = .atom (.quoted body) :: after := by
  fun_cases startsQuoted tokens <;> simp_all

lemma literal?_quoted (magic : Bool) (body : List Char) (after : List Token) :
    literal? magic (.atom (.quoted body)) after = some (if magic then .magicText body else .text body) := by
  rw [literal?]

lemma literal?_scalarType {magic : Bool} {word : String} {after : List Token} (type : word ∈ scalarWords)
    (quoted : startsQuoted after = true) : literal? magic (.atom (.word word)) after = some (.scalarType word) := by
  have no_number := not_isNumber_of_scalarWords type
  have no_hex : ¬isHexNumber word = true := fun hex => no_number (.inl hex)
  simp [literal?, no_number, no_hex, type, quoted]

/-- A word that is no number is no literal, unless it stands for a scalar type in front of a quoted text. -/
lemma literal?_word {magic : Bool} {word : String} {after : List Token} (no_number : ¬IsNumber word)
    (alone : word ∉ scalarWords ∨ startsQuoted after = false) : literal? magic (.atom (.word word)) after = none := by
  have no_hex : ¬isHexNumber word = true := fun hex => no_number (.inl hex)
  obtain no_type | no_quote := alone
  · simp [literal?, no_number, no_hex, no_type]
  · simp [literal?, no_number, no_hex, no_quote]

lemma literalAt_iff {before after : List Token} {t : Token} {literal : Literal} :
    LiteralAt before (t :: after) literal ↔ literal? (endsWithMagic before) t after = some literal := by
  constructor
  · intro here
    cases here with
    | scalarType type => exact literal?_scalarType type rfl
    | text no_magic => rw [literal?_quoted, no_magic, if_neg Bool.false_ne_true]
    | magicText magic => rw [literal?_quoted, magic, if_pos rfl]
    | magicHex magic hex => simp [literal?, magic, hex]
    | count no_magic number => simp [literal?, no_magic, number]
  · intro here
    revert here
    fun_cases literal? (endsWithMagic before) t after <;> intro here
    case case1 body =>
      cases magic : endsWithMagic before <;> rw [magic] at here <;> cases here
      · exact .text magic
      · exact .magicText magic
    case case2 word hex =>
      cases here
      exact .magicHex hex.1 hex.2
    case case3 word _ number =>
      cases here
      exact .count (Bool.eq_false_of_not_eq_true number.1) number.2
    case case4 word _ _ type =>
      cases here
      obtain ⟨body, more, rfl⟩ := startsQuoted_iff.1 type.2
      exact .scalarType type.1
    all_goals cases here

lemma LiteralAt.formed {before after : List Token} {literal : Literal} (here : LiteralAt before after literal) :
    literal.Formed := by
  cases here with
  | scalarType type => exact type
  | magicHex _ hex => exact hex
  | count _ number => exact number
  | _ => trivial

lemma LiteralAt.unique {before after : List Token} {literal other : Literal} (here : LiteralAt before after literal)
    (there : LiteralAt before after other) : literal = other := by
  cases after with
  | nil => cases here
  | cons t after => exact Option.some.inj ((literalAt_iff.1 here).symm.trans (literalAt_iff.1 there))

/-! Where the first error comes from. -/

variable {tokens before : List Token} {cause : LiteralError}

lemma endsWithMagic_concat (before : List Token) (t : Token) :
    endsWithMagic (before ++ [t]) = decide (t = .atom (.word "magic")) := by
  simp [endsWithMagic]

/-- There is at most one leftmost bad literal. -/
lemma LeftmostBad.unique {other : List Token} {cause' : LiteralError} (first : LeftmostBad tokens before cause)
    (second : LeftmostBad tokens other cause') : cause = cause' := by
  obtain ⟨after, literal, split, here, bad⟩ := first.bad
  obtain ⟨after', literal', split', here', bad'⟩ := second.bad
  have same_length := Nat.le_antisymm (first.earlier _ _ second.bad) (second.earlier _ _ first.bad)
  obtain ⟨rfl, rfl⟩ := List.append_inj (split.symm.trans split') same_length
  obtain rfl := here.unique here'
  have refused := (Literal.cause?_eq_some_iff here.formed).2 bad
  have refused' := (Literal.cause?_eq_some_iff here'.formed).2 bad'
  exact Option.some.inj (refused.symm.trans refused')

/-- What is bad at a place is settled by the token there and what stands next to it. -/
lemma badAt_append_iff {front rest : List Token} {t : Token} :
    BadAt (front ++ t :: rest) front cause ↔
      firstCause? (literal? (endsWithMagic front) t rest).toList = some cause := by
  have known : firstCause? (literal? (endsWithMagic front) t rest).toList =
      (literal? (endsWithMagic front) t rest).bind Literal.cause? := by
    cases literal? (endsWithMagic front) t rest <;> simp
  rw [known, Option.bind_eq_some_iff]
  constructor
  · rintro ⟨after, literal, split, here, bad⟩
    obtain rfl := List.append_cancel_left split
    exact ⟨literal, literalAt_iff.1 here, (Literal.cause?_eq_some_iff here.formed).2 bad⟩
  · rintro ⟨literal, found, refused⟩
    have here := literalAt_iff.2 found
    exact ⟨_, literal, rfl, here, (Literal.cause?_eq_some_iff here.formed).1 refused⟩

/-- What is bad at a place stands in front of the next token, or behind it. -/
lemma badAt_append_cons_iff {front rest more : List Token} {t : Token} :
    BadAt (front ++ t :: rest) (front ++ more) cause ↔
      more = [] ∧ firstCause? (literal? (endsWithMagic front) t rest).toList = some cause ∨
        ∃ later, more = t :: later ∧ BadAt (front ++ [t] ++ rest) (front ++ [t] ++ later) cause := by
  cases more with
  | nil => simp [badAt_append_iff]
  | cons t' later =>
    constructor
    · intro bad
      have ⟨after, literal, split, _, _⟩ := bad
      rw [List.append_assoc, List.append_cancel_left_eq, List.cons_append, List.cons_eq_cons] at split
      obtain ⟨rfl, -⟩ := split
      exact .inr ⟨later, rfl, by simpa using bad⟩
    · rintro (⟨none, -⟩ | ⟨later, same, bad⟩)
      · cases none
      · cases same
        simpa using bad

/-- Behind some tokens, either no literal is bad, or the first error is that of the bad one furthest to the left. -/
lemma firstCause?_literals_cases (front rest : List Token) :
    (firstCause? (literals (endsWithMagic front) rest) = none ∧
      ∀ more cause, ¬BadAt (front ++ rest) (front ++ more) cause) ∨
    ∃ more cause, firstCause? (literals (endsWithMagic front) rest) = some cause ∧
      BadAt (front ++ rest) (front ++ more) cause ∧
      ∀ other cause', BadAt (front ++ rest) (front ++ other) cause' → more.length ≤ other.length := by
  induction rest generalizing front with
  | nil =>
    refine .inl ⟨rfl, fun more cause bad => ?_⟩
    obtain ⟨after, literal, split, here, -⟩ := bad
    obtain ⟨rfl, rfl⟩ : more = [] ∧ after = [] := by simpa using split
    cases here
  | cons t rest ih =>
    rw [literals, firstCause?_append, ← endsWithMagic_concat front t]
    cases here : firstCause? (literal? (endsWithMagic front) t rest).toList with
    | some cause =>
      refine .inr ⟨[], cause, Option.some_or, ?_, fun _ _ _ => Nat.zero_le _⟩
      exact badAt_append_cons_iff.2 (.inl ⟨rfl, here⟩)
    | none =>
      -- Nothing is bad in front of this token, so what is bad stands behind it.
      have behind {more cause} (bad : BadAt (front ++ t :: rest) (front ++ more) cause) :
          ∃ later, more = t :: later ∧ BadAt (front ++ [t] ++ rest) (front ++ [t] ++ later) cause := by
        refine (badAt_append_cons_iff.1 bad).resolve_left ?_
        rw [here]
        exact fun refused => nomatch refused.2
      rw [Option.none_or]
      obtain ⟨none_bad, absent⟩ | ⟨more, cause, found, bad, first⟩ := ih (front ++ [t])
      · refine .inl ⟨none_bad, fun more cause bad => ?_⟩
        obtain ⟨later, -, bad⟩ := behind bad
        exact absent later cause bad
      · refine .inr ⟨t :: more, cause, found, badAt_append_cons_iff.2 (.inr ⟨more, rfl, bad⟩), ?_⟩
        intro other cause' bad
        obtain ⟨later, rfl, bad'⟩ := behind bad
        exact Nat.succ_le_succ (first later cause' bad')

/-- The first error is that of the bad literal furthest to the left. -/
theorem firstCause?_literals_eq_some_iff :
    firstCause? (literals false tokens) = some cause ↔ ∃ before, LeftmostBad tokens before cause := by
  obtain ⟨none_bad, absent⟩ | ⟨first, cause', found, bad, earlier⟩ := firstCause?_literals_cases [] tokens
  · have none_bad : firstCause? (literals false tokens) = none := none_bad
    rw [none_bad]
    exact ⟨nofun, fun ⟨before, leftmost⟩ => absurd leftmost.bad (absent before cause)⟩
  · have found : firstCause? (literals false tokens) = some cause' := found
    have leftmost : LeftmostBad tokens first cause' := ⟨bad, earlier⟩
    rw [found, Option.some.injEq]
    constructor
    · rintro rfl
      exact ⟨first, leftmost⟩
    · rintro ⟨before, other⟩
      exact leftmost.unique other

/-- Some bad literal is the one furthest to the left. -/
lemma BadAt.exists_leftmost {before : List Token} (bad : BadAt tokens before cause) :
    ∃ first cause, LeftmostBad tokens first cause := by
  obtain ⟨-, absent⟩ | ⟨first, cause', -, bad', earlier⟩ := firstCause?_literals_cases [] tokens
  · exact absurd bad (absent before cause)
  · exact ⟨first, cause', bad', earlier⟩

/-! The literals of what is written are those of its tokens. -/

lemma startsQuoted_append_mark (atoms : List Atom) (m : Mark) (rest : List Token) :
    startsQuoted (atoms.map .atom ++ .mark m :: rest) = startsQuoted (atoms.map .atom) := by
  cases atoms with
  | nil => rfl
  | cons a atoms => cases a <;> rfl

/-- What stands behind a mark does not change what stands in front of it. -/
lemma literals_append_mark (magic : Bool) (atoms : List Atom) (m : Mark) (rest : List Token) :
    literals magic (atoms.map .atom ++ .mark m :: rest) = literals magic (atoms.map .atom) ++ literals false rest := by
  induction atoms generalizing magic with
  | nil => simp [literals, literal?]
  | cons a atoms ih =>
    have same_here : literal? magic (.atom a) (atoms.map .atom ++ .mark m :: rest) =
        literal? magic (.atom a) (atoms.map .atom) := by
      cases a with
      | quoted body => rw [literal?_quoted, literal?_quoted]
      | word word => rw [literal?, literal?, startsQuoted_append_mark]
    rw [List.map_cons, List.cons_append, literals, literals, ih, same_here, List.append_assoc]

/-- Words that are no numbers. -/
inductive Plain : List Atom → Prop
  | nil : Plain []
  | cons {word atoms} : ¬IsNumber word → Plain atoms → Plain (.word word :: atoms)

lemma Plain.append {front back : List Atom} (first : Plain front) (second : Plain back) : Plain (front ++ back) := by
  induction first with
  | nil => exact second
  | cons no_number _ ih => exact .cons no_number ih

lemma Plain.startsQuoted {atoms : List Atom} (plain : Plain atoms) : startsQuoted (atoms.map .atom) = false := by
  cases plain <;> rfl

/-- Words that are no numbers are no literals as long as no quoted text follows. -/
lemma Plain.literals {atoms : List Atom} (plain : Plain atoms) (magic : Bool) :
    literals magic (atoms.map .atom) = [] := by
  induction plain generalizing magic with
  | nil => rfl
  | cons no_number plain ih =>
    rw [List.map_cons, Description.literals, literal?_word no_number (.inr plain.startsQuoted), ih]
    rfl

lemma Identifier.not_isNumber {word : String} (identifier : Identifier word) : ¬IsNumber word := by
  rintro (hex | decimal)
  · rw [isHexNumber, identifier.no_number.1] at hex
    cases hex
  · exact identifier.no_number.2 decimal

lemma SpellsColor.plain {color : Color} {atoms : List Atom} (painted : SpellsColor color atoms) : Plain atoms := by
  cases painted with
  | default => exact .nil
  | named color => exact .cons (by cases color <;> decide) .nil

lemma SpellsBind.plain {bind : Option String} {atoms : List Atom} (bound : SpellsBind bind atoms) : Plain atoms := by
  cases bound with
  | none => exact .nil
  | some identifier => exact .cons (by decide) (.cons identifier.not_isNumber .nil)

lemma literals_quoted (body : List Char) (after : List Token) :
    literals false (.atom (.quoted body) :: after) = .text body :: literals false after := by
  rw [literals, literal?_quoted]
  rfl

/-- A word for a scalar type in front of its name. -/
lemma literals_scalarType {word : String} (type : word ∈ scalarWords) (body : List Char) (after : List Token) :
    literals false (.atom (.word word) :: .atom (.quoted body) :: after) =
      .scalarType word :: .text body :: literals false after := by
  have no_magic : word ≠ "magic" := by
    revert word
    decide
  rw [literals, literal?_scalarType type rfl]
  simp [no_magic, literals_quoted]

/-- A word that may be a number, with words behind it. -/
lemma literals_count (word : String) {after : List Atom} (plain : Plain after) :
    literals false (.atom (.word word) :: after.map .atom) = countLiterals word := by
  rw [literals, plain.literals, countLiterals]
  split
  · next number => simp [literal?, number]
  · next no_number => simp [literal?_word no_number (.inr plain.startsQuoted)]

/-- A word that is no literal. -/
lemma literals_word {word : String} {after : List Token} (no_number : ¬IsNumber word)
    (alone : word ∉ scalarWords ∨ startsQuoted after = false) (magic : Bool) :
    literals magic (.atom (.word word) :: after) = literals (word = "magic") after := by
  rw [literals, literal?_word no_number alone]
  simp

/-- A word that is no literal, and behind which no magic bytes stand. -/
def Keyword (word : String) : Prop := ¬IsNumber word ∧ word ∉ scalarWords ∧ word ≠ "magic"

instance (word : String) : Decidable (Keyword word) := inferInstanceAs (Decidable (_ ∧ _))

lemma literals_keyword {word : String} (keyword : Keyword word) (magic : Bool) (after : List Token) :
    literals magic (.atom (.word word) :: after) = literals false after := by
  obtain ⟨no_number, no_type, no_magic⟩ := keyword
  rw [literals_word no_number (.inl no_type), decide_eq_false no_magic]

lemma literals_name {name : Option (List Char)} {named : List Atom} (spelled : SpellsName Eq name named)
    (after : List Token) :
    literals false (named.map .atom ++ after) = name.toList.map .text ++ literals false after := by
  cases spelled with
  | none => rfl
  | some same =>
    cases same
    exact literals_quoted ..

/-- A keyword and a name, in front of what an embedded format repeats. -/
lemma literals_embed {word : String} (keyword : Keyword word) {name : Option (List Char)} {named : List Atom}
    (spelled : SpellsName Eq name named) (more : List Atom) :
    literals false ((.word word :: named ++ more).map .atom) =
      name.toList.map .text ++ literals false (more.map .atom) := by
  rw [List.cons_append, List.map_cons, literals_keyword keyword, List.map_append, literals_name spelled]

/-- The words and quoted texts of an item. -/
lemma literals_item {i : WrittenItem} {atoms : List Atom} (spelled : SpellsItem writtenLexicon i atoms) :
    literals false (atoms.map .atom) = i.literals := by
  cases spelled with
  | scalar type_word same painted bound =>
    obtain ⟨rfl, type⟩ := type_word
    cases same
    have plain := painted.plain.append bound.plain
    rw [List.cons_append, List.cons_append, List.map_cons, List.map_cons, literals_scalarType type, plain.literals]
    rfl
  | bytes same counted painted =>
    cases same
    obtain ⟨rfl, -⟩ := counted
    rw [List.map_cons, List.map_cons, List.map_cons, literals_keyword (by decide), literals_quoted,
      literals_count _ painted.plain]
    rfl
  | child spelled identifier =>
    have plain := Plain.cons identifier.not_isNumber .nil
    rw [literals_embed (by decide) spelled, plain.literals, List.append_nil]
    rfl
  | array spelled counted identifier =>
    obtain ⟨rfl, -⟩ := counted
    have plain := Plain.cons identifier.not_isNumber .nil
    rw [literals_embed (by decide) spelled, List.map_cons, literals_count _ plain]
    rfl
  | sequence spelled identifier =>
    have plain := Plain.cons identifier.not_isNumber .nil
    rw [literals_embed (by decide) spelled, plain.literals, List.append_nil]
    rfl

/-- The word for magic bytes, in front of them. -/
lemma literals_magic (magic : Bool) (after : List Token) :
    literals magic (.atom (.word "magic") :: after) = literals true after := by
  rw [literals_word (by decide) (.inl (by decide))]
  rfl

/-- The words and quoted texts of clauses. No clause begins with what could be magic bytes. -/
lemma literals_clauses {atoms : List Atom} {clauses : List Clause} (found : Statement.clauses? atoms = some clauses)
    (magic : Bool) : literals magic (atoms.map .atom) = clauses.map Clause.literal := by
  fun_induction Statement.clauses? atoms generalizing clauses magic with
  | case1 =>
    cases found
    rfl
  | case2 body rest ih =>
    obtain ⟨more, later, rfl⟩ := Option.map_eq_some_iff.1 found
    rw [List.map_cons, List.map_cons, literals_keyword (by decide), literals_quoted, ih later]
    rfl
  | case3 body rest ih =>
    obtain ⟨more, later, rfl⟩ := Option.map_eq_some_iff.1 found
    rw [List.map_cons, List.map_cons, literals_magic, literals, literal?_quoted, ih later]
    rfl
  | case4 hex rest hex_number ih =>
    obtain ⟨more, later, rfl⟩ := Option.map_eq_some_iff.1 found
    rw [List.map_cons, List.map_cons, literals_magic, literals, literal?, if_pos ⟨rfl, hex_number⟩, ih later]
    rfl
  | case5 => cases found
  | case6 => cases found

lemma startsQuoted_clauses {atoms : List Atom} {clauses : List Clause}
    (found : Statement.clauses? atoms = some clauses) : startsQuoted (atoms.map .atom) = false := by
  cases atoms with
  | nil => rfl
  | cons a atoms =>
    cases a with
    | word => rfl
    | quoted => cases found

/-- The tokens of a line hold its literals. -/
lemma literals_line {s : Statement} {line : WrittenLine}
    (is_line : IsLine Statement.SpellsHeadingAsWritten (SpellsItem writtenLexicon) Eq s line) (rest : List Token) :
    literals false (s.tokens ++ rest) = line.literals ++ literals false rest := by
  have split : s.tokens ++ rest = s.atoms.map .atom ++ .mark s.mark :: rest := by simp [Statement.tokens]
  rw [split, literals_append_mark]
  congr 1
  cases is_line with
  | heading spelled =>
    obtain ⟨identifier, found⟩ := spelled
    rw [List.map_cons, List.map_cons, literals_keyword (by decide),
      literals_word identifier.not_isNumber (.inr (startsQuoted_clauses found))]
    exact literals_clauses found _
  | item spelled => exact literals_item spelled
  | group same =>
    cases same
    rw [List.map_cons, literals_keyword (by decide)]
    exact literals_quoted ..
  | close => rfl

lemma literals_lines {statements : List Statement} {lines : List WrittenLine}
    (told : List.Forall₂ (IsLine Statement.SpellsHeadingAsWritten (SpellsItem writtenLexicon) Eq) statements lines) :
    literals false (statements.flatMap Statement.tokens) = lines.flatMap Line.literals := by
  induction told with
  | nil => rfl
  | cons is_line _ ih => rw [List.flatMap_cons, literals_line is_line, ih, List.flatMap_cons]

/-- The literals of what is written, in the order of the text. -/
theorem literals_flatten {written : List WrittenDefinition} {pieces : List (List Token)}
    (spelled : List.Forall₂ SpellsAsWritten written pieces) :
    literals false pieces.flatten = (written.flatMap Section.lines).flatMap Line.literals := by
  obtain ⟨statements, told, same⟩ := spellsSections_iff.1 ⟨pieces, spelled, rfl⟩
  rw [same, literals_lines told]

/-- A text that follows the grammar is refused for the first error of its literals. -/
lemma cause?_parse {text : String} {tokens : List Token} (formed : FollowsGrammar text tokens) :
    cause? (parse text) = (firstCause? (literals false tokens)).map .literal := by
  obtain ⟨spelled, written, pieces, told, rfl⟩ := formed
  rw [parse, written?_eq_some_iff.2 ⟨pieces, told, spelled⟩, literals_flatten told, ← cause?_readDefinitions]
  dsimp only
  cases written.mapM readDefinition <;> rfl

/-- A text follows the grammar exactly if that is not what it is refused for. -/
theorem exists_followsGrammar_iff {text : String} :
    (∃ tokens, FollowsGrammar text tokens) ↔ parse text ≠ .error .malformed := by
  constructor
  · rintro ⟨tokens, formed⟩ malformed
    have refused := cause?_eq_some_iff.2 malformed
    rw [cause?_parse formed] at refused
    obtain ⟨error, -, same⟩ := Option.map_eq_some_iff.1 refused
    cases same
  · intro formed
    cases found : written? text.toList with
    | none =>
      rw [parse, found] at formed
      exact absurd rfl formed
    | some written =>
      obtain ⟨pieces, told, spelled⟩ := written?_eq_some_iff.1 found
      exact ⟨_, spelled, written, pieces, told, rfl⟩

/-- A text that follows the grammar is refused exactly if it holds a bad literal, and then for the bad literal that
stands furthest to the left, whose message it is. Where that is does not matter, and neither does whether a clause
behind it overrides what it says. -/
theorem parse_refuses_leftmost {text : String} {tokens : List Token} (formed : FollowsGrammar text tokens) :
    ((∃ cause, parse text = .error cause) ↔ ∃ before cause, BadAt tokens before cause) ∧
      ∀ cause, parse text = .error cause ↔
        ∃ before error, LeftmostBad tokens before error ∧ cause = .literal error ∧ cause.message = error.message := by
  have refused (cause : ParseError) : parse text = .error cause ↔
      ∃ before error, LeftmostBad tokens before error ∧ cause = .literal error := by
    rw [← cause?_eq_some_iff, cause?_parse formed, Option.map_eq_some_iff]
    constructor
    · rintro ⟨error, first, rfl⟩
      obtain ⟨before, leftmost⟩ := firstCause?_literals_eq_some_iff.1 first
      exact ⟨before, error, leftmost, rfl⟩
    · rintro ⟨before, error, leftmost, rfl⟩
      exact ⟨error, firstCause?_literals_eq_some_iff.2 ⟨before, leftmost⟩, rfl⟩
  constructor
  · constructor
    · rintro ⟨cause, failed⟩
      obtain ⟨before, error, leftmost, -⟩ := (refused cause).1 failed
      exact ⟨before, error, leftmost.bad⟩
    · rintro ⟨before, error, bad⟩
      obtain ⟨first, error', leftmost⟩ := bad.exists_leftmost
      exact ⟨_, (refused _).2 ⟨first, error', leftmost, rfl⟩⟩
  · intro cause
    rw [refused]
    constructor
    · rintro ⟨before, error, leftmost, rfl⟩
      exact ⟨before, error, leftmost, rfl, rfl⟩
    · rintro ⟨before, error, leftmost, same, -⟩
      exact ⟨before, error, leftmost, same⟩

/-- Magic bytes with an odd number of digits are refused, though a clause behind them overrides them and a field in a
group has no scalar type either. -/
theorem parse_refuses_leftmost_overridden :
    ∃ tokens before,
      FollowsGrammar "format a magic 0x123 magic \"M\" \x7b group \"G\" \x7b u8le \"x\"; \x7d \x7d" tokens ∧
      LeftmostBad tokens before .oddHex ∧
      parse "format a magic 0x123 magic \"M\" \x7b group \"G\" \x7b u8le \"x\"; \x7d \x7d" =
        .error (.literal .oddHex) := by
  have refused : parse "format a magic 0x123 magic \"M\" \x7b group \"G\" \x7b u8le \"x\"; \x7d \x7d" =
      .error (.literal .oddHex) := by
    cbv
  obtain ⟨tokens, formed⟩ := exists_followsGrammar_iff.2 (by rw [refused]; decide)
  obtain ⟨before, error, leftmost, same, -⟩ := ((parse_refuses_leftmost formed).2 _).1 refused
  cases same
  exact ⟨tokens, before, formed, leftmost, refused⟩

end ByteAtlas.Description
