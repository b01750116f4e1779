import ByteAtlas.Proofs.Description.Literals

/-!
# Bad literals

What is written for a value is a literal, and not all that follows the grammar means something (`Literal.Bad`).
Definitions are refused exactly if one of their literals is bad, for the first that is: a definition is read line by
line, and a line from left to right (`cause?_readDefinitions`). A clause is read even if a later one overrides it.
-/

namespace ByteAtlas.Description

/-- What is written for a value. A number behind the word for magic bytes is none of the counts. -/
inductive Literal
  | scalarType (word : String)
  | text (body : List Char)
  | magicText (body : List Char)
  | magicHex (word : String)
  | count (word : String)

/-- Whether a word is a number, in base ten or sixteen. -/
def IsNumber (word : String) : Prop := isHexNumber word ∨ isDecimal word

instance (word : String) : Decidable (IsNumber word) := inferInstanceAs (Decidable (_ ∨ _))

/-- Which literals mean nothing, and what is said about them: a single byte with a byte order, a quoted text that
cannot be read, digits that do not pair up, magic bytes that are none, and a number beyond sixty-four bits. -/
inductive Literal.Bad : Literal → LiteralError → Prop
  | scalarType {word suffix} {base : BaseType} : base.width = 1 → suffix ∈ ["le", "be"] →
    word = base.keyword ++ suffix → Bad (.scalarType word) (.scalarType word)
  | text {body cause} : unescape body = .error cause → Bad (.text body) cause
  | magicText {body cause} : unescape body = .error cause → Bad (.magicText body) cause
  | noMagic {body} : unescape body = .ok [] → Bad (.magicText body) .emptyMagic
  | oddHex {word digits} : word.toList = '0' :: 'x' :: digits → Odd digits.length → Bad (.magicHex word) .oddHex
  | decimal {word n} : SpellsNumber 10 n word.toList → maxOffset < n → Bad (.count word) (.countRange word)
  | hexadecimal {word digits n} : word.toList = '0' :: 'x' :: digits → SpellsNumber 16 n digits → maxOffset < n →
    Bad (.count word) (.countRange word)

/-- Which literals follow the grammar, as far as their words are concerned. -/
def Literal.Formed : Literal → Prop
  | scalarType word => word ∈ scalarWords
  | magicHex word => isHexNumber word
  | count word => IsNumber word
  | _ => True

/-! Errors of what is put together. -/

/-- The error, if there is one. -/
def cause? {ε α : Type} : Except ε α → Option ε
  | .ok _ => none
  | .error cause => some cause

section

variable {ε α β : Type} {x : Except ε α}

lemma cause?_eq_some_iff {cause : ε} : cause? x = some cause ↔ x = .error cause := by
  cases x <;> simp [cause?]

@[simp] lemma cause?_map (f : α → β) : cause? (x.map f) = cause? x := by
  cases x <;> rfl

@[simp] lemma cause?_bind_ok (f : α → β) : cause? (x >>= fun a => .ok (f a)) = cause? x := by
  cases x <;> rfl

/-- Of two steps the first error counts. -/
lemma cause?_bind {f : α → Except ε β} (later : Option ε) (rest : ∀ a, cause? (f a) = later) :
    cause? (x >>= f) = (cause? x).or later := by
  cases x with
  | error cause => rfl
  | ok a => exact rest a

end

/-! Each literal by itself. -/

/-- The error of reading a literal. -/
def Literal.cause? : Literal → Option LiteralError
  | scalarType word => Description.cause? (readScalarType word)
  | text body => Description.cause? (unescape body)
  | magicText body => Description.cause? (unescape body >>= checkedMagic)
  | magicHex word => Description.cause? (hexPairs ((hexDigits? word).getD []) >>= checkedMagic)
  | count word => Description.cause? (readCount word)

lemma readScalarType_eq_error_iff {word : String} {cause : LiteralError} (formed : word ∈ scalarWords) :
    readScalarType word = .error cause ↔ (Literal.scalarType word).Bad cause := by
  have meaningless : ∀ word ∈ scalarWords, ScalarType.ofWord? word = none ↔
      ∃ base ∈ BaseType.all, base.width = 1 ∧ ∃ suffix ∈ ["le", "be"], word = base.keyword ++ suffix := by
    decide
  have refused : readScalarType word = .error cause ↔
      ScalarType.ofWord? word = none ∧ cause = .scalarType word := by
    rw [readScalarType]
    cases ScalarType.ofWord? word <;> simp [eq_comm]
  rw [refused, meaningless word formed]
  constructor
  · rintro ⟨⟨base, -, single, suffix, among, same⟩, rfl⟩
    exact .scalarType single among same
  · intro bad
    cases bad with
    | scalarType single among same => exact ⟨⟨_, mem_all _, single, _, among, same⟩, rfl⟩

lemma magicText_eq_error_iff {body : List Char} {cause : LiteralError} :
    (unescape body >>= checkedMagic) = .error cause ↔ (Literal.magicText body).Bad cause := by
  constructor
  · intro refused
    cases read : unescape body with
    | error other =>
      rw [read] at refused
      cases refused
      exact .magicText read
    | ok bytes =>
      rw [read] at refused
      cases bytes with
      | nil =>
        cases refused
        exact .noMagic read
      | cons byte bytes => cases refused
  · intro bad
    cases bad with
    | magicText refused =>
      rw [refused]
      rfl
    | noMagic read =>
      rw [read]
      rfl

/-- Digits pair up if their number is even. No byte comes of no digits only. -/
lemma hexPairs_cases (digits : List Char) :
    (Odd digits.length ∧ hexPairs digits = .error .oddHex) ∨
      (¬Odd digits.length ∧ ∃ bytes, hexPairs digits = .ok bytes ∧ (bytes = [] → digits = [])) := by
  fun_induction hexPairs digits with
  | case1 => exact .inr ⟨by simp, [], rfl, fun _ => rfl⟩
  | case2 => exact .inl ⟨by simp, rfl⟩
  | case3 a b rest ih =>
    have length : Odd (a :: b :: rest).length ↔ Odd rest.length := by
      simp [Nat.odd_add_one]
    rw [length]
    obtain ⟨odd, refused⟩ | ⟨even, bytes, read, -⟩ := ih
    · rw [refused]
      exact .inl ⟨odd, rfl⟩
    · rw [read]
      exact .inr ⟨even, _, rfl, fun none => absurd none (List.cons_ne_nil _ _)⟩

lemma magicHex_eq_error_iff {word : String} {cause : LiteralError} (formed : isHexNumber word = true) :
    (hexPairs ((hexDigits? word).getD []) >>= checkedMagic) = .error cause ↔ (Literal.magicHex word).Bad cause := by
  obtain ⟨digits, found⟩ := Option.isSome_iff_exists.1 formed
  obtain ⟨rfl, n, some_digit, -⟩ := hexDigits?_eq_some_iff.1 found
  have bad_iff : (Literal.magicHex (String.ofList ('0' :: 'x' :: digits))).Bad cause ↔
      Odd digits.length ∧ cause = .oddHex := by
    constructor
    · intro bad
      cases bad with
      | oddHex split odd =>
        rw [String.toList_ofList] at split
        cases split
        exact ⟨odd, rfl⟩
    · rintro ⟨odd, rfl⟩
      exact .oddHex (String.toList_ofList ..) odd
  rw [bad_iff, found, Option.getD_some]
  obtain ⟨odd, refused⟩ | ⟨even, bytes, read, empty⟩ := hexPairs_cases digits
  · rw [refused]
    simp [odd, bind, Except.bind, eq_comm]
  · have some_byte : bytes ≠ [] := fun none => some_digit (empty none)
    rw [read]
    simp [even, some_byte, bind, Except.bind, checkedMagic]

lemma checkedNumber_eq_error_iff {word : String} {n : Nat} {cause : LiteralError} :
    checkedNumber word (some n) = .error cause ↔ maxOffset < n ∧ cause = .countRange word := by
  rw [checkedNumber]
  split
  · next small => simp [small]
  · next large => simp [Nat.not_le.1 large, eq_comm]

/-- Digits spell one number only. -/
lemma SpellsNumber.unique {base m n : Nat} {value? : Char → Option Nat} {chars : List Char}
    (digit : ∀ {c d}, value? c = some d ↔ IsDigit base d c) (spelled : SpellsNumber base m chars)
    (spelled' : SpellsNumber base n chars) : m = n := by
  rw [← readDigits?_eq_some_iff digit] at spelled spelled'
  exact Option.some.inj (spelled.symm.trans spelled')

/-- Whether a number in base sixteen is bad. It is none in base ten. -/
lemma bad_hexadecimal_iff {digits : List Char} {n : Nat} {cause : LiteralError} (spelled : SpellsNumber 16 n digits) :
    (Literal.count (String.ofList ('0' :: 'x' :: digits))).Bad cause ↔
      maxOffset < n ∧ cause = .countRange (String.ofList ('0' :: 'x' :: digits)) := by
  constructor
  · intro bad
    cases bad with
    | decimal spelled' large =>
      have no_hex := spelled'.no_hex
      rw [String.ofList_toList, hexDigits?_eq_some_iff.2 ⟨rfl, n, spelled⟩] at no_hex
      cases no_hex
    | hexadecimal split spelled' large =>
      rw [String.toList_ofList] at split
      cases split
      obtain rfl := spelled.unique hexValue?_eq_some_iff spelled'
      exact ⟨large, rfl⟩
  · rintro ⟨large, rfl⟩
    exact .hexadecimal (String.toList_ofList ..) spelled large

/-- Whether a number in base ten is bad. It is none in base sixteen. -/
lemma bad_decimal_iff {word : String} {n : Nat} {cause : LiteralError} (spelled : SpellsNumber 10 n word.toList) :
    (Literal.count word).Bad cause ↔ maxOffset < n ∧ cause = .countRange word := by
  constructor
  · intro bad
    cases bad with
    | decimal spelled' large =>
      obtain rfl := spelled.unique decimalValue?_eq_some_iff spelled'
      exact ⟨large, rfl⟩
    | hexadecimal split spelled' large =>
      have no_hex := spelled.no_hex
      rw [split, hexDigits?_eq_some_iff.2 ⟨rfl, _, spelled'⟩] at no_hex
      cases no_hex
  · rintro ⟨large, rfl⟩
    exact .decimal spelled large

lemma readCount_eq_error_iff {word : String} {cause : LiteralError} (formed : IsNumber word) :
    readCount word = .error cause ↔ (Literal.count word).Bad cause := by
  rw [readCount]
  cases found : hexDigits? word with
  | some digits =>
    obtain ⟨rfl, n, spelled⟩ := hexDigits?_eq_some_iff.1 found
    dsimp only
    rw [(readDigits?_eq_some_iff hexValue?_eq_some_iff).2 spelled, checkedNumber_eq_error_iff,
      bad_hexadecimal_iff spelled]
  | none =>
    have decimal : isDecimal word = true := formed.resolve_left (by simp [isHexNumber, found])
    obtain ⟨n, spelled⟩ := isDecimal_iff.1 decimal
    dsimp only
    rw [if_pos decimal, (readDigits?_eq_some_iff decimalValue?_eq_some_iff).2 spelled, checkedNumber_eq_error_iff,
      bad_decimal_iff spelled]

/-- A literal that follows the grammar is refused exactly if it is bad. -/
theorem Literal.cause?_eq_some_iff {literal : Literal} {cause : LiteralError} (formed : literal.Formed) :
    literal.cause? = some cause ↔ literal.Bad cause := by
  cases literal with
  | scalarType word => exact Description.cause?_eq_some_iff.trans (readScalarType_eq_error_iff formed)
  | text body =>
    refine Description.cause?_eq_some_iff.trans ⟨.text, fun bad => ?_⟩
    cases bad with
    | text refused => exact refused
  | magicText body => exact Description.cause?_eq_some_iff.trans magicText_eq_error_iff
  | magicHex word => exact Description.cause?_eq_some_iff.trans (magicHex_eq_error_iff formed)
  | count word => exact Description.cause?_eq_some_iff.trans (readCount_eq_error_iff formed)

/-! The literals of what is written, in the order of the text. -/

/-- A count is a literal if it is a number. -/
def countLiterals (word : String) : List Literal := if IsNumber word then [.count word] else []

def Item.literals : WrittenItem → List Literal
  | scalar word body _ _ => [.scalarType word, .text body]
  | bytes body word _ => .text body :: countLiterals word
  | embed name (.count word) _ => name.toList.map .text ++ countLiterals word
  | embed name _ _ => name.toList.map .text

def Clause.literal : Clause → Literal
  | extension body => .text body
  | magicHex word => .magicHex word
  | magicText body => .magicText body

def Line.literals : WrittenLine → List Literal
  | .heading h => h.clauses.map Clause.literal
  | .item i => i.literals
  | .group body => [.text body]
  | .close => []

/-- The first error of some literals. -/
def firstCause? (literals : List Literal) : Option LiteralError := literals.findSome? Literal.cause?

@[simp] lemma firstCause?_append (front back : List Literal) :
    firstCause? (front ++ back) = (firstCause? front).or (firstCause? back) :=
  List.findSome?_append

@[simp] lemma firstCause?_cons (literal : Literal) (more : List Literal) :
    firstCause? (literal :: more) = literal.cause?.or (firstCause? more) := by
  rw [firstCause?, List.findSome?_cons]
  cases literal.cause? <;> rfl

@[simp] lemma firstCause?_nil : firstCause? [] = none := rfl

lemma cause?_readCount (word : String) : cause? (readCount word) = firstCause? (countLiterals word) := by
  rw [countLiterals]
  split
  · simp [Literal.cause?]
  · next name =>
    obtain ⟨no_hex, no_decimal⟩ := not_or.1 name
    rw [isHexNumber, Option.not_isSome_iff_eq_none] at no_hex
    rw [readCount, no_hex]
    simp [no_decimal, cause?]

lemma cause?_unescapeText (body : List Char) : cause? (unescapeText body) = (Literal.text body).cause? :=
  cause?_map _

lemma cause?_readTimes (times : Times String) :
    cause? times.read = firstCause? (match times with | .count word => countLiterals word | _ => []) := by
  cases times with
  | once => rfl
  | count word => exact (cause?_map _).trans (cause?_readCount word)
  | unbounded => rfl

/-- An item is refused for the first bad literal in it. -/
lemma cause?_readItem (i : WrittenItem) : cause? i.read = firstCause? i.literals := by
  cases i with
  | scalar word body color bind =>
    rw [Item.read, cause?_bind _ fun type => cause?_bind_ok _, cause?_unescapeText]
    simp [Item.literals, Literal.cause?]
  | bytes body word color =>
    rw [Item.read, cause?_bind _ fun name => cause?_bind_ok _, cause?_unescapeText, cause?_readCount]
    simp [Item.literals]
  | embed name times target =>
    cases name with
    | none =>
      rw [Item.read, cause?_bind_ok, cause?_readTimes]
      cases times <;> simp [Item.literals]
    | some body =>
      rw [Item.read, cause?_bind _ fun name => cause?_bind_ok _, cause?_unescapeText, cause?_readTimes]
      cases times <;> simp [Item.literals]

/-- Items and groups of items are refused for the first bad literal in their lines. -/
lemma cause?_readOutline (body : Outline WrittenItem (List Char)) :
    cause? body.read = firstCause? (body.lines.flatMap Line.literals) := by
  induction body with
  | nil => rfl
  | item here rest ih =>
    rw [Outline.read, cause?_bind _ fun here => cause?_bind_ok _, cause?_readItem, ih]
    simp [Outline.lines, Line.literals]
  | group name inner rest ih_inner ih_rest =>
    rw [Outline.read, cause?_bind _ fun name => cause?_bind _ fun inner => cause?_bind_ok _, cause?_unescapeText,
      ih_inner, ih_rest]
    simp [Outline.lines, Line.literals]

lemma cause?_readMagic {bytes : Except LiteralError (List UInt8)} (f : List UInt8 → Signature) :
    cause? (bytes >>= fun bytes => checkedMagic bytes >>= fun magic => .ok (f magic)) =
      cause? (bytes >>= checkedMagic) := by
  cases bytes with
  | error cause => rfl
  | ok bytes => exact cause?_bind_ok f

/-- A clause is refused for its literal, whatever the clauses before it say. -/
lemma cause?_readClause (before : Signature) (clause : Clause) :
    cause? (clause.read before) = clause.literal.cause? := by
  cases clause with
  | extension body => rw [Clause.read, cause?_bind_ok, cause?_unescapeText, Clause.literal]
  | magicHex word => rw [Clause.read, cause?_readMagic, Clause.literal, Literal.cause?]
  | magicText body => rw [Clause.read, cause?_readMagic, Clause.literal, Literal.cause?]

lemma cause?_readClauses (clauses : List Clause) (before : Signature) :
    cause? (clauses.foldlM Clause.read before) = firstCause? (clauses.map Clause.literal) := by
  induction clauses generalizing before with
  | nil => rfl
  | cons clause more ih =>
    rw [List.foldlM_cons, cause?_bind _ ih, cause?_readClause, List.map_cons, firstCause?_cons]

lemma cause?_readDefinition (written : WrittenDefinition) :
    cause? (readDefinition written) = firstCause? (written.lines.flatMap Line.literals) := by
  rw [readDefinition, cause?_bind _ fun signature => cause?_bind_ok _, cause?_readClauses, cause?_readOutline]
  simp [Section.lines, Line.literals]

/-- Definitions are refused for the first bad literal in their lines. -/
theorem cause?_readDefinitions (written : List WrittenDefinition) :
    cause? (written.mapM readDefinition) = firstCause? ((written.flatMap Section.lines).flatMap Line.literals) := by
  induction written with
  | nil => rfl
  | cons first more ih =>
    rw [List.mapM_cons]
    show cause? (readDefinition first >>= fun d => more.mapM readDefinition >>= fun others => .ok (d :: others)) = _
    rw [cause?_bind _ fun d => cause?_bind_ok _, cause?_readDefinition, ih]
    simp

end ByteAtlas.Description
