import ByteAtlas.Description.Parse
import Mathlib

/-!
# How descriptions are spelled

The language of descriptions, told from the definitions to the text: which tokens spell a list of definitions
(`SpellsDefinition`), and which texts spell tokens (`SpellsTokens`). There is more than one spelling: blanks and
comments may stand anywhere between tokens, white may be left out, a number may be written in two bases and a byte
of a quoted text in several ways, and a clause may be overridden by a later one.

The rules for items and groups are the same for what has been read and for what is written, so they are told once,
for any spelling of types, texts and counts (`Lexicon`).
-/

namespace ByteAtlas.Description

/-- Letters, digits and underscores, at least one. -/
def IsWord (chars : List Char) : Prop := chars ≠ [] ∧ ∀ c ∈ chars, c.isAlphanum ∨ c = '_'

/-- A word that begins with a letter or an underscore. -/
def Identifier (word : String) : Prop :=
  ∃ first rest, word.toList = first :: rest ∧ (first.isAlpha ∨ first = '_') ∧
    ∀ c ∈ rest, c.isAlphanum ∨ c = '_'

/-- Blanks and comments in front of a rest of the text. A comment between slashes and stars ends at the first
star with a slash behind it, one behind two slashes at the end of its line. -/
inductive Skips : List Char → List Char → Prop
  | done {text} : Skips text text
  | blank {c text rest} : c ∈ [' ', '\t', '\r', '\n'] → Skips text rest → Skips (c :: text) rest
  | line {body text rest} : '\n' ∉ body → (∀ c ∈ text.head?, c = '\n') → Skips text rest →
    Skips ('/' :: '/' :: body ++ text) rest
  | block {body text rest} : ¬['*', '/'] <:+: body → Skips text rest →
    Skips ('/' :: '*' :: body ++ '*' :: '/' :: text) rest

/-- What may stand between quotes: every quote and every backslash has a backslash in front. -/
inductive IsBody : List Char → Prop
  | nil : IsBody []
  | plain {c body} : c ≠ '"' → c ≠ '\\' → IsBody body → IsBody (c :: body)
  | escape {c body} : IsBody body → IsBody ('\\' :: c :: body)

inductive SpellsMark : Mark → Char → Prop
  | semicolon : SpellsMark .semicolon ';'
  | opening : SpellsMark .opening '\x7b'
  | closing : SpellsMark .closing '\x7d'

/-- Which texts spell tokens. Only behind a word something has to stand in between, if a letter, a digit or an
underscore would follow. -/
inductive SpellsTokens : List Token → List Char → Prop
  | nil {text} : Skips text [] → SpellsTokens [] text
  | word {text chars rest tokens} : Skips text (chars ++ rest) → IsWord chars →
    (∀ c ∈ rest.head?, ¬(c.isAlphanum ∨ c = '_')) → SpellsTokens tokens rest →
    SpellsTokens (.atom (.word (String.ofList chars)) :: tokens) text
  | quoted {text body rest tokens} : Skips text ('"' :: body ++ '"' :: rest) → IsBody body →
    SpellsTokens tokens rest → SpellsTokens (.atom (.quoted body) :: tokens) text
  | mark {text m c rest tokens} : Skips text (c :: rest) → SpellsMark m c → SpellsTokens tokens rest →
    SpellsTokens (.mark m :: tokens) text

/-! Literals. -/

/-- Which character is the digit of a number, above nine in either case. -/
def IsDigit (base d : Nat) (c : Char) : Prop := d < base ∧ (c = Nat.digitChar d ∨ c = (Nat.digitChar d).toUpper)

/-- Which characters spell a number in a base, the most significant first. -/
def SpellsNumber (base n : Nat) (chars : List Char) : Prop :=
  chars ≠ [] ∧ ∃ digits, List.Forall₂ (IsDigit base) digits chars ∧ n = Nat.ofDigits base digits.reverse

/-- Which words spell a count. A number lies within sixty-four bits, and a name is no colour. -/
inductive SpellsCount : CountTerm → String → Prop
  | decimal {n chars} : SpellsNumber 10 n chars → n ≤ maxOffset → SpellsCount (.number n) (String.ofList chars)
  | hexadecimal {n chars} : SpellsNumber 16 n chars → n ≤ maxOffset →
    SpellsCount (.number n) (String.ofList ('0' :: 'x' :: chars))
  | name {word} : Identifier word → (∀ color : Color, word ≠ color.name) → SpellsCount (.name word) word

/-- Which words spell a scalar type: big is the byte order that goes without saying, and single bytes have
none. -/
inductive SpellsType : ScalarType → String → Prop
  | plain {base} : SpellsType ⟨base, .big⟩ base.keyword
  | little {base} : 1 < base.width → SpellsType ⟨base, .little⟩ (base.keyword ++ "le")
  | big {base} : 1 < base.width → SpellsType ⟨base, .big⟩ (base.keyword ++ "be")

/-- Which byte the text behind a backslash spells, in front of a rest: the escapes that are meant to be there, a
character with a meaning or `x` and two digits in base sixteen. -/
inductive SpellsEscape : UInt8 → List Char → List Char → Prop
  | letter {c byte rest} :
    (c, byte) ∈ [('\\', 0x5C), ('"', 0x22), ('n', 0x0A), ('t', 0x09), ('0', (0x00 : UInt8))] →
    SpellsEscape byte (c :: rest) rest
  | digits {high low a b rest} : IsDigit 16 high a → IsDigit 16 low b →
    SpellsEscape (UInt8.ofNat (16 * high + low)) ('x' :: a :: b :: rest) rest

/-- What is read as an escape without being meant as one: behind `x`, a plus sign in the place of the first
digit. -/
inductive SpellsStrayEscape : UInt8 → List Char → List Char → Prop
  | signed {low b rest} : IsDigit 16 low b → SpellsStrayEscape (UInt8.ofNat low) ('x' :: '+' :: b :: rest) rest

/-- Which bodies of quoted texts spell bytes. -/
inductive SpellsBytes : List UInt8 → List Char → Prop
  | nil : SpellsBytes [] []
  | plain {c bytes body} : c ≠ '\\' → SpellsBytes bytes body →
    SpellsBytes (String.utf8EncodeChar c ++ bytes) (c :: body)
  | escape {byte bytes behind body} : SpellsEscape byte behind body → SpellsBytes bytes body →
    SpellsBytes (byte :: bytes) ('\\' :: behind)
  | stray {byte bytes behind body} : SpellsStrayEscape byte behind body → SpellsBytes bytes body →
    SpellsBytes (byte :: bytes) ('\\' :: behind)

/-- Which bodies of quoted texts spell a text: ill-formed pieces of their bytes are replaced. -/
def SpellsText (text : String) (body : List Char) : Prop :=
  ∃ bytes, SpellsBytes bytes body ∧ text = Text.Utf8.decodeLossy bytes

/-- Which pairs of digits in base sixteen spell bytes. -/
inductive SpellsPairs : List UInt8 → List Char → Prop
  | nil : SpellsPairs [] []
  | cons {high low a b bytes chars} : IsDigit 16 high a → IsDigit 16 low b → SpellsPairs bytes chars →
    SpellsPairs (UInt8.ofNat (16 * high + low) :: bytes) (a :: b :: chars)

/-! Items. -/

/-- How types, texts and counts are spelled. -/
structure Lexicon (τ σ κ : Type) where
  type : τ → String → Prop
  text : σ → List Char → Prop
  count : κ → String → Prop

/-- The spellings of what has been read. -/
def readLexicon : Lexicon ScalarType String CountTerm := ⟨SpellsType, SpellsText, SpellsCount⟩

/-- White may be left out. -/
inductive SpellsColor : Color → List Atom → Prop
  | default : SpellsColor .white []
  | named (color : Color) : SpellsColor color [.word color.name]

inductive SpellsBind : Option String → List Atom → Prop
  | none : SpellsBind none []
  | some {name} : Identifier name → SpellsBind (some name) [.word "as", .word name]

section

variable {η ι τ σ κ : Type}

inductive SpellsName (text : σ → List Char → Prop) : Option σ → List Atom → Prop
  | none : SpellsName text none []
  | some {name body} : text name body → SpellsName text (some name) [.quoted body]

/-- Which words and quoted texts spell an item, without the semicolon behind it. -/
inductive SpellsItem (lexicon : Lexicon τ σ κ) : Item τ σ κ → List Atom → Prop
  | scalar {type word name body color paint bind binding} :
    lexicon.type type word → lexicon.text name body → SpellsColor color paint → SpellsBind bind binding →
    SpellsItem lexicon (.scalar type name color bind) (.word word :: .quoted body :: paint ++ binding)
  | bytes {name body count word color paint} :
    lexicon.text name body → lexicon.count count word → SpellsColor color paint →
    SpellsItem lexicon (.bytes name count color) (.word "bytes" :: .quoted body :: .word word :: paint)
  | child {name named target} :
    SpellsName lexicon.text name named → Identifier target →
    SpellsItem lexicon (.embed name .once target) (.word "child" :: named ++ [.word target])
  | array {name named count word target} :
    SpellsName lexicon.text name named → lexicon.count count word → Identifier target →
    SpellsItem lexicon (.embed name (.count count) target) (.word "array" :: named ++ [.word word, .word target])
  | sequence {name named target} :
    SpellsName lexicon.text name named → Identifier target →
    SpellsItem lexicon (.embed name .unbounded target) (.word "sequence" :: named ++ [.word target])

/-- Which tokens spell items and groups of items. -/
inductive SpellsItems (item : ι → List Atom → Prop) (text : σ → List Char → Prop) :
    Outline ι σ → List Token → Prop
  | nil : SpellsItems item text .nil []
  | item {here atoms rest tokens} : item here atoms → SpellsItems item text rest tokens →
    SpellsItems item text (.item here rest) (atoms.map .atom ++ .mark .semicolon :: tokens)
  | group {name body inner within rest tokens} : text name body → SpellsItems item text inner within →
    SpellsItems item text rest tokens →
    SpellsItems item text (.group name inner rest)
      (.atom (.word "group") :: .atom (.quoted body) :: .mark .opening :: within ++ .mark .closing :: tokens)

/-- Which tokens spell a heading with items in braces behind it. -/
inductive SpellsSection (heading : η → List Atom → Prop) (item : ι → List Atom → Prop)
    (text : σ → List Char → Prop) : Section η ι σ → List Token → Prop
  | mk {h atoms body tokens} : heading h atoms → SpellsItems item text body tokens →
    SpellsSection heading item text ⟨h, body⟩
      (atoms.map .atom ++ .mark .opening :: tokens ++ [.mark .closing])

end

/-! Definitions. -/

/-- Which clauses spell a signature: of each kind the last one counts. -/
inductive SpellsSignature : Signature → List Atom → Prop
  | none : SpellsSignature .none []
  | extension {signature atoms text body} : SpellsSignature signature atoms → SpellsText text body →
    SpellsSignature { signature with extension := some text } (atoms ++ [.word "extension", .quoted body])
  | magicText {signature atoms bytes body} : SpellsSignature signature atoms → SpellsBytes bytes body →
    bytes ≠ [] → SpellsSignature { signature with magic := some bytes } (atoms ++ [.word "magic", .quoted body])
  | magicHex {signature atoms bytes chars} : SpellsSignature signature atoms → SpellsPairs bytes chars →
    bytes ≠ [] →
    SpellsSignature { signature with magic := some bytes }
      (atoms ++ [.word "magic", .word (String.ofList ('0' :: 'x' :: chars))])

/-- Which words and quoted texts spell the name and the signature of a definition. -/
inductive SpellsHeading : String × Signature → List Atom → Prop
  | mk {name signature atoms} : Identifier name → SpellsSignature signature atoms →
    SpellsHeading (name, signature) (.word "format" :: .word name :: atoms)

/-- Which tokens spell a definition. -/
def SpellsDefinition (d : Definition) (tokens : List Token) : Prop :=
  SpellsSection SpellsHeading (SpellsItem readLexicon) SpellsText ⟨(d.name, d.signature), d.items⟩ tokens

/-- Which texts spell definitions, one after the other. -/
def Spells (definitions : List Definition) (text : String) : Prop :=
  ∃ pieces, List.Forall₂ SpellsDefinition definitions pieces ∧ SpellsTokens pieces.flatten text.toList

end ByteAtlas.Description
