/-!
# Tokens of a description

The text of a description is a sequence of words, quoted texts and marks. Blanks and comments may stand
between them, and have to where two words would run together: a word is always as long as it can be.
-/

namespace ByteAtlas.Description

/-- The parts of a statement: words, and the bodies of quoted texts as they are written. -/
inductive Atom
  | word (text : String)
  | quoted (body : List Char)
deriving DecidableEq, Repr

/-- What ends a statement. -/
inductive Mark
  | semicolon | opening | closing
deriving DecidableEq, Repr

/-- A token of a description. -/
inductive Token
  | atom (a : Atom)
  | mark (m : Mark)
deriving DecidableEq, Repr

namespace Token

/-- The blanks. -/
def isBlank (c : Char) : Bool := c = ' ' || c = '\t' || c = '\r' || c = '\n'

/-- The characters of words. -/
def isWordChar (c : Char) : Bool := c.isAlphanum || c = '_'

/-- The mark that a character is. -/
def mark? (c : Char) : Option Mark :=
  if c = ';' then some .semicolon
  else if c = '\x7b' then some .opening
  else if c = '\x7d' then some .closing
  else none

/-- What follows the end of a comment between slashes and stars. -/
def afterStars? : List Char → Option (List Char)
  | [] => none
  | '*' :: '/' :: rest => some rest
  | _ :: rest => afterStars? rest

/-- What follows a comment, after the slash that begins it. A comment to the end of the line leaves the
line end. -/
def afterComment? : List Char → Option (List Char)
  | '/' :: rest => some (rest.dropWhile (· ≠ '\n'))
  | '*' :: rest => afterStars? rest
  | _ => none

/-- The body of a quoted text and what follows it, after the quote that begins it. A backslash keeps the
character after it from ending the text. -/
def quotedBody? : List Char → Option (List Char × List Char)
  | [] => none
  | '"' :: rest => some ([], rest)
  | '\\' :: c :: rest => (quotedBody? rest).map fun (body, more) => ('\\' :: c :: body, more)
  | c :: rest => (quotedBody? rest).map fun (body, more) => (c :: body, more)

theorem length_afterStars? {text rest : List Char} (found : afterStars? text = some rest) :
    rest.length < text.length := by
  fun_induction afterStars? text with
  | case1 => contradiction
  | case2 r =>
    cases found
    simp only [List.length_cons]
    omega
  | case3 c r _ ih =>
    have := ih found
    simp only [List.length_cons]
    omega

theorem length_afterComment? {text rest : List Char} (found : afterComment? text = some rest) :
    rest.length < text.length := by
  revert found
  fun_cases afterComment? <;> intro found
  · cases found
    exact Nat.lt_succ_of_le (List.dropWhile_sublist _).length_le
  · exact Nat.lt_succ_of_lt (length_afterStars? found)
  · contradiction

theorem length_quotedBody? {text body rest : List Char}
    (found : quotedBody? text = some (body, rest)) : rest.length < text.length := by
  fun_induction quotedBody? text generalizing body with
  | case1 => contradiction
  | case2 r => cases found; simp
  | case3 c r ih =>
    obtain ⟨⟨b, m⟩, h, same⟩ := Option.map_eq_some_iff.1 found
    cases same
    have := ih h
    simp only [List.length_cons]
    omega
  | case4 c r _ _ ih =>
    obtain ⟨⟨b, m⟩, h, same⟩ := Option.map_eq_some_iff.1 found
    cases same
    have := ih h
    simp only [List.length_cons]
    omega

/-- The tokens of a text; none if it holds a character that belongs nowhere, or a quoted text or a comment
that does not end. -/
def lex? (text : List Char) : Option (List Token) :=
  match text with
  | [] => some []
  | c :: rest =>
    if isBlank c then lex? rest
    else if isWordChar c then
      (lex? (rest.dropWhile isWordChar)).map
        (.atom (.word (String.ofList (c :: rest.takeWhile isWordChar))) :: ·)
    else if c = '"' then
      match _ : quotedBody? rest with
      | some (body, more) => (lex? more).map (.atom (.quoted body) :: ·)
      | none => none
    else if c = '/' then
      match _ : afterComment? rest with
      | some more => lex? more
      | none => none
    else
      match mark? c with
      | some m => (lex? rest).map (.mark m :: ·)
      | none => none
termination_by text.length
decreasing_by
  · simp
  · exact Nat.lt_succ_of_le (List.dropWhile_sublist _).length_le
  · exact Nat.lt_succ_of_lt (length_quotedBody? (by assumption))
  · exact Nat.lt_succ_of_lt (length_afterComment? (by assumption))
  · simp

end Token
end ByteAtlas.Description
