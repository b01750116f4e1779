import ByteAtlas.Description.Statement

/-!
# Parsing a description

The text is cut into tokens, these into statements, and the statements are nested. Only when the whole text
follows the grammar are its literals read, from left to right; the first that means nothing is the error.
-/

namespace ByteAtlas.Description

/-- The definitions of a text as they are written, if it follows the grammar. -/
def written? (text : List Char) : Option (List WrittenDefinition) := do
  let tokens ← Token.lex? text
  let statements ← Statement.ofTokens? tokens
  let lines ← statements.mapM Statement.line?
  sectionsOfLines? lines

/-- The definitions of a text. -/
def parse (text : String) : Except ParseError (List Definition) :=
  match written? text.toList with
  | none => .error .malformed
  | some definitions => (definitions.mapM readDefinition).mapError .literal

end ByteAtlas.Description
