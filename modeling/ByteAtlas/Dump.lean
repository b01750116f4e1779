import ByteAtlas.Source
import ByteAtlas.Span
import ByteAtlas.Text.Hex

/-!
# Dumps

The text of spans: a line with the range, the colour and the name, and below it the first bytes.
-/

namespace ByteAtlas

/-- How many bytes of a span are shown. -/
def previewBytes : Nat := 16

namespace Span

/-- A text filled up with spaces behind it. -/
def fillUp (width : Nat) (text : String) : String :=
  text ++ String.ofList (List.replicate (width - text.length) ' ')

/-- The offsets in base sixteen, at least eight digits each, then the colour and the name. -/
def line (s : Span) : String :=
  Text.hexNumber 8 s.first ++ ".." ++ Text.hexNumber 8 s.last ++ "  " ++
    fillUp 7 s.color.name ++ " " ++ s.name

/-- A short description for diagnostics. -/
def describe (s : Span) : String :=
  "[" ++ Text.hexNumber 1 s.first ++ ", " ++ Text.hexNumber 1 s.last ++ "] " ++ s.name ++
    " (" ++ s.color.name ++ ")"

/-- The first bytes of a span, if they can be read. Dots stand for those that are left out. -/
def preview (source : Source) (s : Span) : String :=
  match source.read s.first (min s.size previewBytes) with
  | .ok bytes =>
    Text.hexBytes bytes ++ if previewBytes < s.size then " ..." else ""
  | .error _ => "<unreadable>"

/-- The text of a span, with its first bytes if there is a source to read them from. -/
def dump (source : Option Source) (s : Span) : String :=
  s.line ++ "\n" ++
    match source with
    | some source => "    " ++ s.preview source ++ "\n"
    | none => ""

end Span
end ByteAtlas
