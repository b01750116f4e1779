import ByteAtlas.Count
import ByteAtlas.Scalar
import ByteAtlas.Span

/-!
# Layouts

A layout says which fields follow each other in a file. It is a forest of nodes in one inductive type:
every node carries the layout that follows it, and a group or an embedded format also the layout inside.
-/

namespace ByteAtlas

/-- A field of one scalar. A bound field sets a variable to its value. -/
structure ScalarField where
  name : String
  type : ScalarType
  color : Color
  bind : Option String
deriving DecidableEq, Repr

/-- A field of uninterpreted bytes. -/
structure BytesField where
  name : String
  count : Count
  color : Color

/-- A sequence of nodes. An embedded format keeps the name of its innermost open group, if one was left
open when it was embedded; only finished formats can be walked. -/
inductive Layout
  | nil
  | scalar (field : ScalarField) (rest : Layout)
  | bytes (field : BytesField) (rest : Layout)
  | group (name : String) (inner rest : Layout)
  | embed (name : Option String) (times : Repeat) (inner : Layout) (unclosed : Option String)
      (rest : Layout)

namespace Layout

instance : Inhabited Layout := ⟨nil⟩

/-- The nodes of one layout followed by those of another. -/
def append : Layout → Layout → Layout
  | nil, other => other
  | scalar field rest, other => scalar field (rest.append other)
  | bytes field rest, other => bytes field (rest.append other)
  | group name inner rest, other => group name inner (rest.append other)
  | embed name times inner unclosed rest, other => embed name times inner unclosed (rest.append other)

instance : Append Layout := ⟨append⟩

/-- How many nodes stand side by side. -/
def length : Layout → Nat
  | nil => 0
  | scalar _ rest | bytes _ rest | group _ _ rest | embed _ _ _ _ rest => rest.length + 1

/-- The first group left open in a format that is embedded anywhere, outer formats before inner ones. -/
def unclosed? : Layout → Option String
  | nil => none
  | scalar _ rest | bytes _ rest => rest.unclosed?
  | group _ inner rest => inner.unclosed?.or rest.unclosed?
  | embed _ _ inner unclosed rest => (unclosed.or inner.unclosed?).or rest.unclosed?

/-- A bound on the quiet steps that a walk makes before it has passed all nodes: one to leave, and for
every node those to enter and leave what is inside. -/
def weight : Layout → Nat
  | nil => 1
  | scalar _ rest | bytes _ rest => rest.weight + 1
  | group _ inner rest => inner.weight + rest.weight + 1
  | embed _ _ inner _ rest => inner.weight + rest.weight + 3

@[simp] theorem nil_append (l : Layout) : nil ++ l = l := rfl

@[simp] theorem append_nil (l : Layout) : l ++ nil = l := by
  show l.append nil = l
  induction l with
  | nil => rfl
  | scalar _ _ ih | bytes _ _ ih => simp [append, ih]
  | group _ _ _ _ ih | embed _ _ _ _ _ _ ih => simp [append, ih]

@[simp] theorem append_assoc (a b c : Layout) : a ++ b ++ c = a ++ (b ++ c) := by
  show (a.append b).append c = a.append (b.append c)
  induction a with
  | nil => rfl
  | scalar _ _ ih | bytes _ _ ih => simp [append, ih]
  | group _ _ _ _ ih | embed _ _ _ _ _ _ ih => simp [append, ih]

end Layout
end ByteAtlas
