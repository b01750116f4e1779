import ByteAtlas.Scope
import ByteAtlas.Text.Quoted

/-!
# Counts

How many bytes a run has, or how many times a format repeats: fixed, read from a variable, or computed
from the scope.
-/

namespace ByteAtlas

/-- A number that may depend on the variables in scope. -/
inductive Count
  | const (n : Nat)
  | var (name : String)
  | func (compute : Scope → Int)

namespace Count

/-- A fixed count; a negative one is zero. -/
def ofInt (n : Int) : Count := const n.toNat

/-- The number that a count stands for in a scope. A variable that no frame binds counts as zero, and so
does a negative result. -/
def resolve (scope : Scope) : Count → Nat
  | const n => n
  | var name => scope.count name
  | func compute => (compute scope).toNat

/-- A description of a count for diagnostics. -/
def describe : Count → String
  | const n => s!"Const({n})"
  | var name => "Var(" ++ Text.quoted name ++ ")"
  | func _ => "Func(..)"

end Count

/-- How many times a format repeats. -/
inductive Repeat
  | times (count : Count)
  | unbounded

/-- The number of repetitions, where there is one. -/
def Repeat.resolve (scope : Scope) : Repeat → Option Nat
  | times count => some (count.resolve scope)
  | unbounded => none

end ByteAtlas
