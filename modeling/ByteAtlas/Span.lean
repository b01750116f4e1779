import ByteAtlas.Color
import ByteAtlas.Offset

/-!
# Spans

A span is a named, coloured range of bytes. Names are paths: the groups around a field, then the field.
-/

namespace ByteAtlas

/-- What stands between the segments of a path. -/
def pathSeparator : String := " > "

/-- A path followed by one more segment; an empty one leaves no trace. -/
def joinPath (path segment : String) : String :=
  if path.isEmpty then segment
  else if segment.isEmpty then path
  else path ++ pathSeparator ++ segment

/-- The range from `first` to `last`, both included. -/
structure Span where
  name : String
  color : Color
  first : Nat
  last : Nat
deriving DecidableEq, Repr

namespace Span

/-- How many bytes a span has, in words of sixty-four bits that wrap around: one that is reversed has a size
too, and that of all offsets is zero. -/
def size (s : Span) : Nat := (UInt64.ofNat s.last - UInt64.ofNat s.first + 1).toNat

/-- The size of a span that is not reversed and ends below the largest offset does not wrap around. -/
theorem size_eq {s : Span} (ordered : s.first ≤ s.last) (reach : s.last < maxOffset) :
    s.size = s.last - s.first + 1 := by
  have bound : maxOffset + 1 = UInt64.size := rfl
  have top : UInt64.size = 2 ^ 64 := rfl
  have first : (UInt64.ofNat s.first).toNat = s.first := UInt64.toNat_ofNat_of_lt' (by omega)
  have last : (UInt64.ofNat s.last).toNat = s.last := UInt64.toNat_ofNat_of_lt' (by omega)
  have distance : (UInt64.ofNat s.last - UInt64.ofNat s.first).toNat = s.last - s.first := by
    rw [UInt64.toNat_sub_of_le _ _ (UInt64.le_iff_toNat_le.2 (by omega)), first, last]
  have one : (1 : UInt64).toNat = 1 := rfl
  rw [size, UInt64.toNat_add, distance]
  omega

example : (⟨"", .red, 0, maxOffset⟩ : Span).size = 0 := rfl
example : (⟨"", .red, 2, 0⟩ : Span).size = maxOffset := rfl

/-- Whether a span covers an offset. -/
def contains (s : Span) (offset : Nat) : Bool := s.first ≤ offset && offset ≤ s.last

end Span
end ByteAtlas
