/-!
# Offsets

Positions and lengths are natural numbers. A source has room for offsets up to `maxOffset`, so a range
that would reach further is cut off there.
-/

namespace ByteAtlas

/-- The largest offset, and the largest length, that sixty-four bits hold. -/
def maxOffset : Nat := 0xFFFFFFFFFFFFFFFF

/-- The last offset of the `length` bytes from `offset` on, cut off at the top. A range without bytes
counts as the single offset it starts at. -/
def lastOffset (offset length : Nat) : Nat := min (offset + (length - 1)) maxOffset

/-- The range from an offset in reach to its last offset is never reversed. -/
theorem le_lastOffset {offset : Nat} (length : Nat) (reach : offset ≤ maxOffset) :
    offset ≤ lastOffset offset length := by
  simp only [lastOffset]
  omega

end ByteAtlas
