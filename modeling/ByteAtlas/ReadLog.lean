import ByteAtlas.IntervalIndex
import ByteAtlas.Source

/-!
# Read logs

A log of the reads made of a source: how often it was asked at all, and which ranges it was asked for
since the log was last cleared. A failed read counts like any other.
-/

namespace ByteAtlas

/-- The ranges that were asked for, and the number of reads. -/
structure ReadLog where
  touched : IntervalIndex Unit
  calls : Nat

namespace ReadLog

/-- No reads. -/
def empty : ReadLog := ⟨.empty, 0⟩

instance : Inhabited ReadLog := ⟨empty⟩

/-- Notes a read. One of no bytes touches nothing. -/
def record (log : ReadLog) (offset length : Nat) : ReadLog where
  touched :=
    if length = 0 then log.touched else log.touched.insert offset (lastOffset offset length) ()
  calls := log.calls + 1

/-- Notes a read if there was one. -/
def recordRequest (log : ReadLog) : Option (Nat × Nat) → ReadLog
  | none => log
  | some (offset, length) => log.record offset length

/-- Clears the ranges. -/
def forget (log : ReadLog) : ReadLog := { log with touched := .empty }

/-- Whether a range that meets the one between two bounds was asked for. -/
def wasTouched (log : ReadLog) (a b : Nat) : Bool := log.touched.overlaps a b

/-- The ranges that were asked for, in order. -/
def ranges (log : ReadLog) : List (Nat × Nat) := log.touched.toList.map fun (low, high, _) => (low, high)

/-- Reads from a source and notes it. -/
def read (log : ReadLog) (source : Source) (offset length : Nat) :
    Except ReadError (List UInt8) × ReadLog :=
  (source.read offset length, log.record offset length)

end ReadLog
end ByteAtlas
