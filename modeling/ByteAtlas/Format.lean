import ByteAtlas.Error
import ByteAtlas.Layout

/-!
# Formats

A format is a layout under construction: the nodes placed so far, and the groups that are open. Fields go
into the innermost open group; ending it places it in the one around it.
-/

namespace ByteAtlas

/-- A group that has been begun: its name and the nodes placed in it. -/
structure OpenGroup where
  name : String
  nodes : Layout

/-- The nodes outside of all open groups, and the open groups from the inside out. -/
structure Format where
  nodes : Layout
  pending : List OpenGroup

namespace Format

/-- No nodes and no groups. -/
def empty : Format := ⟨.nil, []⟩

instance : Inhabited Format := ⟨empty⟩

/-- Whether nothing was placed and no group begun. -/
def isEmpty (f : Format) : Bool := f.nodes.length == 0 && f.pending.isEmpty

/-- Places nodes at the end of the innermost open group, or of the format if none is open. -/
def place (f : Format) (nodes : Layout) : Format :=
  match f.pending with
  | [] => { f with nodes := f.nodes ++ nodes }
  | g :: outer => { f with pending := { g with nodes := g.nodes ++ nodes } :: outer }

/-- Places a scalar field. -/
def scalar (f : Format) (field : ScalarField) : Format := f.place (.scalar field .nil)

/-- Places a field of uninterpreted bytes. -/
def bytes (f : Format) (field : BytesField) : Format := f.place (.bytes field .nil)

/-- The innermost open group, if any. -/
def openGroup? (f : Format) : Option String := f.pending.head?.map (·.name)

/-- Places a copy of another format that repeats. The open groups of the copy stay behind, but for the
name of the innermost. -/
def embed (f : Format) (name : Option String) (times : Repeat) (child : Format) : Format :=
  f.place (.embed name times child.nodes child.openGroup? .nil)

/-- Places a copy of another format that repeats a number of times. -/
def array (f : Format) (name : Option String) (count : Count) (child : Format) : Format :=
  f.embed name (.times count) child

/-- Places a copy of another format once. -/
def child (f : Format) (name : Option String) (child : Format) : Format := f.array name (.const 1) child

/-- Places a copy of another format that repeats without end. -/
def sequence (f : Format) (name : Option String) (child : Format) : Format :=
  f.embed name .unbounded child

/-- Begins a group. -/
def beginGroup (f : Format) (name : String) : Format := { f with pending := ⟨name, .nil⟩ :: f.pending }

/-- Ends the innermost group. -/
def endGroup (f : Format) : Except Error Format :=
  match f.pending with
  | [] => .error (.structural .unmatchedEnd)
  | g :: outer => .ok ({ f with pending := outer }.place (.group g.name g.nodes .nil))

/-- The group that keeps the format from being finished: the innermost open one, or else the first one
left open in an embedded format. -/
def unclosed? (f : Format) : Option String := f.openGroup?.or f.nodes.unclosed?

/-- Succeeds if no group is open anywhere. -/
def check (f : Format) : Except Error Unit :=
  match f.unclosed? with
  | none => .ok ()
  | some name => .error (.structural (.neverClosed name))

/-- A finished format has no open group, and none is left open in it. -/
theorem unclosed_of_finished {f : Format} (finished : f.check = .ok ()) :
    f.openGroup? = none ∧ f.nodes.unclosed? = none := by
  simp only [check] at finished
  split at finished
  · next none => exact Option.or_eq_none_iff.1 none
  · cases finished

end Format
end ByteAtlas
