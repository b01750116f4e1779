import ByteAtlas.Value

/-!
# Scopes

A scope holds the variables that bound fields have set. It is a non-empty stack of frames: the innermost
frame takes new bindings, look-up goes outwards, and the outermost frame cannot be dropped.
-/

namespace ByteAtlas

/-- The bindings of one frame, the most recent first. -/
abbrev Bindings := List (String × Value)

/-- The innermost frame, and the frames around it from the inside out. -/
structure Scope where
  inner : Bindings
  outer : List Bindings
deriving DecidableEq, Repr

namespace Scope

/-- One frame without bindings. -/
def empty : Scope := ⟨[], []⟩

instance : Inhabited Scope := ⟨empty⟩

/-- The frames from the inside out. -/
def frames (s : Scope) : List Bindings := s.inner :: s.outer

/-- How many frames there are. -/
def depth (s : Scope) : Nat := s.frames.length

/-- Enters a new frame. -/
def push (s : Scope) : Scope := ⟨[], s.inner :: s.outer⟩

/-- Leaves the innermost frame, unless it is the only one. -/
def pop (s : Scope) : Scope :=
  match s.outer with
  | [] => s
  | frame :: more => ⟨frame, more⟩

/-- Binds a name in the innermost frame. -/
def set (s : Scope) (name : String) (value : Value) : Scope :=
  ⟨(name, value) :: s.inner, s.outer⟩

/-- The most recent binding of a name in the innermost frame that has one. -/
def get? (s : Scope) (name : String) : Option Value := s.frames.findSome? (·.lookup name)

/-- Whether any frame binds a name. -/
def contains (s : Scope) (name : String) : Bool := (s.get? name).isSome

/-- The value of a name as a count, zero if no frame binds it. -/
def count (s : Scope) (name : String) : Nat := ((s.get? name).map Value.toCount).getD 0

@[simp] theorem depth_push (s : Scope) : s.push.depth = s.depth + 1 := rfl

@[simp] theorem depth_set (s : Scope) (name : String) (value : Value) :
    (s.set name value).depth = s.depth := rfl

@[simp] theorem pop_push (s : Scope) : s.push.pop = s := rfl

@[simp] theorem pop_set_push (s : Scope) (name : String) (value : Value) :
    (s.push.set name value).pop = s := rfl

end Scope
end ByteAtlas
