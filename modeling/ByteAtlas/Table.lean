/-!
# Tables

Values by names. A name has one value at most: a new one takes the place of the old.
-/

namespace ByteAtlas

/-- Values with their names, the value that was put in last in front. -/
structure Table (α : Type) where
  entries : List (String × α)
  distinct : (entries.map (·.1)).Nodup

namespace Table

variable {α : Type}

/-- No values. -/
def empty : Table α := ⟨[], .nil⟩

instance : Inhabited (Table α) := ⟨empty⟩

/-- The value of a name. -/
def get? (t : Table α) (name : String) : Option α := t.entries.lookup name

/-- What is left without a name has no other names than before. -/
theorem distinct_without (t : Table α) (name : String) :
    ((t.entries.filter (·.1 != name)).map (·.1)).Nodup :=
  t.distinct.sublist (List.filter_sublist.map _)

/-- Puts in a value for a name, in place of the one it had. -/
def insert (t : Table α) (name : String) (value : α) : Table α where
  entries := (name, value) :: t.entries.filter (·.1 != name)
  distinct := List.nodup_cons.2 ⟨by simp, t.distinct_without name⟩

@[simp] theorem get?_empty (name : String) : (empty : Table α).get? name = none := rfl

/-- Whether a name is left out makes no difference to others. -/
theorem lookup_without {entries : List (String × α)} {name other : String} (apart : other ≠ name) :
    (entries.filter (·.1 != name)).lookup other = entries.lookup other := by
  induction entries with
  | nil => rfl
  | cons first later ih =>
    obtain ⟨here, value⟩ := first
    by_cases same : here = name
    · subst same
      simpa [List.lookup_cons, beq_false_of_ne apart] using ih
    · simp [same, List.lookup_cons, ih]

/-- The name that was put in has the new value, all others have those they had. -/
theorem get?_insert (t : Table α) (name other : String) (value : α) :
    (t.insert name value).get? other = if other = name then some value else t.get? other := by
  by_cases same : other = name
  · subst same
    simp [get?, insert]
  · simp [get?, insert, List.lookup_cons, beq_false_of_ne same, same, lookup_without same]

end Table
end ByteAtlas
