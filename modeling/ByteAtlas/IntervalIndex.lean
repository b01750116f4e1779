/-!
# Interval index

Closed intervals with values, kept in the order of their lower bounds; among equal lower bounds the one
inserted first comes first. Every entry knows how far it and the entries below it reach, so that a search
can stop early.
-/

namespace ByteAtlas

/-- An interval from `low` to `high` with its value; `reach` is the largest upper bound of this entry and
all that come before it. -/
structure IntervalEntry (α : Type) where
  low : Nat
  high : Nat
  reach : Nat
  value : α
deriving DecidableEq, Repr

/-- Whether an entry may stand above another: it begins no earlier and reaches as far. -/
def IntervalEntry.Above {α : Type} (upper lower : IntervalEntry α) : Prop :=
  lower.low ≤ upper.low ∧ lower.reach ≤ upper.reach

/-- The entries from the last to the first. -/
structure IntervalIndex (α : Type) where
  descending : List (IntervalEntry α)
  ordered : descending.Pairwise IntervalEntry.Above
  reaching : ∀ e ∈ descending, e.high ≤ e.reach
deriving Repr

namespace IntervalIndex

variable {α : Type}

/-- No entries. -/
def empty : IntervalIndex α := ⟨[], .nil, nofun⟩

instance : Inhabited (IntervalIndex α) := ⟨empty⟩

/-- The intervals and values in order. -/
def toList (index : IntervalIndex α) : List (Nat × Nat × α) :=
  index.descending.reverse.map fun e => (e.low, e.high, e.value)

/-- How many entries there are. -/
def size (index : IntervalIndex α) : Nat := index.descending.length

/-- Whether there are no entries. -/
def isEmpty (index : IntervalIndex α) : Bool := index.descending.isEmpty

/-- Inserts into entries that run from the last to the first: above all that have no larger lower bound.
Entries it passes reach at least as far as the new one. -/
def place (low high : Nat) (value : α) : List (IntervalEntry α) → List (IntervalEntry α)
  | [] => [⟨low, high, high, value⟩]
  | e :: below =>
    if e.low ≤ low then ⟨low, high, max high e.reach, value⟩ :: e :: below
    else { e with reach := max e.reach high } :: place low high value below

/-- Placing an interval keeps bounds on where the entries begin and on how far they reach, if the new one
respects the first and the second makes room for it. -/
theorem place_bounds {low high : Nat} {value : α} {begin reach : Nat} {entries : List (IntervalEntry α)}
    (begins : low ≤ begin) (bounds : ∀ e ∈ entries, e.low ≤ begin ∧ e.reach ≤ reach) :
    ∀ e ∈ place low high value entries, e.low ≤ begin ∧ e.reach ≤ max reach high := by
  induction entries with
  | nil =>
    rw [place]
    exact List.forall_mem_singleton.2 ⟨begins, Nat.le_max_right ..⟩
  | cons e below ih =>
    have ⟨first, others⟩ := List.forall_mem_cons.1 bounds
    rw [place]
    split
    · refine List.forall_mem_cons.2 ⟨⟨begins, ?_⟩, fun d member => ?_⟩
      · dsimp only
        omega
      · have := bounds d member
        omega
    · refine List.forall_mem_cons.2 ⟨⟨first.1, ?_⟩, ih others⟩
      dsimp only
      omega

/-- Placing keeps the order. -/
theorem ordered_place (low high : Nat) (value : α) {entries : List (IntervalEntry α)}
    (ordered : entries.Pairwise IntervalEntry.Above) :
    (place low high value entries).Pairwise IntervalEntry.Above := by
  induction entries with
  | nil => simp [place]
  | cons e below ih =>
    have ⟨above, ordered_below⟩ := List.pairwise_cons.1 ordered
    rw [place]
    split
    · next fits =>
      refine List.pairwise_cons.2 ⟨List.forall_mem_cons.2 ⟨⟨fits, Nat.le_max_right ..⟩, ?_⟩, ordered⟩
      intro d member
      have ⟨begins, reaches⟩ := above d member
      exact ⟨Nat.le_trans begins fits, Nat.le_trans reaches (Nat.le_max_right ..)⟩
    · next passes =>
      exact List.pairwise_cons.2
        ⟨place_bounds (Nat.le_of_not_le passes) above, ih ordered_below⟩

/-- Placing keeps every entry within its reach. -/
theorem reaching_place (low high : Nat) (value : α) {entries : List (IntervalEntry α)}
    (reaching : ∀ e ∈ entries, e.high ≤ e.reach) :
    ∀ e ∈ place low high value entries, e.high ≤ e.reach := by
  induction entries with
  | nil => simp [place]
  | cons e below ih =>
    have ⟨first, others⟩ := List.forall_mem_cons.1 reaching
    rw [place]
    split
    · exact List.forall_mem_cons.2 ⟨Nat.le_max_left .., reaching⟩
    · exact List.forall_mem_cons.2 ⟨Nat.le_trans first (Nat.le_max_left ..), ih others⟩

/-- Adds the interval between two bounds, given in either order. -/
def insert (index : IntervalIndex α) (a b : Nat) (value : α) : IntervalIndex α where
  descending := place (min a b) (max a b) value index.descending
  ordered := ordered_place _ _ _ index.ordered
  reaching := reaching_place _ _ _ index.reaching

/-- The entries that meet the interval from `low` to `high`, from the last to the first. Those that begin
above it are skipped; where no entry below reaches it the rest is not looked at. -/
def meeting (index : IntervalIndex α) (low high : Nat) : List (IntervalEntry α) :=
  ((index.descending.dropWhile (high < ·.low)).takeWhile (low ≤ ·.reach)).filter (low ≤ ·.high)

/-- The values of all entries that meet the interval between two bounds, in order. -/
def search (index : IntervalIndex α) (a b : Nat) : List α :=
  ((index.meeting (min a b) (max a b)).map (·.value)).reverse

/-- Whether any entry meets the interval between two bounds. -/
def overlaps (index : IntervalIndex α) (a b : Nat) : Bool :=
  !(index.meeting (min a b) (max a b)).isEmpty

end IntervalIndex
end ByteAtlas
