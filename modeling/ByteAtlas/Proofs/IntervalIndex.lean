import ByteAtlas.IntervalIndex
import Mathlib

/-!
# The interval index as a list

What can be seen of an index is the list of its intervals and values. A search gives the values of the
intervals of that list that meet the query (`search_eq`), and stopping early loses none of them: below an
entry that does not reach the query no other does. Inserting adds one interval (`mem_toList_insert`), at the
end if no other begins above it (`toList_insert_last`), and behind those that begin with it
(`filter_toList_insert`). So after any edits the list is that of the insertions since the index was last cleared,
sorted by lower bounds, and a search is a selection from it (`edited_as_list`).
-/

namespace ByteAtlas.IntervalIndex

variable {α : Type}

/-- Skipping the entries that begin above a bound leaves those that do not. -/
lemma dropWhile_begin {entries : List (IntervalEntry α)} (ordered : entries.Pairwise IntervalEntry.Above)
    (high : Nat) : entries.dropWhile (high < ·.low) = entries.filter (·.low ≤ high) := by
  induction entries with
  | nil => rfl
  | cons e below ih =>
    obtain ⟨above, ordered_below⟩ := List.pairwise_cons.1 ordered
    by_cases begins : high < e.low
    · rw [List.dropWhile_cons_of_pos (by simpa using begins), ih ordered_below,
        List.filter_cons_of_neg (by simpa using begins)]
    · have all : ∀ d ∈ e :: below, d.low ≤ high := by
        intro d member
        cases member with
        | head => omega
        | tail _ member =>
          have := (above d member).1
          omega
      rw [List.dropWhile_cons_of_neg (by simpa using begins), List.filter_eq_self.2 (by simpa using all)]

/-- Entries that reach a bound lie above those that do not, so that stopping there loses none. -/
lemma filter_takeWhile_reach {entries : List (IntervalEntry α)}
    (ordered : entries.Pairwise IntervalEntry.Above) (reaching : ∀ e ∈ entries, e.high ≤ e.reach) (low : Nat) :
    (entries.takeWhile (low ≤ ·.reach)).filter (low ≤ ·.high) = entries.filter (low ≤ ·.high) := by
  induction entries with
  | nil => rfl
  | cons e below ih =>
    obtain ⟨above, ordered_below⟩ := List.pairwise_cons.1 ordered
    obtain ⟨first, others⟩ := List.forall_mem_cons.1 reaching
    by_cases reaches : low ≤ e.reach
    · rw [List.takeWhile_cons_of_pos (by simpa using reaches)]
      by_cases meets : low ≤ e.high
      · rw [List.filter_cons_of_pos (by simpa using meets), List.filter_cons_of_pos (by simpa using meets),
          ih ordered_below others]
      · rw [List.filter_cons_of_neg (by simpa using meets), List.filter_cons_of_neg (by simpa using meets),
          ih ordered_below others]
    · have none : ∀ d ∈ e :: below, d.high < low := by
        intro d member
        cases member with
        | head => omega
        | tail _ member =>
          have := (above d member).2
          have := others d member
          omega
      rw [List.takeWhile_cons_of_neg (by simpa using reaches), eq_comm, List.filter_nil,
        List.filter_eq_nil_iff]
      simpa using none

/-- The entries that a query finds are those whose interval meets it. -/
lemma meeting_eq (index : IntervalIndex α) (low high : Nat) :
    index.meeting low high = index.descending.filter fun e => e.low ≤ high && low ≤ e.high := by
  rw [meeting, dropWhile_begin index.ordered]
  rw [filter_takeWhile_reach (index.ordered.filter _)
    (fun e member => index.reaching e (List.mem_of_mem_filter member)), List.filter_filter]
  simp only [Bool.and_comm]

/-- A search gives the values of the intervals that meet the query, in order. -/
theorem search_eq (index : IntervalIndex α) (a b : Nat) :
    index.search a b =
      (index.toList.filter fun e => e.1 ≤ max a b && min a b ≤ e.2.1).map (·.2.2) := by
  rw [search, meeting_eq, toList, List.filter_map, List.map_map, List.filter_reverse, List.map_reverse]
  rfl

/-- A range is met if and only if one of the intervals meets it. -/
theorem overlaps_iff (index : IntervalIndex α) (a b : Nat) :
    index.overlaps a b = true ↔ ∃ e ∈ index.toList, e.1 ≤ max a b ∧ min a b ≤ e.2.1 := by
  rw [overlaps, meeting_eq, Bool.not_eq_true', List.isEmpty_eq_false_iff_exists_mem]
  simp only [List.mem_filter, Bool.and_eq_true, decide_eq_true_eq, toList, List.mem_map, List.mem_reverse,
    exists_exists_and_eq_and]

/-- Placing an interval adds it and nothing else. -/
lemma mem_place {low high : Nat} {value : α} {entries : List (IntervalEntry α)} {x : Nat × Nat × α} :
    x ∈ (place low high value entries).map (fun e => (e.low, e.high, e.value)) ↔
      x = (low, high, value) ∨ x ∈ entries.map fun e => (e.low, e.high, e.value) := by
  induction entries with
  | nil => simp [place]
  | cons e below ih =>
    rw [place]
    split
    · simp
    · rw [List.map_cons, List.mem_cons, ih, List.map_cons, List.mem_cons]
      exact or_left_comm

/-- Inserting adds one interval and nothing else. -/
lemma mem_toList_insert {index : IntervalIndex α} {a b : Nat} {value : α} {x : Nat × Nat × α} :
    x ∈ (index.insert a b value).toList ↔ x = (min a b, max a b, value) ∨ x ∈ index.toList := by
  simp only [toList, List.map_reverse, List.mem_reverse]
  exact mem_place

/-- An interval above which no other begins is inserted at the end. -/
lemma toList_insert_last {index : IntervalIndex α} {a b : Nat} (value : α)
    (last : ∀ x ∈ index.toList, x.1 ≤ min a b) :
    (index.insert a b value).toList = index.toList ++ [(min a b, max a b, value)] := by
  obtain ⟨entries, ordered, reaching⟩ := index
  cases entries with
  | nil => rfl
  | cons e below =>
    have begins : e.low ≤ min a b := last (e.low, e.high, e.value) (by simp [toList])
    simp [toList, insert, place, begins]

/-! What comes about by edits. -/

/-- What can be done to an index. -/
inductive Edit (α : Type)
  | insert (a b : Nat) (value : α)
  | clear

/-- Does an edit. -/
def edit (index : IntervalIndex α) : Edit α → IntervalIndex α
  | .insert a b value => index.insert a b value
  | .clear => .empty

/-- An index to which some edits were done, in order. -/
def edited (edits : List (Edit α)) : IntervalIndex α := edits.foldl edit .empty

/-- Does an edit to a plain list, in which every interval is put behind those that were there before. -/
def editList (before : List (Nat × Nat × α)) : Edit α → List (Nat × Nat × α)
  | .insert a b value => before ++ [(min a b, max a b, value)]
  | .clear => []

/-- The intervals that were inserted since the index was last cleared, in the order in which they were. -/
def inserted (edits : List (Edit α)) : List (Nat × Nat × α) := edits.foldl editList []

/-- Intervals by their lower bounds. Those that begin together stay in their order. -/
def byLow (intervals : List (Nat × Nat × α)) : List (Nat × Nat × α) := intervals.mergeSort fun x y => x.1 ≤ y.1

/-- Whether two intervals, given by their bounds in either order, share an offset. -/
def Meet (a b c d : Nat) : Prop :=
  ∃ offset, (min a b ≤ offset ∧ offset ≤ max a b) ∧ min c d ≤ offset ∧ offset ≤ max c d

lemma meet_iff {a b c d : Nat} : Meet a b c d ↔ min c d ≤ max a b ∧ min a b ≤ max c d := by
  constructor
  · rintro ⟨offset, _, _⟩
    omega
  · intro meet
    exact ⟨max (min a b) (min c d), by omega, by omega⟩

instance (a b c d : Nat) : Decidable (Meet a b c d) := decidable_of_iff _ meet_iff.symm

lemma le_trans_low (x y z : Nat × Nat × α) :
    decide (x.1 ≤ y.1) = true → decide (y.1 ≤ z.1) = true → decide (x.1 ≤ z.1) = true := by
  simp only [decide_eq_true_eq]
  exact Nat.le_trans

lemma le_total_low (x y : Nat × Nat × α) : (decide (x.1 ≤ y.1) || decide (y.1 ≤ x.1)) = true := by
  rw [Bool.or_eq_true, decide_eq_true_eq, decide_eq_true_eq]
  exact Nat.le_total _ _

lemma pairwise_byLow (l : List (Nat × Nat × α)) : (byLow l).Pairwise (·.1 ≤ ·.1) := by
  have sorted := List.pairwise_mergeSort le_trans_low le_total_low l
  simp only [decide_eq_true_eq] at sorted
  exact sorted

lemma filter_byLow (l : List (Nat × Nat × α)) (low : Nat) :
    (byLow l).filter (·.1 = low) = l.filter (·.1 = low) := by
  have together : (l.filter (·.1 = low)).Pairwise fun x y => decide (x.1 ≤ y.1) = true := by
    apply List.pairwise_of_forall_mem_list
    simp only [List.mem_filter, decide_eq_true_eq]
    intro x begins y begins'
    exact Nat.le_of_eq (begins.2.trans begins'.2.symm)
  have inside : (l.filter (·.1 = low)).Sublist (byLow l) :=
    List.sublist_mergeSort le_trans_low le_total_low together List.filter_sublist
  have again := inside.filter (·.1 = low)
  rw [List.filter_filter] at again
  simp only [Bool.and_self] at again
  refine (again.eq_of_length ?_).symm
  exact ((List.mergeSort_perm l _).filter _).length_eq.symm

lemma mem_of_filter_eq {l m : List (Nat × Nat × α)} {x : Nat × Nat × α}
    (same : ∀ low, l.filter (·.1 = low) = m.filter (·.1 = low)) (member : x ∈ l) : x ∈ m := by
  have beside : x ∈ l.filter (·.1 = x.1) := List.mem_filter.2 ⟨member, decide_eq_true rfl⟩
  rw [same] at beside
  exact List.mem_of_mem_filter beside

/-- Two lists by lower bounds are the same if those that begin together come in the same order in both. -/
lemma eq_of_filter_eq {l m : List (Nat × Nat × α)} (sorted : l.Pairwise (·.1 ≤ ·.1))
    (sorted' : m.Pairwise (·.1 ≤ ·.1)) (same : ∀ low, l.filter (·.1 = low) = m.filter (·.1 = low)) : l = m := by
  induction l generalizing m with
  | nil =>
    apply Eq.symm
    rw [List.eq_nil_iff_forall_not_mem]
    intro x member
    exact List.not_mem_nil (mem_of_filter_eq (fun low => (same low).symm) member)
  | cons x l ih =>
    cases m with
    | nil => exact absurd (mem_of_filter_eq same List.mem_cons_self) List.not_mem_nil
    | cons y m =>
      obtain ⟨above, rest⟩ := List.pairwise_cons.1 sorted
      obtain ⟨above', rest'⟩ := List.pairwise_cons.1 sorted'
      have here : x ∈ y :: m := mem_of_filter_eq same List.mem_cons_self
      have there : y ∈ x :: l := mem_of_filter_eq (fun low => (same low).symm) List.mem_cons_self
      -- Neither begins before the other, so they stand first among those that begin together.
      have begins : x.1 = y.1 := by
        apply Nat.le_antisymm
        · obtain rfl | behind := List.mem_cons.1 there
          · exact Nat.le_refl _
          · exact above y behind
        · obtain rfl | behind := List.mem_cons.1 here
          · exact Nat.le_refl _
          · exact above' x behind
      have heads := same x.1
      rw [List.filter_cons_of_pos (by simp), List.filter_cons_of_pos (by simp [begins])] at heads
      obtain ⟨rfl, -⟩ := List.cons.inj heads
      apply congrArg (List.cons x)
      apply ih rest rest'
      intro low
      have both := same low
      rw [List.filter_cons, List.filter_cons] at both
      split at both
      · exact (List.cons.inj both).2
      · exact both

/-- Placing keeps the order of the entries that begin together, and puts the new one above them. -/
lemma filter_place (low high : Nat) (value : α) (entries : List (IntervalEntry α)) (begin : Nat) :
    ((place low high value entries).map fun e => (e.low, e.high, e.value)).filter (·.1 = begin) =
      ((low, high, value) :: entries.map fun e => (e.low, e.high, e.value)).filter (·.1 = begin) := by
  induction entries with
  | nil => rfl
  | cons e below ih =>
    rw [place]
    split
    · rfl
    · next passes =>
      rw [List.map_cons, List.filter_cons, ih, List.map_cons]
      by_cases new : low = begin
      · -- The entry that is passed begins elsewhere.
        have elsewhere : ¬e.low = begin := by omega
        simp [new, elsewhere]
      · simp [List.filter_cons, new]

lemma filter_toList_insert (index : IntervalIndex α) (a b : Nat) (value : α) (begin : Nat) :
    (index.insert a b value).toList.filter (·.1 = begin) =
      (index.toList ++ [(min a b, max a b, value)]).filter (·.1 = begin) := by
  rw [toList, toList, List.map_reverse, List.map_reverse, ← List.reverse_cons, List.filter_reverse, List.filter_reverse]
  exact congrArg List.reverse (filter_place _ _ _ _ _)

lemma pairwise_toList (index : IntervalIndex α) : index.toList.Pairwise (·.1 ≤ ·.1) := by
  rw [toList, List.pairwise_map, List.pairwise_reverse]
  exact index.ordered.imp And.left

lemma edited_concat (edits : List (Edit α)) (last : Edit α) :
    edited (edits ++ [last]) = (edited edits).edit last := List.foldl_concat ..

lemma inserted_concat (edits : List (Edit α)) (last : Edit α) :
    inserted (edits ++ [last]) = editList (inserted edits) last := List.foldl_concat ..

/-- Those that begin together stand in the index in the order in which they were inserted. -/
lemma filter_toList_edited (edits : List (Edit α)) (begin : Nat) :
    (edited edits).toList.filter (·.1 = begin) = (inserted edits).filter (·.1 = begin) := by
  induction edits using List.reverseRecOn with
  | nil => rfl
  | append_singleton edits last ih =>
    rw [edited_concat, inserted_concat]
    cases last with
    | insert a b value => rw [edit, editList, filter_toList_insert, List.filter_append, ih, List.filter_append]
    | clear => rfl

lemma toList_edited (edits : List (Edit α)) : (edited edits).toList = byLow (inserted edits) := by
  apply eq_of_filter_eq (pairwise_toList _) (pairwise_byLow _)
  intro begin
  rw [filter_toList_edited, filter_byLow]

/-- Bounds in reverse are swapped. -/
lemma le_of_inserted (edits : List (Edit α)) : ∀ x ∈ inserted edits, x.1 ≤ x.2.1 := by
  induction edits using List.reverseRecOn with
  | nil => exact nofun
  | append_singleton edits last ih =>
    rw [inserted_concat]
    cases last with
    | insert a b value => exact List.forall_mem_append.2 ⟨ih, List.forall_mem_singleton.2 min_le_max⟩
    | clear => exact nofun

/-- After any edits an index is the list of what was inserted since it was last cleared, by lower bounds and else in
the order of insertion. A search gives the values of just those whose interval meets the query, in that order; a
query overlaps where a search finds anything. -/
theorem edited_as_list (edits : List (Edit α)) (a b : Nat) :
    (edited edits).toList = byLow (inserted edits) ∧
      (edited edits).search a b = ((byLow (inserted edits)).filter fun x => Meet a b x.1 x.2.1).map (·.2.2) ∧
      ((edited edits).overlaps a b = true ↔ (edited edits).search a b ≠ []) ∧
      (edited edits).size = (inserted edits).length := by
  have listed := toList_edited edits
  have meets : ∀ x ∈ byLow (inserted edits),
      (decide (x.1 ≤ max a b) && decide (min a b ≤ x.2.1)) = decide (Meet a b x.1 x.2.1) := by
    intro x member
    have ordered := le_of_inserted edits x (List.mem_mergeSort.1 member)
    rw [← Bool.decide_and, decide_eq_decide, meet_iff]
    omega
  refine ⟨listed, ?_, ?_, ?_⟩
  · rw [search_eq, listed, List.filter_congr meets]
  · simp [search, overlaps]
  · have counted := congrArg List.length listed
    rw [byLow, List.length_mergeSort] at counted
    rw [← counted, size, toList, List.length_map, List.length_reverse]

/-- A long interval, one that begins with it and was inserted later, and one given in reverse. -/
example :
    let index := edited [.insert 0 3 'x', .clear, .insert 4 4 'a', .insert 9 2 'b', .insert 2 3 'c', .insert 0 1 'd']
    index.search 7 4 = ['b', 'a'] ∧ index.search 1 3 = ['d', 'b', 'c'] ∧ index.size = 4 := by
  decide

end ByteAtlas.IntervalIndex
