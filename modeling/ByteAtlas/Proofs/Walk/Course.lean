import ByteAtlas.Proofs.Walk.Pull

/-!
# Courses

All that a walk will ever give: its spans, and the error that ends them if they do not end with the format.
A course is finite, because every span takes the walk nearer to the largest offset. Its spans lie side by
side (`Walk.course_tiles`), so they come in the order of their offsets, no two of them share an offset, and
none is missing before the last.
-/

namespace ByteAtlas

/-- The spans of a walk in order, and the error that ends them. -/
structure Course where
  spans : List Span
  stop : Option Error

/-- What there is to say when the spans have run out. -/
def Course.closing (course : Course) : Answer := course.stop.elim (.ok none) .error

/-- The first answers of a course: its spans, the error if there is one, and from then on the end. -/
def Course.results (course : Course) (count : Nat) : List Answer :=
  (course.spans.map (fun span => .ok (some span)) ++ course.stop.toList.map .error : List Answer).takeD
    count (.ok none)

lemma Course.results_cons (span : Span) (spans : List Span) (stop : Option Error) (count : Nat) :
    Course.results ⟨span :: spans, stop⟩ (count + 1) =
      .ok (some span) :: Course.results ⟨spans, stop⟩ count := by
  simp [results]

namespace Walk

/-- All spans that a walk gives from now on, and how they end. -/
def course (source : Source) (w : Walk) : Course :=
  match _ : (w.pull source).result with
  | .ok (some span) =>
    let rest := course source (w.pull source).walk
    { rest with spans := span :: rest.spans }
  | .ok none => ⟨[], none⟩
  | .error cause => ⟨[], some cause⟩
termination_by maxOffset - w.offset
decreasing_by
  have tiles := pull_tiles (by assumption)
  have := tiles.first_eq
  have := tiles.first_le_last
  have := tiles.last_lt
  have := tiles.next_eq
  omega

variable {source : Source} {w : Walk}

/-- A course begins with what the next pull gives. -/
lemma course_eq (source : Source) (w : Walk) : w.course source =
    match (w.pull source).result with
    | .ok (some span) =>
      ⟨span :: ((w.pull source).walk.course source).spans, ((w.pull source).walk.course source).stop⟩
    | .ok none => ⟨[], none⟩
    | .error cause => ⟨[], some cause⟩ := by
  rw [course]
  split
  · next e => simp only [e]
  · next e => simp only [e]
  · next e => simp only [e]

lemma course_of_span {span : Span} (yielded : (w.pull source).result = .ok (some span)) :
    w.course source =
      ⟨span :: ((w.pull source).walk.course source).spans, ((w.pull source).walk.course source).stop⟩ := by
  rw [course_eq, yielded]

/-- Where a pull gives no span its answer is all there is to say. -/
lemma course_of_ended (ended : ∀ span, (w.pull source).result ≠ .ok (some span)) :
    (w.course source).spans = [] ∧ (w.course source).closing = (w.pull source).result := by
  rw [course_eq]
  split
  · next e => exact absurd e (ended _)
  · next e => exact ⟨rfl, e.symm⟩
  · next e => exact ⟨rfl, e.symm⟩

lemma course_of_done (done : w.stack = []) : w.course source = ⟨[], none⟩ := by
  rw [course_eq, pull_of_done done]

/-- A walk gives its course, and after it the end. -/
lemma results_eq_course (source : Source) (w : Walk) (count : Nat) :
    w.results source count = (w.course source).results count := by
  induction count generalizing w with
  | zero => rfl
  | succ count ih =>
    have ended := @pull_ended source w
    rw [results, course_eq]
    split
    · next span e => rw [e, ih, Course.results_cons]
    · next e =>
      rw [e, results_of_done (ended (by simp [e])).1]
      simp [Course.results]
    · next cause e =>
      rw [e, results_of_done (ended (by simp [e])).1]
      simp [Course.results]

end Walk

/-- A span covers the offsets between its ends. -/
lemma Span.contains_iff {s : Span} {x : Nat} : s.contains x = true ↔ s.first ≤ x ∧ x ≤ s.last := by
  rw [contains, Bool.and_eq_true, decide_eq_true_eq, decide_eq_true_eq]

/-- A span that ends before an offset does not cover it. -/
lemma Span.not_contains {s : Span} {x : Nat} (short : s.last < x) : ¬s.contains x := by
  intro covers
  exact Nat.not_le.2 short (contains_iff.1 covers).2

/-- Spans that lie side by side from an offset on, none of them empty and none at the largest offset. -/
def TilesFrom : Nat → List Span → Prop
  | _, [] => True
  | offset, span :: rest =>
    span.first = offset ∧ span.first ≤ span.last ∧ span.last < maxOffset ∧ TilesFrom (span.last + 1) rest

/-- The spans of a walk lie side by side from its offset on. -/
lemma Walk.course_tiles (source : Source) (w : Walk) : TilesFrom w.offset (w.course source).spans := by
  fun_induction Walk.course source w with
  | case1 w span yielded rest ih =>
    have tiles := pull_tiles yielded
    refine ⟨tiles.first_eq, tiles.first_le_last, tiles.last_lt, ?_⟩
    rw [← tiles.next_eq]
    exact ih
  | case2 => trivial
  | case3 => trivial

namespace TilesFrom

variable {offset : Nat} {spans : List Span}

/-- Spans that lie side by side begin no earlier than where they start. -/
lemma le_first (tiles : TilesFrom offset spans) : ∀ span ∈ spans, offset ≤ span.first := by
  induction spans generalizing offset with
  | nil => exact nofun
  | cons span rest ih =>
    obtain ⟨first, some_bytes, -, later⟩ := tiles
    intro s member
    cases member with
    | head => omega
    | tail _ member =>
      have := ih later s member
      omega

/-- Spans that lie side by side follow each other. -/
lemma pairwise (tiles : TilesFrom offset spans) : spans.Pairwise (fun s t => s.last < t.first) := by
  induction spans generalizing offset with
  | nil => exact .nil
  | cons span rest ih =>
    obtain ⟨-, -, -, later⟩ := tiles
    exact .cons later.le_first (ih later)

/-- Of spans that lie side by side none is empty. -/
lemma first_le_last (tiles : TilesFrom offset spans) : ∀ span ∈ spans, span.first ≤ span.last := by
  induction spans generalizing offset with
  | nil => exact nofun
  | cons span rest ih =>
    obtain ⟨-, some_bytes, -, later⟩ := tiles
    exact List.forall_mem_cons.2 ⟨some_bytes, ih later⟩

/-- The spans before some others lie side by side as well. -/
lemma of_append {more : List Span} (tiles : TilesFrom offset (spans ++ more)) : TilesFrom offset spans := by
  induction spans generalizing offset with
  | nil => trivial
  | cons span rest ih =>
    obtain ⟨first, some_bytes, reach, later⟩ := tiles
    exact ⟨first, some_bytes, reach, ih later⟩

/-- Up to the end of any of them, spans that lie side by side cover every offset. -/
lemma covers {x : Nat} (tiles : TilesFrom offset spans) (begins : offset ≤ x)
    (ends : ∃ span ∈ spans, x ≤ span.last) : ∃ span ∈ spans, span.contains x := by
  induction spans generalizing offset with
  | nil =>
    obtain ⟨span, member, -⟩ := ends
    cases member
  | cons span rest ih =>
    obtain ⟨first, -, -, later⟩ := tiles
    by_cases inside : x ≤ span.last
    · exact ⟨span, List.mem_cons_self, Span.contains_iff.2 ⟨first ▸ begins, inside⟩⟩
    · obtain ⟨s, member, ends⟩ := ends
      cases member with
      | head => exact absurd ends inside
      | tail _ member =>
        obtain ⟨t, member', covered⟩ := ih later (by omega) ⟨s, member, ends⟩
        exact ⟨t, List.mem_cons_of_mem _ member', covered⟩

/-- No two spans that lie side by side cover the same offset. -/
lemma eq_of_contains {x : Nat} {s t : Span} (tiles : TilesFrom offset spans) (hs : s ∈ spans) (ht : t ∈ spans)
    (cs : s.contains x) (ct : t.contains x) : s = t := by
  obtain ⟨begins, ends⟩ := Span.contains_iff.1 cs
  obtain ⟨begins', ends'⟩ := Span.contains_iff.1 ct
  induction spans generalizing offset with
  | nil => cases hs
  | cons span rest ih =>
    obtain ⟨-, -, -, later⟩ := tiles
    have after := later.le_first
    cases hs with
    | head =>
      cases ht with
      | head => rfl
      | tail _ ht =>
        have := after t ht
        omega
    | tail _ hs =>
      cases ht with
      | head =>
        have := after s hs
        omega
      | tail _ ht => exact ih later hs ht

/-- Spans that lie side by side differ from each other. -/
lemma nodup (tiles : TilesFrom offset spans) : spans.Nodup := by
  have some_bytes := tiles.first_le_last
  refine tiles.pairwise.imp_of_mem ?_
  rintro s t hs - before rfl
  have := some_bytes s hs
  omega

end TilesFrom
end ByteAtlas
