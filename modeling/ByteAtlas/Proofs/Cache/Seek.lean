import ByteAtlas.Proofs.Cache.Presents

/-!
# Seeks

In every state that a cache gets into, a seek gives the one span of the course that covers the offset, or says
how the course ends (`Cache.seekTo_exact`). A seek has two ways to give up early: for an offset no further than
the spans seen so far that the index does not know, and for a new span that begins beyond the offset. Neither is
ever taken, so whatever were done there (`Cache.seekToOr`), the seek would be the same: spans lie side by side
from the first offset on, and the index knows them all.
-/

namespace ByteAtlas.Cache

variable {source : Source} {c : Cache} {format : Format}

/-- Every call keeps what is presented, and that the walk has ended. -/
lemma Presents.call (h : Presents source c) (call : Call) :
    Presents source (c.call source call).2 ∧ (c.call source call).2.format = c.format ∧
      (c.isExhausted = true → (c.call source call).2.isExhausted = true) := by
  cases call with
  | next =>
    obtain ⟨span, found⟩ | ⟨-, missed⟩ := h.next
    · exact ⟨found.presents, found.format, found.exhausted.trans⟩
    · exact ⟨missed.presents, missed.format, fun _ => missed.exhausted⟩
  | seekTo offset =>
    obtain ⟨number, span, -, found⟩ | ⟨-, missed⟩ := h.seekTo offset
    · exact ⟨found.presents, found.format, found.exhausted.trans⟩
    · exact ⟨missed.presents, missed.format, fun _ => missed.exhausted⟩

/-- Every cache presents the course of its format. -/
lemma Reachable.presents (reached : Reachable source format c) :
    Presents source c ∧ c.format = format ∧ format.check = .ok () := by
  induction reached with
  | start started =>
    cases finished : format.check with
    | error cause =>
      rw [Cache.start, finished] at started
      cases started
    | ok =>
      rw [start_of_finished finished] at started
      cases started
      exact ⟨presents_ofFormat source format .empty, rfl, rfl⟩
  | call call _ ih =>
    obtain ⟨h, same, finished⟩ := ih
    obtain ⟨h', same', -⟩ := h.call call
    exact ⟨h', same'.trans same, finished⟩
  | invalidate _ ih =>
    obtain ⟨-, same, finished⟩ := ih
    exact ⟨presents_ofFormat source _ _, same, finished⟩
  | onChange offset length _ ih =>
    obtain ⟨h, same, finished⟩ := ih
    rw [Cache.onChange]
    split
    · exact ⟨h, same, finished⟩
    · split
      · exact ⟨presents_ofFormat source _ _, same, finished⟩
      · exact ⟨h, same, finished⟩

/-- `seekOn` with something else to do for a new span that begins beyond the offset. -/
def seekOnOr (source : Source) (beyond : Cache → Answer × Cache) (c : Cache) (offset : Nat) :
    Answer × Cache :=
  match _ : c.pull source with
  | (.ok (some span), pulled) =>
    if span.last < offset then
      seekOnOr source beyond pulled offset
    else if span.contains offset then
      let (span, landed) := pulled.landLast
      (.ok span, landed)
    else beyond pulled
  | (.ok none, pulled) => (.ok none, pulled)
  | (.error cause, pulled) => (.error cause, pulled)
termination_by offset - c.walk.offset
decreasing_by
  have tiles := pull_tiles (by assumption)
  have := tiles.first_eq
  have := tiles.first_le_last
  have := tiles.next_eq
  omega

/-- `seekTo` with something else to do where it gives up early: for an offset that is passed and not known, and
for a new span that begins beyond the offset. -/
def seekToOr (source : Source) (unknown beyond : Cache → Answer × Cache) (c : Cache) (offset : Nat) :
    Answer × Cache :=
  match (c.index.search offset offset).head? with
  | some number =>
    let (span, landed) := c.land number
    (.ok span, landed)
  | none => if c.hasPassed offset then unknown c else c.seekOnOr source beyond offset

lemma seekOnOr_eq (source : Source) (beyond : Cache → Answer × Cache) (c : Cache) (offset : Nat) :
    c.seekOnOr source beyond offset =
      match (c.pull source).1 with
      | .ok (some span) =>
        if span.last < offset then (c.pull source).2.seekOnOr source beyond offset
        else if span.contains offset then (.ok (c.pull source).2.landLast.1, (c.pull source).2.landLast.2)
        else beyond (c.pull source).2
      | _ => c.pull source := by
  rw [seekOnOr]
  split
  · next e => simp only [e]
  · next e => simp only [e]
  · next e => simp only [e]

/-- Giving up where `seekTo` gives up is `seekTo`, in every state. -/
lemma seekToOr_none (source : Source) (c : Cache) (offset : Nat) :
    c.seekToOr source (.ok none, ·) (.ok none, ·) offset = c.seekTo source offset := by
  have onward : ∀ d : Cache, d.seekOnOr source (.ok none, ·) offset = d.seekOn source offset := by
    intro d
    induction d using seekOn_induction source offset with
    | step d ih =>
      rw [seekOnOr_eq, seekOn_eq]
      rcases yielded : (d.pull source).1 with cause | (_ | span)
      · rfl
      · rfl
      · by_cases before : span.last < offset
        · simp only [if_pos before]
          exact ih span yielded before
        · simp only [if_neg before]
  rw [seekToOr, seekTo]
  cases (c.index.search offset offset).head? with
  | some number => rfl
  | none => simp only [onward]

/-- No new span begins beyond the offset. -/
lemma Presents.seekOnOr_eq_seekOn (h : Presents source c) {offset : Nat}
    (short : ∀ span ∈ c.spans.toList, span.last < offset) (beyond : Cache → Answer × Cache) :
    c.seekOnOr source beyond offset = c.seekOn source offset := by
  induction c using seekOn_induction source offset with
  | step c ih =>
    rw [seekOnOr_eq, seekOn_eq]
    rcases yielded : (c.pull source).1 with cause | (_ | span)
    · rfl
    · rfl
    · by_cases before : span.last < offset
      · simp only [if_pos before]
        obtain ⟨-, presents, -, -⟩ := h.pull_of_span yielded
        exact ih span yielded before presents (h.short_of_pull short yielded before)
      · simp only [if_neg before, if_pos (h.contains_of_pull short yielded before)]

/-- Neither way to give up early is taken. -/
lemma Presents.seekToOr_eq_seekTo (h : Presents source c) (unknown beyond : Cache → Answer × Cache)
    (offset : Nat) : c.seekToOr source unknown beyond offset = c.seekTo source offset := by
  rw [seekToOr, Cache.seekTo]
  cases passed : c.hasPassed offset with
  | true =>
    obtain ⟨number, span, -, -, known⟩ := h.search_of_passed passed
    rw [known]
  | false =>
    rw [h.search_of_ahead passed]
    exact h.seekOnOr_eq_seekOn (h.short_of_ahead passed) beyond

/-- A span that is found further on is the last one seen. -/
lemma Presents.spans_of_found (h : Presents source c) {offset number : Nat} {span : Span}
    {outcome : Answer × Cache} (ahead : c.hasPassed offset = false) (covers : span.contains offset)
    (found : Found source c number span outcome) :
    outcome.2.spans.toList <+: (c.course source).spans ∧ outcome.2.spans.back? = some span := by
  have same : outcome.2.course source = c.course source := course_congr found.format
  have unseen : c.spans.size ≤ number := by
    -- A span that was seen before ends before the offset.
    apply Nat.le_of_not_lt
    intro inside
    have seen : c.spans[number]? = some span := (h.getElem? inside).symm.trans found.numbered
    have before := h.short_of_ahead ahead span (Array.mem_toList_iff.2 (Array.mem_of_getElem? seen))
    exact Span.not_contains before covers
  have size : outcome.2.spans.size = number + 1 := by
    have := found.size
    omega
  refine ⟨same ▸ found.presents.isPrefix, ?_⟩
  rw [Array.back?_eq_getElem?, size, ← found.presents.getElem? (by omega), same]
  exact found.numbered

/-- In every state a seek gives the one span of the course that covers the offset, or else how the course ends,
the first time that its end is reached. It does not walk on for an offset that is passed, walks no further than
to the span it gives, and never gives up early. -/
theorem seekTo_exact (reached : Reachable source format c) (offset : Nat) :
    ∃ w, Walk.start format 0 .empty = .ok w ∧
      (∀ count, w.results source count = (w.course source).results count) ∧
      (∀ span ∈ (w.course source).spans, span.contains offset →
        (c.seekTo source offset).1 = .ok (some span) ∧
          ∀ other ∈ (w.course source).spans, other.contains offset → other = span) ∧
      ((∀ span ∈ (w.course source).spans, ¬span.contains offset) →
        (c.seekTo source offset).1 = (if c.isExhausted then .ok none else (w.course source).closing) ∧
          (c.seekTo source offset).2.isExhausted = true) ∧
      (∀ call, c.isExhausted = true → (c.call source call).2.isExhausted = true) ∧
      (c.hasPassed offset = true →
        (c.seekTo source offset).2.walk = c.walk ∧ (c.seekTo source offset).2.log = c.log ∧
          (c.seekTo source offset).2.spans = c.spans) ∧
      (∀ span, c.hasPassed offset = false → (c.seekTo source offset).1 = .ok (some span) →
        (c.seekTo source offset).2.spans.toList <+: (w.course source).spans ∧
          (c.seekTo source offset).2.spans.back? = some span) ∧
      ∀ unknown beyond, c.seekToOr source unknown beyond offset = c.seekTo source offset := by
  obtain ⟨h, rfl, finished⟩ := reached.presents
  refine ⟨.ofLayout c.format.nodes 0 .empty, ?_, Walk.results_eq_course source _, ?_⟩
  · rw [Walk.start, finished]
    rfl
  rw [← Cache.course]
  have tiles := c.course_tiles source
  refine ⟨fun span member covers => ?_, fun uncovered => ?_, fun call => (h.call call).2.2,
    fun passed => ?_, fun span ahead given => ?_,
    fun unknown beyond => h.seekToOr_eq_seekTo unknown beyond offset⟩
  · refine ⟨?_, fun other member' covers' => tiles.eq_of_contains member' member covers' covers⟩
    obtain ⟨number, other, covers', found⟩ | ⟨short, -⟩ := h.seekTo offset
    · rw [found.answer, tiles.eq_of_contains (List.mem_of_getElem? found.numbered) member covers' covers]
    · exact absurd covers (Span.not_contains (short span member))
  · obtain ⟨number, other, covers, found⟩ | ⟨-, missed⟩ := h.seekTo offset
    · exact absurd covers (uncovered other (List.mem_of_getElem? found.numbered))
    · exact ⟨missed.answer, missed.exhausted⟩
  · obtain ⟨number, other, -, -, known⟩ := h.search_of_passed passed
    rw [Cache.seekTo, known]
    exact ⟨rfl, rfl, rfl⟩
  · obtain ⟨number, other, covers, found⟩ | ⟨-, missed⟩ := h.seekTo offset
    · rw [found.answer] at given
      cases given
      exact h.spans_of_found ahead covers found
    · rw [missed.answer] at given
      exact absurd given (closing_ne_span span)

/-- After a seek that has failed, the next one still finds its span. -/
theorem seekTo_exact_entries :
    ∃ fresh, Cache.start .entries = .ok fresh ∧
      Reachable (.ofBytes #[1, 7, 2, 8, 9]) .entries (fresh.call (.ofBytes #[1, 7, 2, 8, 9]) (.seekTo 5)).2 ∧
      (fresh.call (.ofBytes #[1, 7, 2, 8, 9]) (.seekTo 5)).1 = .error (.io (.outOfRange 1 5)) ∧
      ((fresh.call (.ofBytes #[1, 7, 2, 8, 9]) (.seekTo 5)).2.seekTo (.ofBytes #[1, 7, 2, 8, 9]) 3).1 =
        .ok (some ⟨"Entry > Data", .green, 3, 4⟩) := by
  have started : Cache.start .entries = .ok (ofFormat .entries .empty) := start_of_finished rfl
  have fresh : Reachable (.ofBytes #[1, 7, 2, 8, 9]) .entries (ofFormat .entries .empty) := .start started
  have spent := fresh.call (.seekTo 5)
  have spans : (Walk.course (.ofBytes #[1, 7, 2, 8, 9]) (.ofLayout Format.entries.nodes 0 .empty)).spans =
      [⟨"Entry > Length", .red, 0, 0⟩, ⟨"Entry > Data", .green, 1, 1⟩,
        ⟨"Entry > Length", .red, 2, 2⟩, ⟨"Entry > Data", .green, 3, 4⟩] := by
    iterate 5 rw [Walk.course_eq]
    cbv
  refine ⟨_, started, spent, ?_, ?_⟩
  · obtain ⟨w, walk, -, -, missed, -⟩ := seekTo_exact fresh 5
    cases walk
    refine (missed (by rw [spans]; decide)).1.trans ?_
    iterate 5 rw [Walk.course_eq]
    cbv
  · obtain ⟨w, walk, -, found, -⟩ := seekTo_exact spent 3
    cases walk
    exact (found _ (by rw [spans]; decide) rfl).1

end ByteAtlas.Cache
