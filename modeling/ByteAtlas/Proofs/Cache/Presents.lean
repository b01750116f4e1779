import ByteAtlas.Proofs.Cache.Calls
import ByteAtlas.Proofs.IntervalIndex
import ByteAtlas.Proofs.Walk.Course

/-!
# Caches present a course

A cache shows a part of the course of its format, and its walk stands at the end of that part
(`Cache.Presents`). Every call either finds the span of some number of the course and has seen everything up to
there (`Cache.Found`), or it misses, and then the course has run out (`Cache.Missed`). Which of both it is, and
which number it is, does not depend on how much was seen before (`Cache.Presents.next`,
`Cache.Presents.seekTo`).
-/

namespace ByteAtlas.Cache

/-- All that the format of a cache has to give, from its start on. -/
def course (source : Source) (c : Cache) : Course := (Walk.ofLayout c.format.nodes 0 .empty).course source

/-- What there is to say when the spans have run out: how they end, but only once. -/
def closing (source : Source) (c : Cache) : Answer :=
  if c.isExhausted then .ok none else (c.course source).closing

/-- Whether the spans seen so far are the first of the course, the walk stands right after them, the index
knows each of them by its number, and the cursor stands after the span given last. -/
structure Presents (source : Source) (c : Cache) : Prop where
  split : (c.course source).spans = c.spans.toList ++ (c.walk.course source).spans
  stop : c.isExhausted = false → (c.walk.course source).stop = (c.course source).stop
  index : c.index.toList = c.spans.toList.zipIdx.map fun (span, number) => (span.first, span.last, number)
  cursor : c.cursor = c.last.elim 0 (· + 1)
  last_lt : ∀ number ∈ c.last, number < c.spans.size

/-- A call that gives the span of a number, and for that has seen the spans up to it and no others. -/
structure Found (source : Source) (c : Cache) (number : Nat) (span : Span) (outcome : Answer × Cache) :
    Prop where
  numbered : (c.course source).spans[number]? = some span
  answer : outcome.1 = .ok (some span)
  presents : Presents source outcome.2
  format : outcome.2.format = c.format
  last : outcome.2.last = some number
  size : outcome.2.spans.size = max c.spans.size (number + 1)
  exhausted : outcome.2.isExhausted = c.isExhausted

/-- A call that finds the course run out. -/
structure Missed (source : Source) (c : Cache) (outcome : Answer × Cache) : Prop where
  answer : outcome.1 = c.closing source
  presents : Presents source outcome.2
  format : outcome.2.format = c.format
  last : outcome.2.last = c.last
  exhausted : outcome.2.isExhausted = true

variable {source : Source} {c : Cache}

lemma isExhausted_iff : c.isExhausted = true ↔ c.walk.stack = [] := List.isEmpty_iff

lemma course_congr {d : Cache} (same : d.format = c.format) : d.course source = c.course source := by
  rw [course, same, course]

lemma format_pull : (c.pull source).2.format = c.format := by
  rw [pull_snd]

lemma walk_pull : (c.pull source).2.walk = (c.walk.pull source).walk := by
  rw [pull_snd]

lemma log_pull : (c.pull source).2.log = c.log.recordRequest (c.walk.pull source).request := by
  rw [pull_snd]

/-- Where a pull does not give the end there is something left to walk. -/
lemma going_of_answer (answered : (c.walk.pull source).result ≠ .ok none) : c.isExhausted = false := by
  rw [← Bool.not_eq_true, isExhausted_iff]
  intro done
  rw [Walk.pull_of_done done] at answered
  exact answered rfl

lemma closing_ne_span (span : Span) : c.closing source ≠ .ok (some span) := by
  rw [closing, Course.closing]
  split
  · nofun
  · cases (c.course source).stop <;> nofun

/-- The spans of a course lie side by side from the first offset on. -/
lemma course_tiles (source : Source) (c : Cache) : TilesFrom 0 (c.course source).spans :=
  Walk.course_tiles source (.ofLayout c.format.nodes 0 .empty)

/-- A new cache presents its course. -/
lemma presents_ofFormat (source : Source) (format : Format) (log : ReadLog) :
    Presents source (ofFormat format log) where
  split := rfl
  stop _ := rfl
  index := rfl
  cursor := rfl
  last_lt := nofun

namespace Presents

/-- What is seen has its number in the course. -/
lemma getElem? (h : Presents source c) {number : Nat} (seen : number < c.spans.size) :
    (c.course source).spans[number]? = c.spans[number]? := by
  rw [h.split, List.getElem?_append_left (by simpa using seen), Array.getElem?_toList]

/-- What is seen are the first spans of the course. -/
lemma isPrefix (h : Presents source c) : c.spans.toList <+: (c.course source).spans :=
  h.split ▸ List.prefix_append _ _

lemma size_le (h : Presents source c) : c.spans.size ≤ (c.course source).spans.length := by
  rw [h.split, List.length_append, Array.length_toList]
  exact Nat.le_add_right _ _

/-- The spans seen so far lie side by side. -/
lemma tiles (h : Presents source c) : TilesFrom 0 c.spans.toList := by
  have tiles := c.course_tiles source
  rw [h.split] at tiles
  exact tiles.of_append

lemma cursor_le (h : Presents source c) : c.cursor ≤ c.spans.size := by
  rw [h.cursor]
  cases e : c.last with
  | none => exact Nat.zero_le _
  | some number => exact h.last_lt number e

/-- Landing on a span that is seen keeps what is presented. -/
lemma land (h : Presents source c) {number : Nat} (seen : number < c.spans.size) :
    Presents source (c.land number).2 where
  split := h.split
  stop := h.stop
  index := h.index
  cursor := rfl
  last_lt := by
    rintro _ ⟨⟩
    exact seen

/-- Landing on a span that is seen finds it. -/
lemma found_land (h : Presents source c) {number : Nat} {span : Span}
    (seen : c.spans[number]? = some span) :
    Found source c number span (.ok c.spans[number]?, (c.land number).2) := by
  obtain ⟨inside, -⟩ := Array.getElem?_eq_some_iff.1 seen
  exact {
    numbered := (h.getElem? inside).trans seen
    answer := congrArg Except.ok seen
    presents := h.land inside
    format := rfl
    last := rfl
    size := (Nat.max_eq_left inside).symm
    exhausted := rfl }

/-- A pull sees one more span, and presents it. -/
lemma pull_of_span (h : Presents source c) {span : Span} (yielded : (c.pull source).1 = .ok (some span)) :
    (c.pull source).2.spans = c.spans.push span ∧ Presents source (c.pull source).2 ∧
      c.isExhausted = false ∧ (c.pull source).2.isExhausted = false := by
  rw [pull_fst] at yielded
  obtain ⟨pushed, indexed⟩ := Cache.pull_of_span yielded
  have onward := Walk.course_of_span yielded
  have going : c.isExhausted = false := going_of_answer (by rw [yielded]; nofun)
  have split : (c.course source).spans =
      c.spans.toList ++ span :: ((c.walk.pull source).walk.course source).spans := by
    rw [h.split, onward]
  have tiles := c.course_tiles source
  rw [split] at tiles
  refine ⟨pushed, ?_, going, ?_⟩
  · constructor
    · rw [course_congr format_pull, split, pushed, walk_pull, Array.toList_push, List.append_assoc]
      rfl
    · intro _
      rw [course_congr format_pull, ← h.stop going, walk_pull, onward]
    · -- The new span begins after all that are indexed, so it is indexed as the last.
      have first_le_last := tiles.first_le_last span (by simp)
      obtain ⟨-, -, before⟩ := List.pairwise_append.1 tiles.pairwise
      rw [indexed, IntervalIndex.toList_insert_last, h.index, pushed, Array.toList_push, List.zipIdx_append]
      · simp [Nat.min_eq_left first_le_last, Nat.max_eq_right first_le_last]
      · intro x member
        rw [h.index, List.mem_map] at member
        obtain ⟨⟨s, number⟩, member, rfl⟩ := member
        have seen : s ∈ c.spans.toList := List.fst_mem_of_mem_zipIdx member
        have := before s seen span List.mem_cons_self
        have := h.tiles.first_le_last s seen
        dsimp only
        omega
    · rw [pull_snd]
      exact h.cursor
    · rw [pushed, pull_snd, Array.size_push]
      exact fun number member => Nat.lt_succ_of_lt (h.last_lt number member)
  · rw [← Bool.not_eq_true, isExhausted_iff, walk_pull]
    exact Walk.stack_of_span yielded

/-- A pull without a span finds the course run out. -/
lemma pull_of_ended (h : Presents source c) (ended : ∀ span, (c.pull source).1 ≠ .ok (some span)) :
    (c.course source).spans = c.spans.toList ∧ Missed source c (c.pull source) := by
  rw [pull_fst] at ended
  obtain ⟨spans, indexed⟩ := Cache.pull_of_ended ended
  obtain ⟨none, last_word⟩ := Walk.course_of_ended ended
  have done : (c.pull source).2.walk.stack = [] := by
    rw [walk_pull]
    exact (Walk.pull_ended ended).1
  have split : (c.course source).spans = c.spans.toList := by
    rw [h.split, none, List.append_nil]
  refine ⟨split, ?_, ?_, format_pull, by rw [pull_snd], isExhausted_iff.2 done⟩
  · rw [pull_fst, closing, ← last_word]
    split
    · next exhausted => rw [Walk.course_of_done (isExhausted_iff.1 exhausted)]; rfl
    · next going => rw [Course.closing, h.stop (Bool.not_eq_true _ ▸ going), Course.closing]
  · constructor
    · rw [course_congr format_pull, split, spans, Walk.course_of_done done, List.append_nil]
    · intro going
      rw [isExhausted_iff.2 done] at going
      cases going
    · rw [indexed, spans]
      exact h.index
    · rw [pull_snd]
      exact h.cursor
    · rw [spans, pull_snd]
      exact h.last_lt

/-- What is found after one more pull is found. -/
lemma found_of_pull (h : Presents source c) {pulled span : Span} {number : Nat} {outcome : Answer × Cache}
    (yielded : (c.pull source).1 = .ok (some pulled)) (beyond : c.spans.size ≤ number)
    (found : Found source (c.pull source).2 number span outcome) : Found source c number span outcome := by
  obtain ⟨pushed, -, going, going'⟩ := h.pull_of_span yielded
  exact {
    numbered := course_congr format_pull ▸ found.numbered
    answer := found.answer
    presents := found.presents
    format := found.format.trans format_pull
    last := found.last
    size := by
      have size := found.size
      rw [pushed, Array.size_push] at size
      omega
    exhausted := found.exhausted.trans (going'.trans going.symm) }

/-- What is missed after one more pull is missed. -/
lemma missed_of_pull (h : Presents source c) {pulled : Span} {outcome : Answer × Cache}
    (yielded : (c.pull source).1 = .ok (some pulled))
    (missed : Missed source (c.pull source).2 outcome) : Missed source c outcome := by
  obtain ⟨-, -, going, going'⟩ := h.pull_of_span yielded
  exact {
    answer := by rw [missed.answer, closing, closing, going, going', course_congr format_pull]
    presents := missed.presents
    format := missed.format.trans format_pull
    last := by rw [missed.last, pull_snd]
    exhausted := missed.exhausted }

/-- A span that is pulled and landed on is found. -/
lemma found_landLast (h : Presents source c) {span : Span}
    (yielded : (c.pull source).1 = .ok (some span)) :
    Found source c c.spans.size span
      (.ok (c.pull source).2.landLast.1, (c.pull source).2.landLast.2) := by
  obtain ⟨pushed, presents, -, -⟩ := h.pull_of_span yielded
  have seen : (c.pull source).2.spans[c.spans.size]? = some span := by
    rw [pushed]
    exact Array.getElem?_push_size
  rw [landLast, pushed, Array.size_push]
  exact h.found_of_pull yielded (Nat.le_refl _) (presents.found_land seen)

/-- The next span is the one after that given last. -/
lemma next (h : Presents source c) :
    (∃ span, Found source c c.cursor span (c.next source)) ∨
      (c.course source).spans.length ≤ c.cursor ∧ Missed source c (c.next source) := by
  by_cases seen : c.cursor < c.spans.size
  · left
    rw [next_of_seen seen]
    exact ⟨_, h.found_land (Array.getElem?_eq_getElem seen)⟩
  have unseen := Nat.not_lt.1 seen
  have cursor : c.cursor = c.spans.size := Nat.le_antisymm h.cursor_le unseen
  rw [next_of_unseen unseen]
  split
  · next span yielded =>
    left
    rw [cursor]
    exact ⟨span, h.found_landLast yielded⟩
  · next ended =>
    right
    obtain ⟨split, missed⟩ := h.pull_of_ended ended
    refine ⟨?_, missed⟩
    rw [split, Array.length_toList]
    exact unseen

/-- The index finds the first span seen that covers an offset. -/
lemma head?_search (h : Presents source c) (offset : Nat) :
    (c.index.search offset offset).head? = c.spans.toList.findIdx? (·.contains offset) := by
  rw [IntervalIndex.search_eq, h.index, List.head?_map, List.head?_filter, List.find?_map,
    List.findIdx?_eq_fst_find?_zipIdx, Option.map_map]
  simp [Function.comp_def, Span.contains]

/-- As soon as one span reaches an offset the last one does. -/
lemma hasPassed_iff (h : Presents source c) (offset : Nat) :
    c.hasPassed offset = true ↔ ∃ span ∈ c.spans.toList, offset ≤ span.last := by
  rw [hasPassed, Option.any_eq_true]
  constructor
  · rintro ⟨span, last, reached⟩
    exact ⟨span, Array.mem_toList_iff.2 (Array.mem_of_back? last), by simpa using reached⟩
  · rintro ⟨span, member, reached⟩
    have tiles := h.tiles
    rw [← Array.getLast?_toList]
    obtain none | ⟨before, last, split⟩ := List.eq_nil_or_concat c.spans.toList
    · rw [none] at member
      cases member
    rw [split, List.concat_eq_append] at tiles member ⊢
    refine ⟨last, by simp, ?_⟩
    -- Whatever reaches the offset, the last span ends no earlier.
    obtain ⟨-, -, ordered⟩ := List.pairwise_append.1 tiles.pairwise
    obtain earlier | same := List.mem_append.1 member
    · have := ordered span earlier last (List.mem_singleton.2 rfl)
      have := tiles.first_le_last last (by simp)
      simp only [decide_eq_true_eq]
      omega
    · rw [← List.mem_singleton.1 same]
      simpa using reached

/-- Before an offset that is not passed all spans seen so far end. -/
lemma short_of_ahead (h : Presents source c) {offset : Nat} (ahead : c.hasPassed offset = false) :
    ∀ span ∈ c.spans.toList, span.last < offset := by
  intro span member
  rw [← Bool.not_eq_true, h.hasPassed_iff] at ahead
  exact Nat.lt_of_not_le fun reached => ahead ⟨span, member, reached⟩

/-- An offset that is passed is known to the index. -/
lemma search_of_passed (h : Presents source c) {offset : Nat} (passed : c.hasPassed offset = true) :
    ∃ number span, c.spans[number]? = some span ∧ span.contains offset ∧
      (c.index.search offset offset).head? = some number := by
  obtain ⟨s, member, covers⟩ := h.tiles.covers (Nat.zero_le _) ((h.hasPassed_iff offset).1 passed)
  rw [h.head?_search]
  cases e : c.spans.toList.findIdx? (·.contains offset) with
  | none =>
    have := List.findIdx?_eq_none_iff.1 e s member
    rw [covers] at this
    cases this
  | some number =>
    obtain ⟨inside, covers, -⟩ := List.findIdx?_eq_some_iff_getElem.1 e
    refine ⟨number, c.spans.toList[number], ?_, covers, rfl⟩
    rw [← Array.getElem?_toList]
    exact List.getElem?_eq_getElem inside

/-- An offset that is not passed is not known to the index. -/
lemma search_of_ahead (h : Presents source c) {offset : Nat} (ahead : c.hasPassed offset = false) :
    (c.index.search offset offset).head? = none := by
  rw [h.head?_search, List.findIdx?_eq_none_iff]
  intro span member
  exact Bool.not_eq_true _ ▸ Span.not_contains (h.short_of_ahead ahead span member)

/-- The first span to reach an offset covers it. -/
lemma contains_of_pull (h : Presents source c) {offset : Nat} {span : Span}
    (short : ∀ span ∈ c.spans.toList, span.last < offset) (yielded : (c.pull source).1 = .ok (some span))
    (long : ¬span.last < offset) : span.contains offset := by
  obtain ⟨pushed, presents, -, -⟩ := h.pull_of_span yielded
  have spans : (c.pull source).2.spans.toList = c.spans.toList ++ [span] := by
    rw [pushed, Array.toList_push]
  have reached : ∃ s ∈ (c.pull source).2.spans.toList, offset ≤ s.last := by
    rw [spans]
    exact ⟨span, by simp, Nat.le_of_not_lt long⟩
  obtain ⟨s, member, covers⟩ := presents.tiles.covers (Nat.zero_le _) reached
  rw [spans] at member
  obtain earlier | same := List.mem_append.1 member
  · exact absurd covers (Span.not_contains (short s earlier))
  · rw [← List.mem_singleton.1 same]
    exact covers

/-- A new span that is short of an offset leaves all spans short of it. -/
lemma short_of_pull (h : Presents source c) {offset : Nat} {span : Span}
    (short : ∀ span ∈ c.spans.toList, span.last < offset) (yielded : (c.pull source).1 = .ok (some span))
    (before : span.last < offset) : ∀ span ∈ (c.pull source).2.spans.toList, span.last < offset := by
  obtain ⟨pushed, -, -, -⟩ := h.pull_of_span yielded
  rw [pushed, Array.toList_push]
  intro s member
  obtain earlier | same := List.mem_append.1 member
  · exact short s earlier
  · rw [List.mem_singleton.1 same]
    exact before

/-- A search beyond the spans seen so far finds the span that covers the offset, if there is one. -/
lemma seekOn (h : Presents source c) {offset : Nat} (short : ∀ span ∈ c.spans.toList, span.last < offset) :
    (∃ number span, c.spans.size ≤ number ∧ span.contains offset ∧
      Found source c number span (c.seekOn source offset)) ∨
    (∀ span ∈ (c.course source).spans, span.last < offset) ∧ Missed source c (c.seekOn source offset) := by
  -- Carried along is that all spans seen so far end before the offset.
  induction c using seekOn_induction source offset with
  | step c ih =>
    rw [seekOn_eq]
    split
    · next span yielded =>
      obtain ⟨pushed, presents, -, -⟩ := h.pull_of_span yielded
      split
      · next before =>
        have short' := h.short_of_pull short yielded before
        obtain ⟨number, found_span, beyond, covers, found⟩ | ⟨none, missed⟩ :=
          ih span yielded before presents short'
        · rw [pushed, Array.size_push] at beyond
          exact .inl ⟨number, found_span, Nat.le_of_lt beyond, covers,
            h.found_of_pull yielded (Nat.le_of_lt beyond) found⟩
        · rw [course_congr format_pull] at none
          exact .inr ⟨none, h.missed_of_pull yielded missed⟩
      · next long =>
        have covers := h.contains_of_pull short yielded long
        rw [if_pos covers]
        exact .inl ⟨_, span, Nat.le_refl _, covers, h.found_landLast yielded⟩
    · next ended =>
      obtain ⟨split, missed⟩ := h.pull_of_ended ended
      rw [split]
      exact .inr ⟨short, missed⟩

/-- A seek finds the span that covers the offset, if there is one. -/
lemma seekTo (h : Presents source c) (offset : Nat) :
    (∃ number span, span.contains offset ∧ Found source c number span (c.seekTo source offset)) ∨
    (∀ span ∈ (c.course source).spans, span.last < offset) ∧ Missed source c (c.seekTo source offset) := by
  rw [Cache.seekTo]
  cases passed : c.hasPassed offset with
  | true =>
    obtain ⟨number, span, seen, covers, known⟩ := h.search_of_passed passed
    rw [known]
    exact .inl ⟨number, span, covers, h.found_land seen⟩
  | false =>
    rw [h.search_of_ahead passed]
    obtain ⟨number, span, -, covers, found⟩ | missed := h.seekOn (h.short_of_ahead passed)
    · exact .inl ⟨number, span, covers, found⟩
    · exact .inr missed

end Presents
end ByteAtlas.Cache
