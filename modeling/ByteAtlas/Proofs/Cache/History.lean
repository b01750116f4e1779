import ByteAtlas.Proofs.Cache.Presents

/-!
# Answers and what was answered before

What a cache answers is settled by the course of its format and by the answers it gave before
(`Course.answer`): the next span is the one after that given last, the span at an offset is the one that covers
it, and where there is no such span the error of the course is told, unless it was told before. A cache that has
given some answers agrees with them in its current span, in its cursor and in whether it has ended
(`Cache.Tracks`); every call keeps that, and so every run gives the answers of its course, whatever the order of
its calls (`Cache.run_eq_replay`).
-/

namespace ByteAtlas

/-- The last span among some answers. -/
def lastGiven (answers : List Answer) : Option Span :=
  answers.foldl (fun last answer => answer.toOption.join.or last) none

/-- Whether an error is among some answers. -/
def hasFailed (answers : List Answer) : Bool := answers.any fun answer => !answer.isOk

namespace Course

/-- The number of the span after the one given last. -/
def position (course : Course) (answers : List Answer) : Nat :=
  (lastGiven answers).elim 0 fun span => course.spans.idxOf span + 1

/-- The span that a call asks for. -/
def wanted (course : Course) (answers : List Answer) : Call → Option Span
  | .next => course.spans[course.position answers]?
  | .seekTo offset => course.spans.find? (·.contains offset)

/-- The answer to a call after some answers. -/
def answer (course : Course) (answers : List Answer) (call : Call) : Answer :=
  match course.wanted answers call with
  | some span => .ok (some span)
  | none => if hasFailed answers then .ok none else course.closing

/-- The answers to calls in order. -/
def replay (course : Course) (calls : List Call) : List Answer :=
  calls.foldl (fun answers call => answers ++ [course.answer answers call]) []

end Course

@[simp] lemma lastGiven_append_span (answers : List Answer) (span : Span) :
    lastGiven (answers ++ [.ok (some span)]) = some span := by
  rw [lastGiven, List.foldl_append]
  rfl

@[simp] lemma lastGiven_append_none (answers : List Answer) :
    lastGiven (answers ++ [.ok none]) = lastGiven answers := by
  rw [lastGiven, List.foldl_append]
  rfl

@[simp] lemma lastGiven_append_error (answers : List Answer) (cause : Error) :
    lastGiven (answers ++ [.error cause]) = lastGiven answers := by
  rw [lastGiven, List.foldl_append]
  rfl

@[simp] lemma hasFailed_append (answers : List Answer) (answer : Answer) :
    hasFailed (answers ++ [answer]) = (hasFailed answers || !answer.isOk) := by
  simp [hasFailed]

namespace Cache

/-- Whether a cache agrees with the answers it gave. -/
structure Tracks (source : Source) (course : Course) (answers : List Answer) (c : Cache) : Prop where
  presents : Presents source c
  course_eq : c.course source = course
  given : c.current? = lastGiven answers
  failed : hasFailed answers = (c.isExhausted && course.stop.isSome)

variable {source : Source} {course : Course} {answers : List Answer} {c : Cache}

/-- The span given last is the one of its number in the course. -/
lemma Presents.current?_eq (h : Presents source c) :
    c.current? = c.last.bind ((c.course source).spans[·]?) := by
  rw [current?]
  cases e : c.last with
  | none => rfl
  | some number => exact (h.getElem? (h.last_lt number e)).symm

namespace Tracks

/-- The cursor stands after the span given last. -/
lemma position_eq (h : Tracks source course answers c) : course.position answers = c.cursor := by
  rw [Course.position, ← h.given, h.presents.current?_eq, h.presents.cursor, h.course_eq]
  cases e : c.last with
  | none => rfl
  | some number =>
    have inside : number < course.spans.length := by
      have := h.presents.last_lt number e
      have := h.presents.size_le
      rw [h.course_eq] at this
      omega
    -- No span comes twice, so the one given last has the number that was landed on.
    have differ : course.spans.Nodup := h.course_eq ▸ (c.course_tiles source).nodup
    simp only [Option.bind_some, List.getElem?_eq_getElem inside, Option.elim_some]
    rw [differ.idxOf_getElem]

/-- What there is to say at the end is the error, unless it was told before. -/
lemma closing_eq (h : Tracks source course answers c) :
    c.closing source = if hasFailed answers then .ok none else course.closing := by
  rw [closing, h.failed, h.course_eq]
  cases c.isExhausted with
  | false => rfl
  | true =>
    cases e : course.stop with
    | none => simp [Course.closing, e]
    | some cause => rfl

/-- A call that finds a span gives the answer of the course. -/
lemma of_found (h : Tracks source course answers c) {number : Nat} {span : Span} {outcome : Answer × Cache}
    (found : Found source c number span outcome) :
    Tracks source course (answers ++ [outcome.1]) outcome.2 := by
  have same : outcome.2.course source = course := (course_congr found.format).trans h.course_eq
  refine ⟨found.presents, same, ?_, ?_⟩
  · rw [found.presents.current?_eq, found.last, same, found.answer, lastGiven_append_span, ← h.course_eq]
    exact found.numbered
  · rw [found.answer, hasFailed_append, h.failed, found.exhausted]
    exact Bool.or_false _

/-- A call that finds no span gives the answer of the course. -/
lemma of_missed (h : Tracks source course answers c) {outcome : Answer × Cache}
    (missed : Missed source c outcome) : Tracks source course (answers ++ [outcome.1]) outcome.2 := by
  have same : outcome.2.course source = course := (course_congr missed.format).trans h.course_eq
  have given : outcome.2.current? = lastGiven answers := by
    rw [missed.presents.current?_eq, missed.last, same, ← h.course_eq, ← h.presents.current?_eq, h.given]
  refine ⟨missed.presents, same, ?_, ?_⟩
  · rw [given, missed.answer]
    cases e : c.closing source with
    | error cause => rw [lastGiven_append_error]
    | ok answer =>
      cases answer with
      | none => rw [lastGiven_append_none]
      | some span => exact absurd e (closing_ne_span span)
  · rw [missed.answer, missed.exhausted, hasFailed_append, h.failed, closing, h.course_eq, Course.closing]
    cases c.isExhausted with
    | true => exact Bool.or_false _
    | false => cases course.stop <;> rfl

/-- The answer to the next call is that of the course. -/
lemma answer_eq (h : Tracks source course answers c) (call : Call) :
    (c.call source call).1 = course.answer answers call := by
  have missing : ∀ outcome, Missed source c outcome → course.wanted answers call = none →
      outcome.1 = course.answer answers call := by
    intro outcome missed none
    rw [missed.answer, h.closing_eq, Course.answer, none]
  cases call with
  | next =>
    rw [Cache.call]
    have wanted : course.wanted answers .next = (c.course source).spans[c.cursor]? := by
      rw [Course.wanted, h.position_eq, h.course_eq]
    obtain ⟨span, found⟩ | ⟨beyond, missed⟩ := h.presents.next
    · rw [found.answer, Course.answer, wanted, found.numbered]
    · exact missing _ missed (wanted.trans (List.getElem?_eq_none beyond))
  | seekTo offset =>
    rw [Cache.call]
    have wanted : course.wanted answers (.seekTo offset) =
        (c.course source).spans.find? (·.contains offset) := by
      rw [Course.wanted, h.course_eq]
    obtain ⟨number, span, covers, found⟩ | ⟨short, missed⟩ := h.presents.seekTo offset
    · have tiles := c.course_tiles source
      have member : span ∈ (c.course source).spans := List.mem_of_getElem? found.numbered
      have first : (c.course source).spans.find? (·.contains offset) = some span := by
        cases e : (c.course source).spans.find? (·.contains offset) with
        | none => exact absurd covers (List.find?_eq_none.1 e span member)
        | some other =>
          have covers' : other.contains offset := by simpa using List.find?_some e
          rw [tiles.eq_of_contains member (List.mem_of_find?_eq_some e) covers covers']
      rw [found.answer, Course.answer, wanted, first]
    · refine missing _ missed (wanted.trans (List.find?_eq_none.2 ?_))
      exact fun span member => Span.not_contains (short span member)

/-- Every call keeps a cache in agreement with its answers. -/
lemma call (h : Tracks source course answers c) (call : Call) :
    Tracks source course (answers ++ [(c.call source call).1]) (c.call source call).2 := by
  cases call with
  | next =>
    obtain ⟨span, found⟩ | ⟨-, missed⟩ := h.presents.next
    · exact h.of_found found
    · exact h.of_missed missed
  | seekTo offset =>
    obtain ⟨number, span, -, found⟩ | ⟨-, missed⟩ := h.presents.seekTo offset
    · exact h.of_found found
    · exact h.of_missed missed

end Tracks

/-- A run of a new cache gives the answers of its course and agrees with them. -/
lemma run_tracks (source : Source) (format : Format) (calls : List Call) :
    (run source (ofFormat format .empty) calls).1 =
        ((ofFormat format .empty).course source).replay calls ∧
      Tracks source ((ofFormat format .empty).course source)
        (run source (ofFormat format .empty) calls).1 (run source (ofFormat format .empty) calls).2 := by
  induction calls using List.reverseRecOn with
  | nil => exact ⟨rfl, presents_ofFormat source format .empty, rfl, rfl, rfl⟩
  | append_singleton calls call ih =>
    obtain ⟨same, tracks⟩ := ih
    rw [run_append]
    refine ⟨?_, tracks.call call⟩
    rw [Course.replay, List.foldl_append, ← Course.replay, ← same]
    exact congrArg (_ ++ [·]) (tracks.answer_eq call)

/-- A cache of a finished format presents the results of one walk from the start of the format, whatever the
order of the calls: its spans are the first of the walk, its answers are settled by the answers before them, its
current span is the last that was given, and it walks on for the next span only if that is not seen yet. -/
theorem run_eq_replay {format : Format} (finished : format.check = .ok ()) (source : Source) :
    ∃ w fresh, Walk.start format 0 .empty = .ok w ∧ Cache.start format = .ok fresh ∧
      (∀ count, w.results source count = (w.course source).results count) ∧
      ∀ calls answers c, fresh.run source calls = (answers, c) →
        c.spans.toList <+: (w.course source).spans ∧
        answers = (w.course source).replay calls ∧
        c.current? = lastGiven answers ∧
        ((w.course source).position answers < c.spans.size →
          (c.next source).2.walk = c.walk ∧ (c.next source).2.log = c.log ∧
            (c.next source).2.spans = c.spans) ∧
        (c.spans.size ≤ (w.course source).position answers →
          (c.next source).2.walk = (c.walk.pull source).walk ∧
            (c.next source).2.log = c.log.recordRequest (c.walk.pull source).request) := by
  refine ⟨.ofLayout format.nodes 0 .empty, ofFormat format .empty, ?_, start_of_finished finished,
    Walk.results_eq_course source _, ?_⟩
  · rw [Walk.start, finished]
    rfl
  intro calls answers c ran
  obtain ⟨same, tracks⟩ := run_tracks source format calls
  rw [ran] at same tracks
  have course_eq : c.course source = (Walk.ofLayout format.nodes 0 .empty).course source := tracks.course_eq
  have position_eq : ((Walk.ofLayout format.nodes 0 .empty).course source).position answers = c.cursor :=
    tracks.position_eq
  refine ⟨?_, same, tracks.given, fun seen => ?_, fun unseen => ?_⟩
  · rw [← course_eq]
    exact tracks.presents.isPrefix
  · rw [position_eq] at seen
    rw [next_of_seen seen]
    exact ⟨rfl, rfl, rfl⟩
  · rw [position_eq] at unseen
    rw [next_of_unseen unseen]
    split
    · exact ⟨walk_pull, log_pull⟩
    · exact ⟨walk_pull, log_pull⟩

/-- Seeks ahead, steps back and an error on the way leave the cache of a few entries on its course. -/
theorem run_eq_replay_entries :
    Format.entries.check = .ok () ∧ ∃ fresh, Cache.start .entries = .ok fresh ∧
      (fresh.run (.ofBytes #[1, 7, 2, 8, 9])
        [.seekTo 2, .next, .seekTo 1, .next, .seekTo 9, .next, .next, .seekTo 5]).1 =
      [.ok (some ⟨"Entry > Length", .red, 2, 2⟩), .ok (some ⟨"Entry > Data", .green, 3, 4⟩),
        .ok (some ⟨"Entry > Data", .green, 1, 1⟩), .ok (some ⟨"Entry > Length", .red, 2, 2⟩),
        .error (.io (.outOfRange 1 5)), .ok (some ⟨"Entry > Data", .green, 3, 4⟩), .ok none, .ok none] := by
  have finished : Format.entries.check = .ok () := rfl
  obtain ⟨w, fresh, started, start, -, follows⟩ := run_eq_replay finished (.ofBytes #[1, 7, 2, 8, 9])
  obtain ⟨-, same, -⟩ := follows _ _ _ rfl
  refine ⟨finished, fresh, start, same.trans ?_⟩
  cases started
  iterate 5 rw [Walk.course_eq]
  cbv

end Cache
end ByteAtlas
