import ByteAtlas.Cache
import ByteAtlas.Proofs.Walk.Pull

/-!
# Calls to a cache

The two calls that ask a cache for spans, runs of them, and the states that a cache gets into. Both calls
come down to pulls and landings, so what those keep is kept by every call and every run
(`Cache.call_preserves`, `Cache.run_preserves`).
-/

namespace ByteAtlas

/-- A request for a span. -/
inductive Call
  | next
  | seekTo (offset : Nat)
deriving DecidableEq, Repr

namespace Cache

/-- Serves one call. -/
def call (source : Source) (c : Cache) : Call → Answer × Cache
  | .next => c.next source
  | .seekTo offset => c.seekTo source offset

/-- Serves calls in order, and gives their answers. -/
def run (source : Source) (c : Cache) : List Call → List Answer × Cache
  | [] => ([], c)
  | first :: later =>
    let (answer, served) := c.call source first
    let (answers, served) := run source served later
    (answer :: answers, served)

/-- The states of a cache of a format over a source that does not change. -/
inductive Reachable (source : Source) (format : Format) : Cache → Prop
  | start {c} : Cache.start format = .ok c → Reachable source format c
  | call {c} (call : Call) : Reachable source format c → Reachable source format (c.call source call).2
  | invalidate {c} : Reachable source format c → Reachable source format c.invalidate
  | onChange {c} (offset length : Nat) :
    Reachable source format c → Reachable source format (c.onChange offset length).2

/-- A finished format has a cache, which has seen nothing. -/
lemma start_of_finished {format : Format} (finished : format.check = .ok ()) :
    Cache.start format = .ok (ofFormat format .empty) := by
  rw [Cache.start, finished]
  rfl

lemma run_append (source : Source) (c : Cache) (calls more : List Call) :
    c.run source (calls ++ more) =
      ((c.run source calls).1 ++ ((c.run source calls).2.run source more).1,
        ((c.run source calls).2.run source more).2) := by
  induction calls generalizing c with
  | nil => rfl
  | cons first later ih => simp only [List.cons_append, run, ih]

variable {source : Source} {c : Cache}

/-- A cache answers a pull as its walk does. -/
lemma pull_fst : (c.pull source).1 = (c.walk.pull source).result := by
  fun_cases pull <;> simp_all

/-- A pull moves the walk and notes its read. What was given stays as it is. -/
lemma pull_snd : (c.pull source).2 = { c with
    walk := (c.walk.pull source).walk
    log := c.log.recordRequest (c.walk.pull source).request
    index := (c.pull source).2.index
    spans := (c.pull source).2.spans } := by
  fun_cases pull <;> simp_all

/-- A span that is pulled is kept and indexed. -/
lemma pull_of_span {span : Span} (yielded : (c.walk.pull source).result = .ok (some span)) :
    (c.pull source).2.spans = c.spans.push span ∧
      (c.pull source).2.index = c.index.insert span.first span.last c.spans.size := by
  fun_cases pull <;> simp_all

/-- A pull without a span leaves the spans and the index. -/
lemma pull_of_ended (ended : ∀ span, (c.walk.pull source).result ≠ .ok (some span)) :
    (c.pull source).2.spans = c.spans ∧ (c.pull source).2.index = c.index := by
  fun_cases pull <;> simp_all

/-- A span that is seen already is given without a pull. -/
lemma next_of_seen (seen : c.cursor < c.spans.size) :
    c.next source = (.ok c.spans[c.cursor]?, (c.land c.cursor).2) := by
  rw [next, if_pos seen]
  rfl

/-- What comes after the spans seen so far is pulled, and a span is landed on. -/
lemma next_of_unseen (unseen : c.spans.size ≤ c.cursor) :
    c.next source =
      match (c.pull source).1 with
      | .ok (some _) => (.ok (c.pull source).2.landLast.1, (c.pull source).2.landLast.2)
      | _ => c.pull source := by
  rw [next, if_neg (Nat.not_lt.2 unseen)]
  split
  · next e => simp only [e]
  · next e => simp only [e]
  · next e => simp only [e]

/-- A search beyond the spans seen so far pulls, and goes on while the spans are short of the offset. -/
lemma seekOn_eq (source : Source) (c : Cache) (offset : Nat) :
    c.seekOn source offset =
      match (c.pull source).1 with
      | .ok (some span) =>
        if span.last < offset then (c.pull source).2.seekOn source offset
        else if span.contains offset then (.ok (c.pull source).2.landLast.1, (c.pull source).2.landLast.2)
        else (.ok none, (c.pull source).2)
      | _ => c.pull source := by
  rw [seekOn]
  split
  · next e => simp only [e]
  · next e => simp only [e]
  · next e => simp only [e]

/-- What holds of a cache if it holds after one more pull, should that be short of an offset, holds always. -/
lemma seekOn_induction (source : Source) (offset : Nat) {motive : Cache → Prop}
    (step : ∀ c, (∀ span, (c.pull source).1 = .ok (some span) → span.last < offset →
      motive (c.pull source).2) → motive c) (c : Cache) : motive c := by
  induction c using seekOn.induct source offset with
  | case1 c span pulled e short ih =>
    apply step
    intro _ _ _
    simpa only [e] using ih
  | case2 c span pulled e long | case3 c span pulled e long =>
    apply step
    intro span' e' short
    rw [e] at e'
    cases e'
    exact absurd short long
  | case4 c pulled e | case5 c cause pulled e =>
    apply step
    intro span' e' short
    rw [e] at e'
    cases e'

section Preserves

variable (kept : Cache → Prop) (pull : ∀ c, kept c → kept (c.pull source).2)
  (land : ∀ c number, kept c → kept (c.land number).2)

include pull land

lemma next_preserves (h : kept c) : kept (c.next source).2 := by
  by_cases seen : c.cursor < c.spans.size
  · rw [next_of_seen seen]
    exact land c _ h
  · rw [next_of_unseen (Nat.not_lt.1 seen)]
    split
    · exact land _ _ (pull c h)
    · exact pull c h

lemma seekOn_preserves (offset : Nat) (h : kept c) : kept (c.seekOn source offset).2 := by
  induction c using seekOn_induction source offset with
  | step c ih =>
    rw [seekOn_eq]
    split
    · next span e =>
      split
      · next short => exact ih span e short (pull c h)
      · split
        · exact land _ _ (pull c h)
        · exact pull c h
    · exact pull c h

lemma seekTo_preserves (offset : Nat) (h : kept c) : kept (c.seekTo source offset).2 := by
  rw [seekTo]
  split
  · exact land c _ h
  · split
    · exact h
    · exact seekOn_preserves kept pull land offset h

/-- What pulling and landing keep is kept by every call. -/
lemma call_preserves (first : Call) (h : kept c) : kept (c.call source first).2 := by
  cases first with
  | next => exact next_preserves kept pull land h
  | seekTo offset => exact seekTo_preserves kept pull land offset h

/-- What pulling and landing keep is kept by every run. -/
lemma run_preserves (calls : List Call) (h : kept c) : kept (c.run source calls).2 := by
  induction calls generalizing c with
  | nil => exact h
  | cons first later ih => exact ih (call_preserves kept pull land first h)

end Preserves

end Cache
end ByteAtlas
