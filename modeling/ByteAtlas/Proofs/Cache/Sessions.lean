import ByteAtlas.Proofs.Cache.Calls

/-!
# Sessions

All that may be asked of a cache, in any order and with the source as it is at every request. Whatever a cache has
been through, once it has started over, by itself or because it was told to, nothing of that is left: it cannot be
told from a new cache of its format (`Cache.restart_fresh`). Only the reads are counted on, and no request looks at
their number (`Cache.session_readingMore`).
-/

namespace ByteAtlas

/-- Anything that may be asked of a cache. -/
inductive Request
  | call (call : Call)
  | onChange (offset length : Nat)
  | invalidate

/-- What a request gets: a span, the end or an error; whether a change matters; or nothing. -/
inductive Reply
  | answer (answer : Answer)
  | matters (matters : Bool)
  | done

/-- Requests in order, each with the source as it is then. -/
abbrev Session := List (Source × Request)

/-- What can be seen of a cache from outside. -/
structure View where
  format : Format
  spans : List Span
  current : Option Span
  exhausted : Bool
  touched : List (Nat × Nat)

namespace Cache

/-- Serves one request. -/
def serve (source : Source) (c : Cache) : Request → Reply × Cache
  | .call call => (.answer (c.call source call).1, (c.call source call).2)
  | .onChange offset length => (.matters (c.onChange offset length).1, (c.onChange offset length).2)
  | .invalidate => (.done, c.invalidate)

/-- Serves requests in order, and gives what they get. -/
def session (c : Cache) : Session → List Reply × Cache
  | [] => ([], c)
  | (source, first) :: later =>
    let (reply, served) := c.serve source first
    let (replies, served) := session served later
    (reply :: replies, served)

/-- What can be seen of a cache. -/
def view (c : Cache) : View where
  format := c.format
  spans := c.spans.toList
  current := c.current?
  exhausted := c.isExhausted
  touched := c.log.ranges

/-- A cache that has made some more reads, and is the same otherwise. -/
def readingMore (c : Cache) (extra : Nat) : Cache :=
  { c with log := { c.log with calls := c.log.calls + extra } }

/-- Whether a cache has just started over and cannot be told from a fresh one from now on: nothing is seen of it, and
in every session the two get the same, look the same afterwards and have read as often. -/
structure StartsOver (c fresh : Cache) : Prop where
  view_eq : c.view = ⟨fresh.format, [], none, false, []⟩
  replies : ∀ later, (c.session later).1 = (fresh.session later).1
  views : ∀ later, (c.session later).2.view = (fresh.session later).2.view
  reads : ∀ later, (c.session later).2.log.calls + fresh.log.calls = (fresh.session later).2.log.calls + c.log.calls

variable {source : Source} {c : Cache} {extra : Nat}

section ReadingMore

lemma pull_readingMore :
    (c.readingMore extra).pull source = ((c.pull source).1, (c.pull source).2.readingMore extra) := by
  have record : ∀ request, ReadLog.recordRequest { c.log with calls := c.log.calls + extra } request =
      { c.log.recordRequest request with calls := (c.log.recordRequest request).calls + extra } := by
    intro request
    cases request with
    | none => rfl
    | some asked => simp only [ReadLog.recordRequest, ReadLog.record, Nat.add_right_comm]
  simp only [pull, readingMore, record]
  split <;> rfl

lemma next_readingMore :
    (c.readingMore extra).next source = ((c.next source).1, (c.next source).2.readingMore extra) := by
  by_cases seen : c.cursor < c.spans.size
  · rw [next_of_seen seen, next_of_seen (c := c.readingMore extra) seen]
    rfl
  · have unseen := Nat.not_lt.1 seen
    rw [next_of_unseen unseen, next_of_unseen (c := c.readingMore extra) unseen, pull_readingMore]
    dsimp only
    split <;> rfl

lemma seekOn_readingMore (offset : Nat) :
    (c.readingMore extra).seekOn source offset =
      ((c.seekOn source offset).1, (c.seekOn source offset).2.readingMore extra) := by
  induction c using seekOn_induction source offset with
  | step c ih =>
    rw [seekOn_eq source c, seekOn_eq source (c.readingMore extra), pull_readingMore]
    dsimp only
    split
    · next span yielded =>
      split
      · next short => exact ih span yielded short
      · split <;> rfl
    · rfl

lemma seekTo_readingMore (offset : Nat) :
    (c.readingMore extra).seekTo source offset =
      ((c.seekTo source offset).1, (c.seekTo source offset).2.readingMore extra) := by
  have passed : (c.readingMore extra).hasPassed offset = c.hasPassed offset := rfl
  have known : (c.readingMore extra).index = c.index := rfl
  rw [seekTo, seekTo, passed, known, seekOn_readingMore]
  split
  · rfl
  · split <;> rfl

lemma onChange_readingMore (offset length : Nat) :
    (c.readingMore extra).onChange offset length =
      ((c.onChange offset length).1, (c.onChange offset length).2.readingMore extra) := by
  have touched : (c.readingMore extra).log.wasTouched = c.log.wasTouched := rfl
  rw [onChange, onChange, touched]
  split
  · rfl
  · split <;> rfl

lemma serve_readingMore (request : Request) :
    (c.readingMore extra).serve source request =
      ((c.serve source request).1, (c.serve source request).2.readingMore extra) := by
  cases request with
  | call call =>
    cases call with
    | next => simp only [serve, call, next_readingMore]
    | seekTo offset => simp only [serve, call, seekTo_readingMore]
  | onChange offset length => simp only [serve, onChange_readingMore]
  | invalidate => rfl

/-- How often a cache has read makes no difference to a session. -/
lemma session_readingMore (later : Session) :
    (c.readingMore extra).session later = ((c.session later).1, (c.session later).2.readingMore extra) := by
  induction later generalizing c with
  | nil => rfl
  | cons first later ih => simp only [session, serve_readingMore, ih]

end ReadingMore

/-- A change that matters makes the cache start over, any other leaves it as it is. -/
lemma onChange_snd (c : Cache) (offset length : Nat) :
    (c.onChange offset length).2 = if (c.onChange offset length).1 then c.invalidate else c := by
  rw [onChange]
  split
  · rfl
  · split <;> rfl

/-- What pulling and landing keep, and starting over, is kept by every session. -/
lemma session_preserves (kept : Cache → Prop) (pull : ∀ source c, kept c → kept (c.pull source).2)
    (land : ∀ c number, kept c → kept (c.land number).2) (restart : ∀ c, kept c → kept c.invalidate)
    (requests : Session) (h : kept c) : kept (c.session requests).2 := by
  induction requests generalizing c with
  | nil => exact h
  | cons first later ih =>
    obtain ⟨source, request⟩ := first
    apply ih
    cases request with
    | call call => exact call_preserves kept (pull source) land call h
    | onChange offset length =>
      show kept (c.onChange offset length).2
      rw [onChange_snd]
      split
      · exact restart c h
      · exact h
    | invalidate => exact restart c h

lemma session_snd_append (c : Cache) (earlier later : Session) :
    (c.session (earlier ++ later)).2 = ((c.session earlier).2.session later).2 := by
  induction earlier generalizing c with
  | nil => rfl
  | cons first earlier ih => exact ih _

/-- A cache keeps its format. -/
lemma format_session (c : Cache) (requests : Session) : (c.session requests).2.format = c.format :=
  session_preserves (fun after => after.format = c.format) (fun source after h => by rw [pull_snd]; exact h)
    (fun _ _ h => h) (fun _ h => h) requests rfl

/-- A cache that has started over is a fresh one that has made the reads of the old one. -/
lemma invalidate_eq (c : Cache) : c.invalidate = (ofFormat c.format .empty).readingMore c.log.calls := by
  simp only [invalidate_eq_ofFormat, ofFormat, readingMore, ReadLog.forget, ReadLog.empty, Nat.zero_add]

lemma startsOver_readingMore (format : Format) (extra : Nat) :
    StartsOver ((ofFormat format .empty).readingMore extra) (ofFormat format .empty) where
  view_eq := rfl
  replies later := by rw [session_readingMore]
  views later := by rw [session_readingMore]; rfl
  reads later := by
    rw [session_readingMore]
    simp only [readingMore, ofFormat, ReadLog.empty]
    omega

/-- After any session with a cache of a finished format, over a source that may have changed at any time: once the
cache starts over, because it is told to or because a change matters, it cannot be told from a fresh one. -/
theorem restart_fresh {format : Format} (finished : format.check = .ok ()) :
    ∃ fresh, Cache.start format = .ok fresh ∧ ∀ earlier replies c, fresh.session earlier = (replies, c) →
      StartsOver c.invalidate fresh ∧
      ∀ offset length restarted, c.onChange offset length = (true, restarted) → StartsOver restarted fresh := by
  refine ⟨_, start_of_finished finished, fun earlier replies c served => ?_⟩
  have same : c.format = format := by
    have kept := format_session (ofFormat format .empty) earlier
    rwa [served] at kept
  have anew : StartsOver c.invalidate (ofFormat format .empty) := by
    rw [invalidate_eq, same]
    exact startsOver_readingMore format c.log.calls
  refine ⟨anew, fun offset length restarted mattered => ?_⟩
  have restarts := onChange_snd c offset length
  simp only [mattered, if_pos] at restarts
  rw [restarts]
  exact anew

/-- The third read among the entries fails, the source changes, and the cache is told of the first length: it starts
over. -/
theorem restart_fresh_entries :
    let earlier : Session := [(.ofBytes #[2, 8, 9], .call .next), (.ofBytes #[2, 8, 9], .call .next),
      (.ofBytes #[2, 8, 9], .call .next), (.ofBytes #[1, 8, 9], .onChange 1 1)]
    ∃ fresh replies c restarted, Cache.start .entries = .ok fresh ∧ fresh.session earlier = (replies, c) ∧
      replies = [.answer (.ok (some ⟨"Entry > Length", .red, 0, 0⟩)),
        .answer (.ok (some ⟨"Entry > Data", .green, 1, 2⟩)),
        .answer (.error (.io (.outOfRange 1 3))), .matters false] ∧
      c.isExhausted ∧ c.onChange 0 1 = (true, restarted) ∧
      StartsOver c.invalidate fresh ∧ StartsOver restarted fresh := by
  intro earlier
  have finished : Format.entries.check = .ok () := rfl
  obtain ⟨fresh, started, anew⟩ := restart_fresh finished
  rw [start_of_finished finished] at started
  cases started
  have replied : (session (ofFormat .entries .empty) earlier).1 =
      [.answer (.ok (some ⟨"Entry > Length", .red, 0, 0⟩)),
        .answer (.ok (some ⟨"Entry > Data", .green, 1, 2⟩)),
        .answer (.error (.io (.outOfRange 1 3))), .matters false] := by
    cbv
  have ended : (session (ofFormat .entries .empty) earlier).2.isExhausted := by
    cbv
  have mattered : ((session (ofFormat .entries .empty) earlier).2.onChange 0 1).1 = true := by
    cbv
  obtain ⟨invalidated, changed⟩ := anew earlier _ _ rfl
  exact ⟨_, _, _, _, start_of_finished finished, rfl, replied, ended, Prod.ext mattered rfl, invalidated,
    changed 0 1 _ (Prod.ext mattered rfl)⟩

end Cache
end ByteAtlas
