import ByteAtlas.Proofs.Cache.Calls
import ByteAtlas.Proofs.IntervalIndex

/-!
# Changes that a cache may ignore

A cache is told of changed bytes and looks up whether it has asked for any of them. If it has not, then all
that it knows is what a fresh cache would find out from the changed source by the same calls
(`Cache.fresh_of_onChange`): every pull is decided by its one read, every read is in the log, and the log only
grows, so the reads of a whole run lie clear of the change if they do so at its end. Failed reads count like
any other, and so do reads that reach past the largest offset.
-/

namespace ByteAtlas

/-- Whether an offset is one of the `length` offsets from `offset` on. -/
def Within (offset length x : Nat) : Prop := offset ≤ x ∧ x < offset + length ∧ x ≤ maxOffset

instance (offset length x : Nat) : Decidable (Within offset length x) :=
  inferInstanceAs (Decidable (_ ∧ _ ∧ _))

/-- Two sources that answer alike to all reads of some bytes, none of which lies in a range. -/
def Source.AgreeOutside (source edited : Source) (offset length : Nat) : Prop :=
  ∀ start size, start ≤ maxOffset → 0 < size → size ≤ maxOffset →
    (∀ x, Within start size x → ¬Within offset length x) → edited.read start size = source.read start size

/-- A buffer that is overwritten, grown or cut off in a range alone answers alike outside of it. -/
lemma Source.agreeOutside_ofBytes {before after : Array UInt8} {offset length : Nat}
    (same : ∀ x, ¬Within offset length x → after[x]? = before[x]?) :
    (ofBytes before).AgreeOutside (ofBytes after) offset length := by
  intro start size reach some_bytes _ clear
  have byte : ∀ i < size, after[start + i]? = before[start + i]? := by
    intro i inside
    apply same
    intro within
    exact clear (start + i) ⟨by omega, by omega, within.2.2⟩ within
  simp only [ofBytes, slice?_congr some_bytes byte]

namespace ReadLog

variable {log : ReadLog}

lemma mem_ranges {r : Nat × Nat} : r ∈ log.ranges ↔ (r.1, r.2, ()) ∈ log.touched.toList := by
  rw [ranges, List.mem_map]
  constructor
  · rintro ⟨⟨low, high, ⟨⟩⟩, member, rfl⟩
    exact member
  · exact fun member => ⟨_, member, rfl⟩

/-- A read of some bytes adds its range and nothing else. -/
lemma mem_ranges_record {offset length : Nat} (reach : offset ≤ maxOffset) (some_bytes : length ≠ 0)
    {r : Nat × Nat} :
    r ∈ (log.record offset length).ranges ↔ r = (offset, lastOffset offset length) ∨ r ∈ log.ranges := by
  have le := le_lastOffset length reach
  rw [mem_ranges, mem_ranges, record]
  dsimp only
  rw [if_neg some_bytes, IntervalIndex.mem_toList_insert, Nat.min_eq_left le, Nat.max_eq_right le]
  simp [Prod.ext_iff]

/-- A read of some bytes where no range begins behind comes last. -/
lemma ranges_record_last {offset length : Nat} (reach : offset ≤ maxOffset) (some_bytes : length ≠ 0)
    (last : ∀ r ∈ log.ranges, r.1 ≤ offset) :
    (log.record offset length).ranges = log.ranges ++ [(offset, lastOffset offset length)] := by
  have le := le_lastOffset length reach
  have begins : ∀ x ∈ log.touched.toList, x.1 ≤ min offset (lastOffset offset length) := by
    rintro ⟨low, high, ⟨⟩⟩ member
    rw [Nat.min_eq_left le]
    exact last (low, high) (mem_ranges.2 member)
  rw [ranges, record]
  dsimp only
  rw [if_neg some_bytes, IntervalIndex.toList_insert_last () begins, List.map_append, Nat.min_eq_left le,
    Nat.max_eq_right le]
  rfl

/-- No read takes a range away. -/
lemma ranges_subset_recordRequest (log : ReadLog) (request : Option (Nat × Nat)) :
    log.ranges ⊆ (log.recordRequest request).ranges := by
  intro r member
  cases request with
  | none => exact member
  | some asked =>
    rw [mem_ranges] at member ⊢
    simp only [recordRequest, record]
    split
    · exact member
    · exact IntervalIndex.mem_toList_insert.2 (.inr member)

lemma wasTouched_iff {a b : Nat} :
    log.wasTouched a b = true ↔ ∃ r ∈ log.ranges, r.1 ≤ max a b ∧ min a b ≤ r.2 := by
  rw [wasTouched, IntervalIndex.overlaps_iff]
  constructor
  · rintro ⟨⟨low, high, ⟨⟩⟩, member, meets⟩
    exact ⟨(low, high), mem_ranges.2 member, meets⟩
  · rintro ⟨r, member, meets⟩
    exact ⟨_, mem_ranges.1 member, meets⟩

/-- Whether no read has asked for any byte of a range. -/
def Misses (log : ReadLog) (offset length : Nat) : Prop :=
  ∀ r ∈ log.ranges, ∀ x, r.1 ≤ x → x ≤ r.2 → ¬Within offset length x

/-- What a log misses a shorter one misses as well. -/
lemma Misses.mono {shorter : ReadLog} {offset length : Nat} (clear : log.Misses offset length)
    (subset : shorter.ranges ⊆ log.ranges) : shorter.Misses offset length :=
  fun r member => clear r (subset member)

end ReadLog

namespace Cache

variable {source edited : Source} {c : Cache} {offset length : Nat}

/-- A cache that ignores a change stays as it is and has asked for none of the bytes. -/
lemma misses_of_onChange {kept : Cache} (ignored : c.onChange offset length = (false, kept)) :
    kept = c ∧ c.log.Misses offset length := by
  rw [onChange] at ignored
  split at ignored
  · next none =>
    cases ignored
    refine ⟨rfl, fun r _ x _ _ within => ?_⟩
    obtain ⟨low, high, -⟩ := within
    omega
  · split at ignored
    · cases ignored
    · next untouched =>
      cases ignored
      refine ⟨rfl, fun r member x low high within => untouched ?_⟩
      rw [ReadLog.wasTouched_iff]
      obtain ⟨begins, ends, reach⟩ := within
      exact ⟨r, member, by rw [lastOffset]; omega, by omega⟩

/-- A pull whose read lies clear of a change is the same before and after it. -/
lemma pull_congr (agree : source.AgreeOutside edited offset length) (reach : c.walk.offset ≤ maxOffset)
    (clear : (c.pull source).2.log.Misses offset length) : c.pull edited = c.pull source := by
  have same : c.walk.pull edited = c.walk.pull source := by
    apply Walk.pull_congr
    intro start size asked
    obtain none | ⟨type, some⟩ := Walk.request_pull source c.walk
    · rw [none] at asked
      cases asked
    · rw [some] at asked
      cases asked
      refine agree _ _ reach type.width_pos type.width_le ?_
      rintro x ⟨begins, ends, reach'⟩
      refine clear (c.walk.offset, lastOffset c.walk.offset type.width) ?_ x begins ?_
      · rw [pull_snd, some]
        exact (ReadLog.mem_ranges_record reach (Nat.ne_of_gt type.width_pos)).2 (.inl rfl)
      · rw [lastOffset]
        omega
  simp only [pull, same]

/-- What has been asked for is in the log for good. -/
lemma ranges_subset_pull (source : Source) (c : Cache) : c.log.ranges ⊆ (c.pull source).2.log.ranges := by
  rw [pull_snd]
  exact c.log.ranges_subset_recordRequest _

lemma ranges_subset_seekOn (source : Source) (c : Cache) (target : Nat) :
    (c.pull source).2.log.ranges ⊆ (c.seekOn source target).2.log.ranges := by
  have grow : ∀ d : Cache, d.log.ranges ⊆ (d.seekOn source target).2.log.ranges := fun d =>
    seekOn_preserves (fun after => d.log.ranges ⊆ after.log.ranges)
      (fun after h => List.Subset.trans h (ranges_subset_pull source after)) (fun _ _ h => h) target (List.Subset.refl _)
  rw [seekOn_eq]
  split
  · split
    · exact grow _
    · split
      · exact List.Subset.refl _
      · exact List.Subset.refl _
  · exact List.Subset.refl _

lemma ranges_subset_run (source : Source) (c : Cache) (calls : List Call) :
    c.log.ranges ⊆ (c.run source calls).2.log.ranges :=
  run_preserves (fun after => c.log.ranges ⊆ after.log.ranges)
    (fun after h => List.Subset.trans h (ranges_subset_pull source after)) (fun _ _ h => h) calls (List.Subset.refl _)

/-- The walk of a cache stays within the largest offset. -/
lemma reach_pull (source : Source) (c : Cache) (reach : c.walk.offset ≤ maxOffset) :
    (c.pull source).2.walk.offset ≤ maxOffset := by
  rw [pull_snd]
  exact Walk.offset_pull_le reach

lemma next_congr (agree : source.AgreeOutside edited offset length) (reach : c.walk.offset ≤ maxOffset)
    (clear : (c.next source).2.log.Misses offset length) : c.next edited = c.next source := by
  by_cases seen : c.cursor < c.spans.size
  · rw [next_of_seen seen, next_of_seen seen]
  · have unseen := Nat.not_lt.1 seen
    have clear' : (c.pull source).2.log.Misses offset length := by
      rw [next_of_unseen unseen] at clear
      split at clear
      · exact clear
      · exact clear
    rw [next_of_unseen unseen, next_of_unseen unseen, pull_congr agree reach clear']

lemma seekOn_congr (agree : source.AgreeOutside edited offset length) (target : Nat)
    (reach : c.walk.offset ≤ maxOffset) (clear : (c.seekOn source target).2.log.Misses offset length) :
    c.seekOn edited target = c.seekOn source target := by
  induction c using seekOn_induction source target with
  | step c ih =>
    rw [seekOn_eq edited, pull_congr agree reach (clear.mono (ranges_subset_seekOn ..)), seekOn_eq source]
    split
    · next span e =>
      split
      · next short =>
        apply ih span e short (reach_pull source c reach)
        rw [seekOn_eq] at clear
        simpa only [e, if_pos short] using clear
      · rfl
    · rfl

lemma seekTo_congr (agree : source.AgreeOutside edited offset length) (target : Nat)
    (reach : c.walk.offset ≤ maxOffset) (clear : (c.seekTo source target).2.log.Misses offset length) :
    c.seekTo edited target = c.seekTo source target := by
  rw [seekTo] at clear ⊢
  rw [seekTo]
  split
  · rfl
  · next unknown =>
    split
    · rfl
    · next beyond =>
      apply seekOn_congr agree target reach
      simpa only [unknown, if_neg beyond] using clear

/-- A call whose reads lie clear of a change is the same before and after it. -/
lemma call_congr (agree : source.AgreeOutside edited offset length) (first : Call)
    (reach : c.walk.offset ≤ maxOffset) (clear : (c.call source first).2.log.Misses offset length) :
    c.call edited first = c.call source first := by
  cases first with
  | next => exact next_congr agree reach clear
  | seekTo target => exact seekTo_congr agree target reach clear

/-- A run whose reads lie clear of a change is the same before and after it. -/
lemma run_congr (agree : source.AgreeOutside edited offset length) (calls : List Call)
    (reach : c.walk.offset ≤ maxOffset) (clear : (c.run source calls).2.log.Misses offset length) :
    c.run edited calls = c.run source calls := by
  induction calls generalizing c with
  | nil => rfl
  | cons first later ih =>
    -- What the first call reads is in the log at the end of the run.
    have alike := call_congr agree first reach (clear.mono (ranges_subset_run ..))
    have reach' : (c.call source first).2.walk.offset ≤ maxOffset :=
      call_preserves (fun after => after.walk.offset ≤ maxOffset) (reach_pull source) (fun _ _ h => h) first
        reach
    rw [run, alike, run]
    dsimp only
    rw [ih reach' clear]

/-- Whether a cache cannot be told from a fresh one that was asked the same calls of a source, and gave the
same answers. -/
def StandsFor (kept fresh : Cache) (source : Source) (calls : List Call) (answers : List Answer) : Prop :=
  fresh.run source calls = (answers, kept) ∧
    ∀ more, fresh.run source (calls ++ more) =
      (answers ++ (kept.run source more).1, (kept.run source more).2)

/-- A cache that ignores a change of its source is what a fresh cache becomes over the changed source, if it
is asked the same; and so it stays. -/
theorem fresh_of_onChange {format : Format} (finished : format.check = .ok ()) (source : Source)
    (calls : List Call) (offset length : Nat) :
    ∃ fresh, Cache.start format = .ok fresh ∧
      ∀ answers seen kept, fresh.run source calls = (answers, seen) →
        seen.onChange offset length = (false, kept) →
        (∀ edited, source.AgreeOutside edited offset length → kept.StandsFor fresh edited calls answers) ∧
        (∀ before after, source = .ofBytes before →
          (∀ x, ¬Within offset length x → after[x]? = before[x]?) →
          kept.StandsFor fresh (.ofBytes after) calls answers) := by
  refine ⟨_, start_of_finished finished, fun answers seen kept ran ignored => ?_⟩
  obtain ⟨rfl, clear⟩ := misses_of_onChange ignored
  have stands : ∀ edited, source.AgreeOutside edited offset length →
      kept.StandsFor (ofFormat format .empty) edited calls answers := by
    intro edited agree
    have alike := run_congr agree calls (Nat.zero_le _) (by rwa [ran])
    refine ⟨alike.trans ran, fun more => ?_⟩
    rw [run_append, alike, ran]
  refine ⟨stands, ?_⟩
  rintro before after rfl same
  exact stands _ (Source.agreeOutside_ofBytes same)

/-- Overwriting the data of an entry is ignored, although the last read has failed. -/
theorem fresh_of_onChange_entries :
    ∃ fresh answers seen kept, Cache.start .entries = .ok fresh ∧
      fresh.run (.ofBytes #[2, 8, 9]) [.next, .next, .next] = (answers, seen) ∧
      answers = [.ok (some ⟨"Entry > Length", .red, 0, 0⟩), .ok (some ⟨"Entry > Data", .green, 1, 2⟩),
        .error (.io (.outOfRange 1 3))] ∧
      seen.onChange 1 2 = (false, kept) ∧
      kept.StandsFor fresh (.ofBytes #[2, 6, 7]) [.next, .next, .next] answers := by
  have finished : Format.entries.check = .ok () := rfl
  obtain ⟨fresh, started, stands⟩ :=
    fresh_of_onChange finished (.ofBytes #[2, 8, 9]) [.next, .next, .next] 1 2
  have same : ∀ x, ¬Within 1 2 x → (#[2, 6, 7] : Array UInt8)[x]? = (#[2, 8, 9] : Array UInt8)[x]? := by
    intro x clear
    match x with
    | 0 => rfl
    | 1 => exact absurd (by decide) clear
    | 2 => exact absurd (by decide) clear
    | x + 3 => rfl
  rw [start_of_finished finished] at started
  cases started
  have answered : (run (.ofBytes #[2, 8, 9]) (ofFormat .entries .empty) [.next, .next, .next]).1 =
      [.ok (some ⟨"Entry > Length", .red, 0, 0⟩), .ok (some ⟨"Entry > Data", .green, 1, 2⟩),
        .error (.io (.outOfRange 1 3))] := by
    cbv
  have ignored : ((run (.ofBytes #[2, 8, 9]) (ofFormat .entries .empty) [.next, .next, .next]).2.onChange
      1 2).1 = false := by
    cbv
  exact ⟨_, _, _, _, start_of_finished finished, rfl, answered, Prod.ext ignored rfl,
    (stands _ _ _ rfl (Prod.ext ignored rfl)).2 _ _ rfl same⟩

end Cache
end ByteAtlas
