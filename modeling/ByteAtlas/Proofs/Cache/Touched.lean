import ByteAtlas.Proofs.Cache.Changes
import ByteAtlas.Proofs.Cache.Presents
import ByteAtlas.Proofs.Cache.Sessions

/-!
# What a cache has asked for

Every call comes down to visits: its pulls, each with the scalar field that the walk came to, if it came to one
(`Cache.Visits`). The visits of a session since the cache last started over (`Cache.Since`) say exactly what the cache
has asked its source for (`Cache.Records`): the bytes of every scalar field among them, in the order of their offsets,
and nothing for any other field. Landing on a span asks for nothing, so looking back does not change what was asked
for, and a change matters if and only if it meets what was asked for (`Cache.touched_exact`).
-/

namespace ByteAtlas

/-- A pull as it is seen from outside: the scalar field that it came to, if it came to one, where it was, and what it
gave. -/
structure Visit where
  field : Option ScalarField
  offset : Nat
  answer : Answer

namespace Visit

/-- The span that a visit gave. -/
def span? (v : Visit) : Option Span := v.answer.toOption.join

/-- The span that a visit to a scalar field gave. -/
def scalarSpan? (v : Visit) : Option Span := v.field.bind fun _ => v.span?

/-- The bytes that a visit to a scalar field asked for if it failed. -/
def failedRead? (v : Visit) : Option (Nat × Nat) :=
  match v.field, v.answer with
  | some field, .error _ => some (v.offset, lastOffset v.offset field.type.width)
  | _, _ => none

end Visit

/-- Where a span begins and where it ends. -/
def Span.bounds (s : Span) : Nat × Nat := (s.first, s.last)

namespace Cache

/-- The visit that the next pull makes. -/
def visit (source : Source) (c : Cache) : Visit := ⟨c.walk.scalar? source, c.walk.offset, (c.pull source).1⟩

/-- The visits on the way from one state of a cache to another, by pulling and landing. -/
inductive Visits (source : Source) (c : Cache) : List Visit → Cache → Prop
  | rest : Visits source c [] c
  | land {visits d} (number : Nat) : Visits source c visits d → Visits source c visits (d.land number).2
  | pull {visits d} : Visits source c visits d → Visits source c (visits ++ [d.visit source]) (d.pull source).2

/-- The visits of a session since the cache last started over. -/
inductive Since (fresh : Cache) : Session → List Visit → Prop
  | start : Since fresh [] []
  | call {requests visits source call more} :
    Since fresh requests visits →
    Visits source (fresh.session requests).2 more ((fresh.session requests).2.call source call).2 →
    Since fresh (requests ++ [(source, .call call)]) (visits ++ more)
  | ignored {requests visits source offset length} :
    Since fresh requests visits →
    ((fresh.session requests).2.onChange offset length).1 = false →
    Since fresh (requests ++ [(source, .onChange offset length)]) visits
  | mattered {requests source offset length} :
    ((fresh.session requests).2.onChange offset length).1 = true →
    Since fresh (requests ++ [(source, .onChange offset length)]) []
  | invalidate {requests source} : Since fresh (requests ++ [(source, .invalidate)]) []

/-- Whether a cache has the spans that some visits gave and has asked for what they asked for: the bytes of the spans
of scalar fields, and those of the scalar field that failed, if one did. -/
structure Records (visits : List Visit) (c : Cache) : Prop where
  spans : c.spans.toList = visits.filterMap Visit.span?
  ranges : c.log.ranges = (visits.filterMap Visit.scalarSpan?).map Span.bounds ++ visits.filterMap Visit.failedRead?
  failed : (visits.filterMap Visit.failedRead?).length ≤ 1
  going : c.isExhausted = false → visits.filterMap Visit.failedRead? = []

/-- Whether what a cache has asked for is in the order of the offsets, and before the walk as long as it goes on. -/
structure InOrder (c : Cache) : Prop where
  reach : c.walk.offset ≤ maxOffset
  proper : ∀ r ∈ c.log.ranges, r.1 ≤ r.2
  behind : c.isExhausted = false → ∀ r ∈ c.log.ranges, r.2 < c.walk.offset
  ascending : c.log.ranges.Pairwise fun r s => r.2 < s.1

/-- Whether the index knows every span by its number. -/
def Indexed (c : Cache) : Prop :=
  ∀ number span, c.spans[number]? = some span → (span.first, span.last, number) ∈ c.index.toList

variable {source : Source} {c : Cache} {visits : List Visit}

/-- After the end and after an error a pull does nothing. -/
lemma pull_of_exhausted (ended : c.isExhausted = true) : c.pull source = (.ok none, c) := by
  rw [pull, Walk.pull_of_done (isExhausted_iff.1 ended)]
  rfl

/-- Where the walk goes on after a pull it went on before. -/
lemma going_of_pull (going : (c.pull source).2.isExhausted = false) : c.isExhausted = false := by
  rw [← Bool.not_eq_true]
  intro ended
  rw [pull_of_exhausted ended, ended] at going
  cases going

/-- What a pull asks for: nothing, unless it comes to a scalar field. The bytes of that are asked for whether its span
is given or the walk ends with an error. -/
lemma visit_cases (source : Source) (c : Cache) :
    ((c.visit source).scalarSpan? = none ∧ (c.visit source).failedRead? = none ∧ (c.pull source).2.log = c.log) ∨
    ∃ field : ScalarField, c.isExhausted = false ∧
      (c.pull source).2.log = c.log.record c.walk.offset field.type.width ∧
      ((∃ span, (c.visit source).scalarSpan? = some span ∧ (c.visit source).failedRead? = none ∧
          span.bounds = (c.walk.offset, lastOffset c.walk.offset field.type.width) ∧
          (c.pull source).2.walk.offset = span.last + 1) ∨
        ((c.visit source).scalarSpan? = none ∧
          (c.visit source).failedRead? = some (c.walk.offset, lastOffset c.walk.offset field.type.width) ∧
          (c.pull source).2.isExhausted = true)) := by
  simp only [log_pull, visit, Visit.scalarSpan?, Visit.failedRead?, Visit.span?, pull_fst]
  obtain ⟨other, none⟩ | ⟨field, scalar, asked, answered, bounds⟩ := c.walk.pull_cases source
  · rw [other, none]
    exact .inl ⟨rfl, rfl, rfl⟩
  rw [scalar, asked]
  refine .inr ⟨field, going_of_answer answered, rfl, ?_⟩
  rcases yielded : (c.walk.pull source).result with cause | (_ | span)
  · refine .inr ⟨rfl, rfl, ?_⟩
    rw [isExhausted_iff, walk_pull]
    exact (Walk.pull_ended (by simp [yielded])).1
  · exact absurd yielded answered
  · obtain ⟨first, last⟩ := bounds span yielded
    have tiles := Walk.pull_tiles yielded
    -- A span ends below the largest offset, so nothing of its read is cut off.
    have whole : span.last = lastOffset c.walk.offset field.type.width := by
      have := tiles.last_lt
      have := field.type.width_pos
      rw [lastOffset]
      omega
    refine .inl ⟨span, rfl, rfl, by rw [Span.bounds, first, whole], ?_⟩
    rw [walk_pull]
    exact tiles.next_eq

/-- While the walk goes on, a field that it reads is asked for after all others. -/
lemma InOrder.ranges_record (h : InOrder c) (going : c.isExhausted = false) (field : ScalarField) :
    (c.log.record c.walk.offset field.type.width).ranges =
      c.log.ranges ++ [(c.walk.offset, lastOffset c.walk.offset field.type.width)] :=
  ReadLog.ranges_record_last h.reach (Nat.ne_of_gt field.type.width_pos) fun r member =>
    Nat.le_of_lt (Nat.lt_of_le_of_lt (h.proper r member) (h.behind going r member))

/-- A pull keeps what is asked for in the order of the offsets. -/
lemma InOrder.pull (h : InOrder c) (source : Source) : InOrder (c.pull source).2 := by
  have reach := reach_pull source c h.reach
  have onward : c.walk.offset ≤ (c.pull source).2.walk.offset := walk_pull ▸ c.walk.le_offset_pull source
  have behind : c.isExhausted = false → ∀ r ∈ c.log.ranges, r.2 < (c.pull source).2.walk.offset :=
    fun going r member => Nat.lt_of_lt_of_le (h.behind going r member) onward
  obtain ⟨-, -, same⟩ | ⟨field, going, asked, outcome⟩ := visit_cases source c
  · exact ⟨reach, same ▸ h.proper, fun going => same ▸ behind (going_of_pull going), same ▸ h.ascending⟩
  have ranges := h.ranges_record going field
  rw [← asked] at ranges
  refine ⟨reach, ?_, fun still => ?_, ?_⟩
  · rw [ranges, List.forall_mem_append, List.forall_mem_singleton]
    exact ⟨h.proper, le_lastOffset _ h.reach⟩
  · rw [ranges, List.forall_mem_append, List.forall_mem_singleton]
    refine ⟨behind going, ?_⟩
    obtain ⟨span, -, -, bounds, next⟩ | ⟨-, -, stopped⟩ := outcome
    · rw [← bounds, next]
      exact Nat.lt_succ_self _
    · rw [still] at stopped
      cases stopped
  · rw [ranges, List.pairwise_append]
    refine ⟨h.ascending, List.pairwise_singleton _ _, fun r member s last => ?_⟩
    rw [List.mem_singleton.1 last]
    exact h.behind going r member

lemma inOrder_ofFormat (format : Format) {log : ReadLog} (none : log.ranges = []) :
    InOrder (ofFormat format log) where
  reach := Nat.zero_le _
  proper := by rw [ofFormat, none]; exact List.forall_mem_nil _
  behind _ := by rw [ofFormat, none]; exact List.forall_mem_nil _
  ascending := by rw [ofFormat, none]; exact .nil

/-- What is asked for is in order after every session. -/
lemma inOrder_session (format : Format) (requests : Session) :
    InOrder ((ofFormat format .empty).session requests).2 :=
  session_preserves InOrder (fun source _ h => h.pull source)
    (fun _ _ h => ⟨h.reach, h.proper, h.behind, h.ascending⟩)
    (fun c _ => inOrder_ofFormat c.format rfl) requests (inOrder_ofFormat format rfl)

/-- A pull adds the span that it gives. -/
lemma spans_pull (source : Source) (c : Cache) :
    (c.pull source).2.spans.toList = c.spans.toList ++ (c.visit source).span?.toList := by
  rw [visit, Visit.span?, pull_fst]
  rcases yielded : (c.walk.pull source).result with cause | (_ | span)
  · rw [(pull_of_ended (by simp [yielded])).1]
    exact (List.append_nil _).symm
  · rw [(pull_of_ended (by simp [yielded])).1]
    exact (List.append_nil _).symm
  · rw [(pull_of_span yielded).1, Array.toList_push]
    rfl

lemma records_ofFormat (format : Format) {log : ReadLog} (none : log.ranges = []) :
    Records [] (ofFormat format log) where
  spans := rfl
  ranges := none
  failed := Nat.zero_le _
  going _ := rfl

/-- A pull is recorded as a visit. -/
lemma Records.pull (h : Records visits c) (order : InOrder c) (source : Source) :
    Records (visits ++ [c.visit source]) (c.pull source).2 := by
  have later : ∀ {α : Type} (f : Visit → Option α),
      (visits ++ [c.visit source]).filterMap f = visits.filterMap f ++ (f (c.visit source)).toList := by
    intro α f
    rw [List.filterMap_append]
    rfl
  have spans : (c.pull source).2.spans.toList = (visits ++ [c.visit source]).filterMap Visit.span? := by
    rw [spans_pull, h.spans, later]
  obtain ⟨other, none, same⟩ | ⟨field, going, asked, ⟨span, scalar, none, bounds, -⟩ | ⟨no_span, failed, stopped⟩⟩ :=
    visit_cases source c
  · refine ⟨spans, ?_, ?_, fun going => ?_⟩
    · rw [later, later, other, none, same, h.ranges]
      simp
    · rw [later, none]
      simpa using h.failed
    · rw [later, none, h.going (going_of_pull going)]
      rfl
  · refine ⟨spans, ?_, ?_, fun _ => ?_⟩
    · rw [later, later, scalar, none, asked, order.ranges_record going, h.ranges, h.going going, ← bounds]
      simp
    · rw [later, none, h.going going]
      exact Nat.zero_le _
    · rw [later, none, h.going going]
      rfl
  · refine ⟨spans, ?_, ?_, fun still => ?_⟩
    · rw [later, later, no_span, failed, asked, order.ranges_record going, h.ranges, h.going going]
      simp
    · rw [later, failed, h.going going]
      exact Nat.le_refl _
    · rw [still] at stopped
      cases stopped

/-- The visits on the way to a state are recorded there. -/
lemma Visits.records {more : List Visit} {d : Cache} (way : Visits source c more d) (h : Records visits c)
    (order : InOrder c) : Records (visits ++ more) d ∧ InOrder d := by
  induction way with
  | rest => exact ⟨(List.append_nil visits).symm ▸ h, order⟩
  | land number _ ih =>
    obtain ⟨h, order⟩ := ih
    exact ⟨⟨h.spans, h.ranges, h.failed, h.going⟩, ⟨order.reach, order.proper, order.behind, order.ascending⟩⟩
  | pull _ ih =>
    obtain ⟨h, order⟩ := ih
    rw [← List.append_assoc]
    exact ⟨h.pull order _, order.pull _⟩

/-- Every call comes down to visits. -/
lemma exists_visits (source : Source) (c : Cache) (call : Call) :
    ∃ more, Visits source c more (c.call source call).2 :=
  call_preserves (fun d => ∃ more, Visits source c more d) (fun _ ⟨_, way⟩ => ⟨_, way.pull⟩)
    (fun _ number ⟨_, way⟩ => ⟨_, way.land number⟩) call ⟨[], .rest⟩

/-- Every session comes down to visits. -/
lemma exists_since (fresh : Cache) (requests : Session) : ∃ visits, Since fresh requests visits := by
  -- The induction is from the end: the last request settles whether the visits before it still count.
  induction requests using List.reverseRecOn with
  | nil => exact ⟨[], .start⟩
  | append_singleton requests last ih =>
    obtain ⟨visits, since⟩ := ih
    obtain ⟨source, request⟩ := last
    cases request with
    | call call =>
      obtain ⟨more, way⟩ := exists_visits source (fresh.session requests).2 call
      exact ⟨visits ++ more, .call since way⟩
    | onChange offset length =>
      cases e : ((fresh.session requests).2.onChange offset length).1 with
      | false => exact ⟨visits, .ignored since e⟩
      | true => exact ⟨[], .mattered e⟩
    | invalidate => exact ⟨[], .invalidate⟩

/-- The visits since the start are recorded. -/
lemma Since.records {format : Format} {requests : Session} (since : Since (ofFormat format .empty) requests visits) :
    Records visits ((ofFormat format .empty).session requests).2 := by
  induction since with
  | start => exact records_ofFormat format rfl
  | call _ way ih =>
    rw [session_snd_append]
    exact (way.records ih (inOrder_session format _)).1
  | @ignored requests _ _ offset length _ ignored ih =>
    rw [session_snd_append]
    show Records _ (onChange _ offset length).2
    rw [onChange_snd, ignored]
    exact ih
  | @mattered requests _ offset length mattered =>
    rw [session_snd_append]
    show Records _ (onChange _ offset length).2
    rw [onChange_snd, mattered]
    exact records_ofFormat _ rfl
  | invalidate =>
    rw [session_snd_append]
    exact records_ofFormat _ rfl

/-- A pull indexes the span that it gives. -/
lemma Indexed.pull (h : Indexed c) (source : Source) : Indexed (c.pull source).2 := by
  intro number span seen
  by_cases ended : ∀ span, (c.walk.pull source).result ≠ .ok (some span)
  · obtain ⟨spans, index⟩ := pull_of_ended ended
    rw [spans] at seen
    rw [index]
    exact h number span seen
  · obtain ⟨pulled, yielded⟩ := Classical.not_forall_not.1 ended
    obtain ⟨spans, index⟩ := pull_of_span yielded
    have tiles := Walk.pull_tiles yielded
    rw [spans, Array.getElem?_push] at seen
    rw [index, IntervalIndex.mem_toList_insert]
    split at seen
    · next last =>
      cases seen
      left
      rw [Nat.min_eq_left tiles.first_le_last, Nat.max_eq_right tiles.first_le_last, last]
    · exact .inr (h number span seen)

lemma indexed_session (format : Format) (requests : Session) :
    Indexed ((ofFormat format .empty).session requests).2 :=
  session_preserves Indexed (fun source _ h => h.pull source) (fun _ _ h => h) (fun _ _ => nofun) requests nofun

/-- A seek to an offset that a span covers asks for nothing. -/
lemma Indexed.log_seekTo (h : Indexed c) (source : Source) {offset : Nat} {span : Span}
    (seen : span ∈ c.spans.toList) (covers : span.contains offset) : (c.seekTo source offset).2.log = c.log := by
  obtain ⟨number, numbered⟩ := List.getElem?_of_mem seen
  rw [Array.getElem?_toList] at numbered
  have known : number ∈ c.index.search offset offset := by
    rw [IntervalIndex.search_eq, List.mem_map]
    refine ⟨_, List.mem_filter.2 ⟨h number span numbered, ?_⟩, rfl⟩
    simpa [Span.contains] using covers
  rw [seekTo]
  split
  · rfl
  · next unknown =>
    rw [List.head?_eq_none_iff.1 unknown] at known
    cases known

/-- A change matters if and only if one of its bytes was asked for. -/
lemma onChange_fst_iff (proper : ∀ r ∈ c.log.ranges, r.1 ≤ r.2) {offset : Nat} (length : Nat)
    (reach : offset ≤ maxOffset) :
    (c.onChange offset length).1 = true ↔
      0 < length ∧ ∃ x, Within offset length x ∧ ∃ r ∈ c.log.ranges, r.1 ≤ x ∧ x ≤ r.2 := by
  by_cases none : length = 0
  · simp [onChange, none]
  have touched : (c.onChange offset length).1 = c.log.wasTouched offset (lastOffset offset length) := by
    rw [onChange, if_neg none]
    split
    · next met => exact met.symm
    · next missed => exact (Bool.not_eq_true _ ▸ missed).symm
  have le := le_lastOffset length reach
  rw [touched, ReadLog.wasTouched_iff, Nat.max_eq_right le, Nat.min_eq_left le]
  rw [lastOffset]
  constructor
  · rintro ⟨r, member, begins, ends⟩
    have := proper r member
    -- Where one of two ranges begins that meet, there the other is as well.
    refine ⟨Nat.pos_of_ne_zero none, max offset r.1, ⟨?_, ?_, ?_⟩, r, member, ?_, ?_⟩ <;> omega
  · rintro ⟨-, x, ⟨low, high, top⟩, r, member, begins, ends⟩
    exact ⟨r, member, by omega, by omega⟩

/-- After any session with a cache of a finished format, over a source that may have changed at any time: what the
cache has asked for since it last started over are the bytes of the scalar fields that it came to, in the order of
their offsets, each by itself; the last of them may have failed. Seeking what is seen adds nothing to that. A change
matters if and only if it meets one of those ranges, and otherwise leaves the cache as it is. -/
theorem touched_exact {format : Format} (finished : format.check = .ok ()) :
    ∃ fresh, Cache.start format = .ok fresh ∧ ∀ requests replies c, fresh.session requests = (replies, c) →
      (∃ visits, Since fresh requests visits) ∧
      (∀ visits, Since fresh requests visits → Records visits c) ∧
      (c.log.ranges.Pairwise fun r s => r.2 < s.1) ∧
      (∀ source offset, (∃ span ∈ c.spans.toList, span.contains offset) → (c.seekTo source offset).2.log = c.log) ∧
      ∀ offset length, offset ≤ maxOffset →
        ((c.onChange offset length).1 = true ↔
          0 < length ∧ ∃ x, Within offset length x ∧ ∃ r ∈ c.log.ranges, r.1 ≤ x ∧ x ≤ r.2) ∧
        ((c.onChange offset length).1 = false → (c.onChange offset length).2 = c) := by
  refine ⟨_, start_of_finished finished, fun requests replies c served => ?_⟩
  have same : ((ofFormat format .empty).session requests).2 = c := congrArg Prod.snd served
  have order : InOrder c := same ▸ inOrder_session format requests
  have indexed : Indexed c := same ▸ indexed_session format requests
  refine ⟨exists_since _ requests, fun visits since => same ▸ since.records, order.ascending, ?_, ?_⟩
  · rintro source offset ⟨span, seen, covers⟩
    exact indexed.log_seekTo source seen covers
  · intro offset length reach
    refine ⟨onChange_fst_iff order.proper length reach, fun ignored => ?_⟩
    rw [onChange_snd, ignored]
    rfl

/-- A scalar field, bytes up to the last two offsets, and a scalar field that would reach beyond them: what was asked
for ends with the largest offset, and the bytes between the fields do not belong to it. -/
theorem touched_exact_clipped :
    let head : ScalarField := ⟨"Head", ⟨.unsigned .one, .big⟩, .red, none⟩
    let data : BytesField := ⟨"Data", .const 0xFFFFFFFFFFFFFFFD, .green⟩
    let tail : ScalarField := ⟨"Tail", ⟨.unsigned .four, .big⟩, .red, none⟩
    let format : Format := ⟨.scalar head (.bytes data (.scalar tail .nil)), []⟩
    let source : Source := ⟨none, fun _ length => .ok (List.replicate length 0)⟩
    let requests : Session := [(source, .call .next), (source, .call .next), (source, .call .next)]
    ∃ fresh replies c, Cache.start format = .ok fresh ∧ fresh.session requests = (replies, c) ∧
      replies = [.answer (.ok (some ⟨"Head", .red, 0, 0⟩)),
        .answer (.ok (some ⟨"Data", .green, 1, 0xFFFFFFFFFFFFFFFD⟩)),
        .answer (.error (.offsetOverflow 0xFFFFFFFFFFFFFFFE 4))] ∧
      (∃ visits, Since fresh requests visits ∧ Records visits c) ∧
      c.log.ranges = [(0, 0), (0xFFFFFFFFFFFFFFFE, 0xFFFFFFFFFFFFFFFF)] ∧
      (c.onChange 0xFFFFFFFFFFFFFFFF 9).1 = true ∧
      (c.onChange 1 0xFFFFFFFFFFFFFFFD).2 = c ∧
      (c.seekTo source 7).2.log = c.log := by
  intro head data tail format source requests
  have finished : format.check = .ok () := rfl
  obtain ⟨fresh, started, exactly⟩ := touched_exact finished
  rw [start_of_finished finished] at started
  cases started
  obtain ⟨⟨visits, since⟩, records, -, seek, change⟩ :=
    exactly requests _ (session (ofFormat format .empty) requests).2 rfl
  have replied : (session (ofFormat format .empty) requests).1 =
      [.answer (.ok (some ⟨"Head", .red, 0, 0⟩)),
        .answer (.ok (some ⟨"Data", .green, 1, 0xFFFFFFFFFFFFFFFD⟩)),
        .answer (.error (.offsetOverflow 0xFFFFFFFFFFFFFFFE 4))] := by
    cbv
  have seen : (session (ofFormat format .empty) requests).2.spans.toList =
      [⟨"Head", .red, 0, 0⟩, ⟨"Data", .green, 1, 0xFFFFFFFFFFFFFFFD⟩] := by
    cbv
  have asked : (session (ofFormat format .empty) requests).2.log.ranges =
      [(0, 0), (0xFFFFFFFFFFFFFFFE, 0xFFFFFFFFFFFFFFFF)] := by
    cbv
  refine ⟨_, _, _, start_of_finished finished, rfl, replied, ⟨visits, since, records visits since⟩, asked, ?_, ?_, ?_⟩
  · refine (change _ _ (by decide)).1.2 ⟨by decide, 0xFFFFFFFFFFFFFFFF, by decide, ?_⟩
    rw [asked]
    exact ⟨_, .tail _ (.head _), by decide, by decide⟩
  · refine (change _ _ (by decide)).2 ?_
    rw [← Bool.not_eq_true, (change _ _ (by decide)).1, asked]
    rintro ⟨-, x, ⟨low, high, -⟩, r, member, begins, ends⟩
    simp only [List.mem_cons, List.not_mem_nil, or_false] at member
    obtain rfl | rfl := member
    · simp only at ends
      omega
    · simp only at begins
      omega
  · apply seek
    rw [seen]
    exact ⟨_, .tail _ (.head _), rfl⟩

end Cache
end ByteAtlas
