import ByteAtlas.Proofs.Walk.Run

/-!
# What spans depend on

The steps of a pull before its answer read nothing, so where it comes to is settled before it reads
(`Walk.pull_or_reads`). What it reads is looked at only if the field is bound. So the bytes of bound fields are all
that the layout depends on: another buffer that has them, and room for the other scalar fields, gives the same spans
and leaves the walk in the same state, with the same scope (`Walk.spans_of_bound_bytes`). What is in fields that are
not bound and in runs of bytes makes no difference, and neither does what comes behind.
-/

namespace ByteAtlas

/-- Whether another buffer has what the span of a scalar field takes: room for it, and the same bytes if the field is
bound. -/
structure ScalarField.KeptBy (field : ScalarField) (data other : Array UInt8) (span : Span) : Prop where
  room : span.last < other.size
  bytes : field.bind ≠ none → ∀ x, span.contains x → other[x]? = data[x]?

namespace Source

variable {data : Array UInt8} {offset length : Nat} {bytes : List UInt8}

lemma read_ofBytes_iff : (ofBytes data).read offset length = .ok bytes ↔ slice? data offset length = some bytes := by
  cases found : slice? data offset length <;> simp [ofBytes, found]

/-- What is read from a buffer lies inside it. -/
lemma le_size_of_read (read : (ofBytes data).read offset length = .ok bytes) : offset + length ≤ data.size := by
  rw [read_ofBytes_iff, slice?_eq_take_drop] at read
  split at read
  · next fits => exact fits
  · cases read

/-- What lies inside a buffer can be read, and is as long as was asked for. -/
lemma exists_read (fits : offset + length ≤ data.size) :
    ∃ bytes, (ofBytes data).read offset length = .ok bytes ∧ bytes.length = length := by
  have found : slice? data offset length = some ((data.toList.drop offset).take length) := by
    rw [slice?_eq_take_drop, if_pos fits]
  exact ⟨_, read_ofBytes_iff.2 found, length_of_slice? found⟩

end Source

namespace Walk

/-- Whether another buffer has what the scalar fields among the first pulls of a walk over a buffer take. -/
def KeptBy (w : Walk) (data other : Array UInt8) (pulls : Nat) : Prop :=
  ∀ number < pulls, ∀ field span,
    (w.after (fun _ => .ofBytes data) number).scalar? (.ofBytes data) = some field →
    w.answer (fun _ => .ofBytes data) number = .ok (some span) →
    field.KeptBy data other span

/-- A quiet step is the same for every source. -/
lemma quiet_of_quiet {source : Source} {w next : Walk} (quiet : w.step source = .quiet next) (edited : Source) :
    w.step edited = .quiet next := by
  rw [← quiet]
  apply step_congr
  intro p offset length answered
  rw [quiet] at answered
  cases answered

/-- A pull does the same for every source, or it comes to the same scalar field for every source and reads it where
the walk is. -/
lemma pull_or_reads (w : Walk) :
    (∃ p, ∀ source, w.scalar? source = none ∧ w.pull source = p) ∨
    ∃ v path field, v.offset = w.offset ∧
      ∀ source, w.scalar? source = some field ∧ w.pull source = readScalar source v path field := by
  fun_induction pull (.ofBytes #[]) w with
  | case1 w next quiet ih =>
    have quiet := quiet_of_quiet quiet
    rcases ih with ⟨p, same⟩ | ⟨v, path, field, here, same⟩
    · refine .inl ⟨p, fun source => ?_⟩
      rw [scalar?_of_quiet (quiet source), pull_of_quiet (quiet source)]
      exact same source
    · refine .inr ⟨v, path, field, here.trans (offset_of_quiet (quiet (.ofBytes #[]))), fun source => ?_⟩
      rw [scalar?_of_quiet (quiet source), pull_of_quiet (quiet source)]
      exact same source
  | case2 w p answered =>
    obtain ⟨stack, scope, offset⟩ := w
    rcases step_answer answered with ⟨done, -⟩ | ⟨field, rest, path, framed, outer, top, -⟩ |
      ⟨field, rest, path, framed, outer, top, some_bytes, -⟩
    · cases done
      exact .inl ⟨_, fun source => ⟨scalar?_of_answer rfl, pull_of_answer rfl⟩⟩
    · cases top
      exact .inr ⟨⟨.body rest path framed :: outer, scope, offset⟩, path, field, rfl,
        fun source => ⟨scalar?_of_answer rfl, pull_of_answer rfl⟩⟩
    · cases top
      exact .inl ⟨_, fun source =>
        ⟨scalar?_of_answer (step_bytes_some some_bytes), pull_of_answer (step_bytes_some some_bytes)⟩⟩

variable {w : Walk} {data other : Array UInt8} {field : ScalarField} {span : Span}

/-- Where another buffer has what the span of a scalar field takes, reading the field there does the same. -/
lemma readScalar_of_kept {path : String}
    (yielded : (readScalar (.ofBytes data) w path field).result = .ok (some span))
    (kept : field.KeptBy data other span) :
    readScalar (.ofBytes other) w path field = readScalar (.ofBytes data) w path field := by
  obtain ⟨bytes, read, full, rfl, -⟩ := readScalar_of_span yielded
  have some_bytes := field.type.width_pos
  cases bound : field.bind with
  | none =>
    -- The bytes may differ here, but there are as many and nothing looks at them.
    have room : w.offset + field.type.width ≤ other.size := by
      have := kept.room
      dsimp only at this
      omega
    obtain ⟨bytes', read', full'⟩ := Source.exists_read room
    simp only [readScalar, read, read', full, full', bindField, bound]
  | some name =>
    apply readScalar_congr
    have same : ∀ i < field.type.width, other[w.offset + i]? = data[w.offset + i]? := by
      intro i inside
      apply kept.bytes (by rw [bound]; exact Option.some_ne_none name)
      apply Span.contains_iff.2
      dsimp only
      omega
    simp only [Source.ofBytes, slice?_congr some_bytes same]

/-- Where another buffer has what the next span takes, a pull does the same there. -/
lemma pull_of_kept (yielded : (w.pull (.ofBytes data)).result = .ok (some span))
    (kept : ∀ field, w.scalar? (.ofBytes data) = some field → field.KeptBy data other span) :
    w.pull (.ofBytes other) = w.pull (.ofBytes data) := by
  rcases w.pull_or_reads with ⟨p, same⟩ | ⟨v, path, field, -, same⟩
  · rw [(same _).2, (same _).2]
  · rw [(same _).2] at yielded
    rw [(same _).2, (same _).2]
    exact readScalar_of_kept yielded (kept field (same _).1)

/-- As long as another buffer has what the spans of a walk take, the walk is the same there after every pull. -/
lemma after_of_kept {pulls : Nat}
    (spans : ∀ number < pulls, ∃ span, w.answer (fun _ => .ofBytes data) number = .ok (some span))
    (kept : w.KeptBy data other pulls) :
    ∀ number ≤ pulls, w.after (fun _ => .ofBytes other) number = w.after (fun _ => .ofBytes data) number := by
  intro number
  induction number with
  | zero => exact fun _ => rfl
  | succ number ih =>
    intro before
    obtain ⟨span, yielded⟩ := spans number before
    rw [after, after, ih (Nat.le_of_succ_le before)]
    exact congrArg Pull.walk (pull_of_kept yielded fun field comes => kept number before field span comes yielded)

/-- The span of a scalar field lies inside the buffer. -/
lemma last_lt_of_scalar (comes : w.scalar? (.ofBytes data) = some field)
    (yielded : (w.pull (.ofBytes data)).result = .ok (some span)) : span.last < data.size := by
  rcases w.pull_or_reads with ⟨p, same⟩ | ⟨v, path, field', -, same⟩
  · rw [(same _).1] at comes
    cases comes
  · rw [(same _).2] at yielded
    obtain ⟨bytes, read, -, rfl, -⟩ := readScalar_of_span yielded
    have inside := Source.le_size_of_read read
    have some_bytes := field'.type.width_pos
    dsimp only
    omega

/-- A buffer that goes on longer has all that is taken from the shorter one. -/
lemma keptBy_append (w : Walk) (data more : Array UInt8) (pulls : Nat) : w.KeptBy data (data ++ more) pulls := by
  intro number before field span comes yielded
  have inside : span.last < data.size := last_lt_of_scalar comes yielded
  refine ⟨?_, fun _ x covers => ?_⟩
  · rw [Array.size_append]
    exact Nat.lt_add_right _ inside
  · exact Array.getElem?_append_left (Nat.lt_of_le_of_lt (Span.contains_iff.1 covers).2 inside)

/-- Where the first pulls of a walk over a buffer all give spans, only the bytes of bound fields among them matter: they
give the same over any other buffer that has those bytes and room for the other scalar fields, and leave the walk with
the same scope and in the same place. In particular bytes may be added at the end. -/
theorem spans_of_bound_bytes {format : Format} (finished : format.check = .ok ()) (start : Nat) (scope : Scope) :
    ∃ w, Walk.start format start scope = .ok w ∧ ∀ (data : Array UInt8) (pulls : Nat),
      (∀ number < pulls, ∃ span, w.answer (fun _ => .ofBytes data) number = .ok (some span)) →
      (∀ other, w.KeptBy data other pulls →
        (∀ number < pulls, w.answer (fun _ => .ofBytes other) number = w.answer (fun _ => .ofBytes data) number) ∧
        w.after (fun _ => .ofBytes other) pulls = w.after (fun _ => .ofBytes data) pulls) ∧
      ∀ more, ∀ number < pulls,
        w.answer (fun _ => .ofBytes (data ++ more)) number = w.answer (fun _ => .ofBytes data) number := by
  refine ⟨ofLayout format.nodes start scope, start_of_finished finished start scope, fun data pulls spans => ?_⟩
  have same : ∀ other, KeptBy (ofLayout format.nodes start scope) data other pulls → ∀ number < pulls,
      answer (fun _ => .ofBytes other) (ofLayout format.nodes start scope) number =
        answer (fun _ => .ofBytes data) (ofLayout format.nodes start scope) number := by
    intro other kept number before
    obtain ⟨span, yielded⟩ := spans number before
    rw [answer, answer, after_of_kept spans kept number (Nat.le_of_lt before)]
    exact congrArg Pull.result (pull_of_kept yielded fun field comes => kept number before field span comes yielded)
  exact ⟨fun other kept => ⟨same other kept, after_of_kept spans kept pulls (Nat.le_refl pulls)⟩,
    fun more => same _ (keptBy_append _ data more pulls)⟩

/-- A flag that is not bound may change, and the data behind the length may be missing: the spans are the same. -/
theorem spans_of_bound_bytes_cut :
    let format := ((Format.empty.scalar ⟨"Length", ⟨.unsigned .one, .big⟩, .red, some "n"⟩).scalar
      ⟨"Flag", ⟨.unsigned .one, .big⟩, .blue, none⟩).bytes ⟨"Data", .var "n", .green⟩
    let data : Array UInt8 := #[3, 5, 7, 8, 9]
    let other : Array UInt8 := #[3, 6]
    format.check = .ok () ∧ ∃ w, Walk.start format 0 .empty = .ok w ∧
      (∀ number < 3, ∃ span, w.answer (fun _ => .ofBytes data) number = .ok (some span)) ∧
      w.KeptBy data other 3 ∧
      w.answer (fun _ => .ofBytes other) 2 = w.answer (fun _ => .ofBytes data) 2 ∧
      w.answer (fun _ => .ofBytes other) 2 = .ok (some ⟨"Data", .green, 2, 4⟩) ∧
      w.after (fun _ => .ofBytes other) 3 = w.after (fun _ => .ofBytes data) 3 := by
  intro format data other
  have finished : format.check = .ok () := rfl
  obtain ⟨w, started, holds⟩ := spans_of_bound_bytes finished 0 .empty
  cases started
  have length : answer (fun _ => .ofBytes data) (ofLayout format.nodes 0 .empty) 0 =
      .ok (some ⟨"Length", .red, 0, 0⟩) := by cbv
  have flag : answer (fun _ => .ofBytes data) (ofLayout format.nodes 0 .empty) 1 =
      .ok (some ⟨"Flag", .blue, 1, 1⟩) := by cbv
  have last : answer (fun _ => .ofBytes data) (ofLayout format.nodes 0 .empty) 2 =
      .ok (some ⟨"Data", .green, 2, 4⟩) := by cbv
  have spans : ∀ number < 3, ∃ span,
      answer (fun _ => .ofBytes data) (ofLayout format.nodes 0 .empty) number = .ok (some span) := by
    intro number before
    interval_cases number
    · exact ⟨_, length⟩
    · exact ⟨_, flag⟩
    · exact ⟨_, last⟩
  have kept : KeptBy (ofLayout format.nodes 0 .empty) data other 3 := by
    intro number before field span comes yielded
    interval_cases number
    · cases length.symm.trans yielded
      refine ⟨by decide, fun _ x covers => ?_⟩
      obtain rfl : x = 0 := Nat.le_zero.1 (Span.contains_iff.1 covers).2
      rfl
    · have here : (after (fun _ => .ofBytes data) (ofLayout format.nodes 0 .empty) 1).scalar? (.ofBytes data) =
          some ⟨"Flag", ⟨.unsigned .one, .big⟩, .blue, none⟩ := by cbv
      cases flag.symm.trans yielded
      cases here.symm.trans comes
      exact ⟨by decide, fun bound => absurd rfl bound⟩
    · have none : (after (fun _ => .ofBytes data) (ofLayout format.nodes 0 .empty) 2).scalar? (.ofBytes data) =
          none := by cbv
      cases none.symm.trans comes
  obtain ⟨same, left⟩ := (holds data 3 spans).1 other kept
  exact ⟨finished, _, rfl, spans, kept, same 2 (by decide), (same 2 (by decide)).trans last, left⟩

end Walk
end ByteAtlas
