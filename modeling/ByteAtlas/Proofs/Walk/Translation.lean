import ByteAtlas.Proofs.Walk.Run

/-!
# Walks from another start

Nothing that a walk decides depends on how far from the beginning of the source it is. A walk that lies a distance
further on, over a source that lies as much further on, does the same step by step (`Walk.step_shift`) and pull by
pull (`Walk.pull_shift`), a distance further on: the only thing that can come between is the largest offset. So to
start somewhere in a buffer is to drop the bytes before and start at the beginning (`Walk.start_shifts`).
-/

namespace ByteAtlas

/-! The same a distance further on. -/

def ReadError.shift (distance : Nat) : ReadError → ReadError
  | outOfRange length offset => outOfRange length (offset + distance)
  | shortAnswer got wanted offset => shortAnswer got wanted (offset + distance)
  | cause => cause

def Error.shift (distance : Nat) : Error → Error
  | io cause => io (cause.shift distance)
  | offsetOverflow offset length => offsetOverflow (offset + distance) length
  | cause => cause

def Span.shift (distance : Nat) (s : Span) : Span :=
  { s with first := s.first + distance, last := s.last + distance }

def Answer.shift (distance : Nat) : Answer → Answer
  | .ok (some span) => .ok (some (span.shift distance))
  | .ok none => .ok none
  | .error cause => .error (cause.shift distance)

def Frame.shift (distance : Nat) : Frame → Frame
  | body rest path framed => body rest path framed
  | repetition inner remaining path started => repetition inner remaining path (started.map (· + distance))

def Walk.shift (distance : Nat) (w : Walk) : Walk :=
  ⟨w.stack.map (Frame.shift distance), w.scope, w.offset + distance⟩

def Pull.shift (distance : Nat) (p : Pull) : Pull :=
  ⟨Answer.shift distance p.result, p.request.map (Prod.map (· + distance) id), p.walk.shift distance⟩

def Step.shift (distance : Nat) : Step → Step
  | quiet w => quiet (w.shift distance)
  | answer p => answer (p.shift distance)

/-- Whether one source answers to every read of some bytes as another does a distance before. -/
def Source.Behind (far near : Source) (distance : Nat) : Prop :=
  ∀ offset length, 0 < length →
    far.read (offset + distance) length = (near.read offset length).mapError (ReadError.shift distance)

/-- Whether an answer is that the offsets are used up. -/
def Answer.Overflows (answer : Answer) : Prop := ∃ offset length, answer = .error (.offsetOverflow offset length)

/-- A buffer without its first bytes answers as the whole one does behind them. -/
lemma Source.behind_drop (data : Array UInt8) (distance : Nat) :
    (ofBytes data).Behind (ofBytes (data.drop distance)) distance := by
  intro offset length some_bytes
  have size : (data.drop distance).size = data.size - distance := by simp
  have fits : offset + length ≤ data.size - distance ↔ offset + distance + length ≤ data.size := by omega
  have slices : slice? data (offset + distance) length = slice? (data.drop distance) offset length := by
    rw [slice?_eq_take_drop, slice?_eq_take_drop, size, Array.toList_drop, List.drop_drop, Nat.add_comm distance]
    simp only [fits]
  simp only [ofBytes, slices]
  cases slice? (data.drop distance) offset length <;> rfl

namespace Walk

variable {far near : Source} {w : Walk} {distance : Nat}

lemma shift_ofLayout (nodes : Layout) (scope : Scope) (start : Nat) :
    (ofLayout nodes 0 scope).shift start = ofLayout nodes start scope := by
  simp [ofLayout, shift, Frame.shift]

lemma bindField_shift (field : ScalarField) (bytes : List UInt8) :
    (w.shift distance).bindField field bytes = (w.bindField field bytes).shift distance := by
  rw [bindField, bindField]
  cases field.bind <;> rfl

/-- Yielding does the same further on, unless the largest offset is in the way. -/
lemma yield_shift (request : Option (Nat × Nat)) {name : String} {color : Color} {length : Nat}
    (some_bytes : 0 < length)
    (stays : ¬Answer.Overflows ((w.shift distance).yield (request.map (Prod.map (· + distance) id)) name color
      length).result) :
    (w.shift distance).yield (request.map (Prod.map (· + distance) id)) name color length =
      (w.yield request name color length).shift distance := by
  have fits : w.offset + distance + length ≤ maxOffset := by
    apply Nat.le_of_not_lt
    intro overflows
    exact stays ⟨_, _, yield_overflows_iff.2 ⟨rfl, rfl, overflows⟩⟩
  have here : (w.shift distance).offset + length ≤ maxOffset := fits
  have before : w.offset + length ≤ maxOffset := by omega
  have next : w.offset + distance + length = w.offset + length + distance := by omega
  have last : w.offset + length + distance - 1 = w.offset + length - 1 + distance := by omega
  rw [yield, yield, if_pos here, if_pos before]
  simp only [Pull.shift, Answer.shift, Span.shift, shift, next, last]

/-- Reading a scalar field does the same further on. -/
lemma readScalar_shift (w : Walk) {path : String} {field : ScalarField} (behind : far.Behind near distance)
    (stays : ¬Answer.Overflows (readScalar far (w.shift distance) path field).result) :
    readScalar far (w.shift distance) path field = (readScalar near w path field).shift distance := by
  have some_bytes := field.type.width_pos
  have answers : far.read (w.shift distance).offset field.type.width =
      (near.read w.offset field.type.width).mapError (ReadError.shift distance) := behind _ _ some_bytes
  cases read : near.read w.offset field.type.width with
  | error cause =>
    rw [read] at answers
    simp only [readScalar, answers, read, Except.mapError]
    rfl
  | ok bytes =>
    rw [read] at answers
    by_cases full : bytes.length = field.type.width
    · simp only [readScalar, answers, read, Except.mapError, if_pos full, bindField_shift] at stays ⊢
      exact yield_shift (some (w.offset, field.type.width)) some_bytes stays
    · simp only [readScalar, answers, read, Except.mapError, if_neg full]
      rfl

/-- A step does the same further on. -/
lemma step_shift (behind : far.Behind near distance)
    (stays : ¬Answer.Overflows ((w.shift distance).pull far).result) :
    (w.shift distance).step far = (w.step near).shift distance := by
  obtain ⟨stack, scope, offset⟩ := w
  cases stack with
  | nil => rfl
  | cons frame outer =>
    cases frame with
    | body rest path framed =>
      cases rest with
      | nil => rfl
      | scalar field rest =>
        apply congrArg Step.answer
        rw [pull_of_answer rfl] at stays
        exact readScalar_shift ⟨.body rest path framed :: outer, scope, offset⟩ behind stays
      | bytes field rest =>
        simp only [shift, Frame.shift, List.map_cons] at stays ⊢
        by_cases nothing : field.count.resolve scope = 0
        · rw [step_bytes_none nothing, step_bytes_none nothing]
          rfl
        · rw [pull_of_answer (step_bytes_some nothing)] at stays
          rw [step_bytes_some nothing, step_bytes_some nothing]
          apply congrArg Step.answer
          have some_bytes := Nat.pos_of_ne_zero nothing
          exact yield_shift (w := ⟨.body rest path framed :: outer, scope, offset⟩) none some_bytes stays
      | group name inner rest => rfl
      | embed name times inner unclosed rest => rfl
    | repetition inner remaining path started =>
      -- Whether the last repetition covered no bytes is a question of two offsets, and both have moved.
      have idle : started.map (· + distance) = some (offset + distance) ↔ started = some offset := by
        cases started <;> simp
      simp only [step, shift, Frame.shift, List.map_cons, idle]
      split
      · rfl
      · rfl

/-- A pull does the same further on. -/
lemma pull_shift (behind : far.Behind near distance)
    (stays : ¬Answer.Overflows ((w.shift distance).pull far).result) :
    (w.shift distance).pull far = (w.pull near).shift distance := by
  fun_induction pull near w with
  | case1 w next quiet ih =>
    have same := step_shift behind stays
    rw [quiet] at same
    rw [pull_of_quiet same] at stays ⊢
    exact ih stays
  | case2 w p answered =>
    have same := step_shift behind stays
    rw [answered] at same
    exact pull_of_answer same

/-- A walk is in the same state further on after every pull. -/
lemma after_shift (behind : far.Behind near distance) {pulls : Nat}
    (stays : ∀ number < pulls, ¬Answer.Overflows ((w.shift distance).answer (fun _ => far) number)) :
    ∀ number ≤ pulls, (w.shift distance).after (fun _ => far) number =
      (w.after (fun _ => near) number).shift distance := by
  intro number
  induction number with
  | zero => exact fun _ => rfl
  | succ number ih =>
    intro before
    have here := ih (Nat.le_of_succ_le before)
    have stays := stays number before
    rw [answer, here] at stays
    rw [after, after, here]
    exact congrArg Pull.walk (pull_shift behind stays)

/-- A walk that starts somewhere in a buffer does, pull by pull, what a walk does that starts at the beginning of the
buffer without the bytes before, as long as it does not use up the offsets: their answers are the same, and so are
their states, but for the distance. -/
theorem start_shifts {format : Format} (finished : format.check = .ok ()) (start : Nat) (scope : Scope) :
    ∃ w v, Walk.start format start scope = .ok w ∧ Walk.start format 0 scope = .ok v ∧
      ∀ (data : Array UInt8) (pulls : Nat),
        (∀ number < pulls, ¬Answer.Overflows (w.answer (fun _ => .ofBytes data) number)) →
        (∀ number < pulls, w.answer (fun _ => .ofBytes data) number =
          Answer.shift start (v.answer (fun _ => .ofBytes (data.drop start)) number)) ∧
        w.after (fun _ => .ofBytes data) pulls =
          (v.after (fun _ => .ofBytes (data.drop start)) pulls).shift start := by
  refine ⟨ofLayout format.nodes start scope, ofLayout format.nodes 0 scope, start_of_finished finished start scope,
    start_of_finished finished 0 scope, fun data pulls stays => ?_⟩
  have behind := Source.behind_drop data start
  rw [← shift_ofLayout] at stays ⊢
  have same := after_shift behind stays
  refine ⟨fun number before => ?_, same pulls (Nat.le_refl pulls)⟩
  have stays := stays number before
  rw [answer, same number (Nat.le_of_lt before)] at stays ⊢
  exact congrArg Pull.result (pull_shift behind stays)

/-- An entry behind two bytes of something else: its data, and the read that fails behind it. -/
theorem start_shifts_entries :
    let data : Array UInt8 := #[0, 0, 1, 7]
    Format.entries.check = .ok () ∧ ∃ w v, Walk.start .entries 2 .empty = .ok w ∧ Walk.start .entries 0 .empty = .ok v ∧
      (∀ number < 3, ¬Answer.Overflows (w.answer (fun _ => .ofBytes data) number)) ∧
      v.answer (fun _ => .ofBytes (data.drop 2)) 1 = .ok (some ⟨"Entry > Data", .green, 1, 1⟩) ∧
      w.answer (fun _ => .ofBytes data) 1 = .ok (some ⟨"Entry > Data", .green, 3, 3⟩) ∧
      v.answer (fun _ => .ofBytes (data.drop 2)) 2 = .error (.io (.outOfRange 1 2)) ∧
      w.answer (fun _ => .ofBytes data) 2 = .error (.io (.outOfRange 1 4)) := by
  intro data
  have finished : Format.entries.check = .ok () := rfl
  obtain ⟨w, v, started, dropped, holds⟩ := start_shifts finished 2 .empty
  cases started
  cases dropped
  have stays : ∀ number < 3,
      ¬Answer.Overflows (answer (fun _ => .ofBytes data) (ofLayout Format.entries.nodes 2 .empty) number) := by
    intro number before
    rintro ⟨offset, length, refused⟩
    have length : answer (fun _ => .ofBytes data) (ofLayout Format.entries.nodes 2 .empty) 0 =
        .ok (some ⟨"Entry > Length", .red, 2, 2⟩) := by cbv
    have bytes : answer (fun _ => .ofBytes data) (ofLayout Format.entries.nodes 2 .empty) 1 =
        .ok (some ⟨"Entry > Data", .green, 3, 3⟩) := by cbv
    have failed : answer (fun _ => .ofBytes data) (ofLayout Format.entries.nodes 2 .empty) 2 =
        .error (.io (.outOfRange 1 4)) := by cbv
    interval_cases number
    · cases length.symm.trans refused
    · cases bytes.symm.trans refused
    · cases failed.symm.trans refused
  have bytes : answer (fun _ => .ofBytes (data.drop 2)) (ofLayout Format.entries.nodes 0 .empty) 1 =
      .ok (some ⟨"Entry > Data", .green, 1, 1⟩) := by cbv
  have failed : answer (fun _ => .ofBytes (data.drop 2)) (ofLayout Format.entries.nodes 0 .empty) 2 =
      .error (.io (.outOfRange 1 2)) := by cbv
  obtain ⟨same, -⟩ := holds data 3 stays
  refine ⟨finished, _, _, rfl, rfl, stays, bytes, (same 1 (by decide)).trans ?_, failed,
    (same 2 (by decide)).trans ?_⟩
  · exact congrArg (Answer.shift 2) bytes
  · exact congrArg (Answer.shift 2) failed

end Walk
end ByteAtlas
