import ByteAtlas.Proofs.Walk.Halting
import ByteAtlas.Proofs.Walk.Lexical

/-!
# Pulls that fail

A pull fails at one point of its run, where the innermost body goes on with a field that is refused (`Fails`). The walk
does not move from there, and no variable changes but for one case: the value of a bound field is set before the field
turns out to reach beyond the largest offset (`BindsRefused`). So it is with every error that a run comes to
(`failing_pull_stays`).
-/

namespace ByteAtlas

namespace Scope

variable {scope : Scope} {name : String} {value : Value}

lemma get?_set_self : (scope.set name value).get? name = some value := by
  simp [get?, frames, set]

lemma get?_set_of_ne {other : String} (apart : other ≠ name) :
    (scope.set name value).get? other = scope.get? other := by
  simp only [get?, frames, set, List.findSome?_cons, List.lookup_cons, beq_false_of_ne apart]

end Scope

namespace Walk

/-- Where and why a pull fails, and which variables are left. The innermost body goes on with a scalar field that cannot
be read, for which the source gives too few or too many bytes, or which reaches beyond the largest offset, or with a
run of bytes that does. -/
inductive Fails (source : Source) (point : Walk) : Error → Scope → Prop
  | unread {field rest path framed below cause} :
    point.stack = .body (.scalar field rest) path framed :: below →
    source.read point.offset field.type.width = .error cause →
    Fails source point (.io cause) point.scope
  | miscounted {field rest path framed below bytes} :
    point.stack = .body (.scalar field rest) path framed :: below →
    source.read point.offset field.type.width = .ok bytes →
    bytes.length ≠ field.type.width →
    Fails source point (.io (.shortAnswer bytes.length field.type.width point.offset)) point.scope
  | scalar {field rest path framed below bytes} :
    point.stack = .body (.scalar field rest) path framed :: below →
    source.read point.offset field.type.width = .ok bytes →
    bytes.length = field.type.width →
    maxOffset < point.offset + field.type.width →
    Fails source point (.offsetOverflow point.offset field.type.width) (point.bindField field bytes).scope
  | run {field rest path framed below} :
    point.stack = .body (.bytes field rest) path framed :: below →
    field.count.resolve point.scope ≠ 0 →
    maxOffset < point.offset + field.count.resolve point.scope →
    Fails source point (.offsetOverflow point.offset (field.count.resolve point.scope)) point.scope

/-- Whether the innermost body goes on with a field that is bound to a name and whose bytes are all there, though they
reach beyond the largest offset. -/
inductive BindsRefused (source : Source) (point : Walk) : String → Value → Prop
  | mk {field rest path framed below bytes name} :
    point.stack = .body (.scalar field rest) path framed :: below →
    field.bind = some name →
    source.read point.offset field.type.width = .ok bytes →
    bytes.length = field.type.width →
    maxOffset < point.offset + field.type.width →
    BindsRefused source point name (field.type.decode bytes)

namespace Fails

variable {source : Source} {point : Walk} {cause : Error} {scope : Scope}

/-- A bound field that is refused for where it ends has been bound. -/
lemma scope_of_binds {name : String} {value : Value} (fails : Fails source point cause scope)
    (binds : BindsRefused source point name value) :
    scope = point.scope.set name value ∧ cause = .offsetOverflow point.offset value.base.width := by
  obtain ⟨top, bound, read, full, beyond⟩ := binds
  cases fails with
  | unread top' unread =>
    cases top.symm.trans top'
    cases read.symm.trans unread
  | miscounted top' read' miscounted =>
    cases top.symm.trans top'
    cases read.symm.trans read'
    exact absurd full miscounted
  | scalar top' read' =>
    cases top.symm.trans top'
    cases read.symm.trans read'
    exact ⟨by rw [bindField, bound], by rw [ScalarType.base_decode, ScalarType.width]⟩
  | run top' => cases top.symm.trans top'

/-- Otherwise nothing has been bound. -/
lemma scope_of_not_binds (fails : Fails source point cause scope)
    (unbound : ∀ name value, ¬BindsRefused source point name value) : scope = point.scope := by
  cases fails with
  | unread => rfl
  | miscounted => rfl
  | run => rfl
  | @scalar field rest path framed below bytes top read full beyond =>
    rw [bindField]
    cases bound : field.bind with
    | none => rfl
    | some name => exact absurd (.mk top bound read full beyond) (unbound name _)

end Fails

section Steps

variable {source : Source} {w : Walk} {cause : Error}

/-- Bytes that are refused reach beyond the largest offset, and leave the walk where it was. -/
lemma yield_failed {request : Option (Nat × Nat)} {name : String} {color : Color} {length : Nat}
    (failed : (w.yield request name color length).result = .error cause) :
    maxOffset < w.offset + length ∧ cause = .offsetOverflow w.offset length ∧
      (w.yield request name color length).walk = { w with stack := [] } := by
  rw [yield] at failed ⊢
  split at failed
  · cases failed
  · next beyond =>
    cases failed
    rw [if_neg beyond]
    exact ⟨Nat.not_le.1 beyond, rfl, rfl⟩

/-- Why a scalar field is refused when the innermost body goes on with it. -/
lemma readScalar_fails {field : ScalarField} {rest : Layout} {path : String} {framed : Bool} {below stack : List Frame}
    (top : w.stack = .body (.scalar field rest) path framed :: below)
    (failed : (readScalar source { w with stack } path field).result = .error cause) :
    Fails source w cause (readScalar source { w with stack } path field).walk.scope := by
  cases read : source.read w.offset field.type.width with
  | error error =>
    simp only [readScalar, read] at failed ⊢
    cases failed
    exact .unread top read
  | ok bytes =>
    simp only [readScalar, read] at failed ⊢
    split at failed
    · next full =>
      rw [if_pos full]
      obtain ⟨beyond, rfl, walk⟩ := yield_failed failed
      rw [offset_bindField] at beyond ⊢
      rw [walk]
      have same : (bindField { w with stack } field bytes).scope = (w.bindField field bytes).scope := by
        rw [bindField, bindField]
        cases field.bind <;> rfl
      exact same ▸ .scalar top read full beyond
    · next miscounted =>
      cases failed
      rw [if_neg miscounted]
      exact .miscounted top read miscounted

/-- A step fails where the walk is and does not move. -/
lemma step_fails {pulled : Pull} (answered : w.step source = .answer pulled) (failed : pulled.result = .error cause) :
    Fails source w cause pulled.walk.scope ∧ pulled.walk.offset = w.offset := by
  obtain ⟨-, rfl⟩ | ⟨field, rest, path, framed, below, top, rfl⟩ |
    ⟨field, rest, path, framed, below, top, some_bytes, rfl⟩ := step_answer answered
  · cases failed
  · exact ⟨readScalar_fails top failed, (readScalar_ended (by rw [failed]; nofun)).2⟩
  · obtain ⟨beyond, rfl, walk⟩ := yield_failed failed
    rw [walk]
    exact ⟨.run top some_bytes beyond, rfl⟩

end Steps

variable {sources : Nat → Source} {w : Walk} {count : Nat} {cause : Error}

/-- A pull comes to a point where it is answered. -/
lemma GoesThrough.exists_answering {v : Walk} (passed : w.GoesThrough sources count v) :
    ∃ point, w.GoesThrough sources count point ∧ point.step (sources count) = .answer (v.pull (sources count)) := by
  fun_induction Walk.pull (sources count) v with
  | case1 v next quiet ih => exact ih (passed.quiet quiet)
  | case2 v p answered => exact ⟨v, passed, answered⟩

/-- Where a run begins with an answer there is no other point before it. -/
lemma GoesThrough.eq_start {pulled : Pull} {v : Walk} (answered : w.step (sources 0) = .answer pulled)
    (passed : w.GoesThrough sources 0 v) : v = w := by
  generalize none : 0 = count at passed
  induction passed with
  | start => rfl
  | quiet _ quiet ih =>
    cases none
    rw [ih rfl, answered] at quiet
    cases quiet
  | span => cases none

/-- Before a pull that does not give the end all pulls have given spans, so the run is at a point of its own. -/
lemma goesThrough_of_going (going : w.answer sources count ≠ .ok none) :
    w.GoesThrough sources count (w.after sources count) := by
  have succeeded (number : Nat) (before : number < count) : (w.answer sources number).isOk := by
    cases earlier : w.answer sources number with
    | ok => rfl
    | error other => exact absurd (answer_behind_ended (by rw [earlier]; nofun) before) going
  obtain ⟨passed, -, through, rfl | done⟩ := GoesThrough.of_after sources w succeeded
  · exact through
  · rw [answer, pull_of_done done] at going
    exact absurd rfl going

lemma goesThrough_of_failed (failed : w.answer sources count = .error cause) :
    w.GoesThrough sources count (w.after sources count) := goesThrough_of_going (by rw [failed]; nofun)

/-- An error of a run of a finished format comes from one point that the run passes, where a field is refused. The
offset is the one where that field would start. The variables are as the walk found them there, unless the field is
bound and only refused for reaching beyond the largest offset: then its own variable has been set to what was read. -/
theorem failing_pull_stays {format : Format} (finished : format.check = .ok ()) (start : Nat) (given : Scope) :
    ∃ w, Walk.start format start given = .ok w ∧ ∀ (sources : Nat → Source) (count : Nat) (cause : Error),
      w.answer sources count = .error cause →
        ∃ point, w.GoesThrough sources count point ∧
          Fails (sources count) point cause (w.after sources (count + 1)).scope ∧
          (w.after sources (count + 1)).offset = point.offset ∧
          ((∀ name value, ¬BindsRefused (sources count) point name value) →
            (w.after sources (count + 1)).scope = point.scope) ∧
          ∀ name value, BindsRefused (sources count) point name value →
            cause = .offsetOverflow point.offset value.base.width ∧
            (w.after sources (count + 1)).scope.get? name = some value ∧
            ∀ other, other ≠ name → (w.after sources (count + 1)).scope.get? other = point.scope.get? other := by
  refine ⟨ofLayout format.nodes start given, start_of_finished finished start given, fun sources count cause failed => ?_⟩
  obtain ⟨point, passed, answered⟩ := (goesThrough_of_failed failed).exists_answering
  obtain ⟨fails, stays⟩ := step_fails answered failed
  refine ⟨point, passed, fails, stays, fails.scope_of_not_binds, fun name value binds => ?_⟩
  obtain ⟨bound, beyond⟩ := fails.scope_of_binds binds
  rw [after, bound]
  exact ⟨beyond, Scope.get?_set_self, fun other apart => Scope.get?_set_of_ne apart⟩

/-- A second field of two bytes where only one is left: the run stays behind the first, whose value stays bound. -/
theorem failing_pull_stays_short :
    let format : Format := ⟨.scalar ⟨"Length", ⟨.unsigned .one, .big⟩, .red, some "n"⟩
      (.scalar ⟨"Sum", ⟨.unsigned .two, .big⟩, .blue, some "n"⟩ .nil), []⟩
    let sources : Nat → Source := fun _ => .ofBytes #[7, 8]
    format.check = .ok () ∧ ∃ w, Walk.start format 0 .empty = .ok w ∧
      w.answer sources 1 = .error (.io (.outOfRange 2 1)) ∧
      ∃ point, w.GoesThrough sources 1 point ∧ point.offset = 1 ∧ (w.after sources 2).scope = point.scope ∧
        (w.after sources 2).scope.get? "n" = some ⟨.unsigned .one, 7⟩ := by
  intro format sources
  have finished : format.check = .ok () := rfl
  obtain ⟨w, started, holds⟩ := failing_pull_stays finished 0 .empty
  cases started
  have failed : answer sources (ofLayout format.nodes 0 .empty) 1 = .error (.io (.outOfRange 2 1)) := by cbv
  obtain ⟨point, passed, -, stays, kept, binds⟩ := holds sources 1 _ failed
  have unbound (name : String) (value : Value) : ¬BindsRefused (sources 1) point name value := by
    intro refused
    obtain ⟨other, -⟩ := binds name value refused
    cases other
  exact ⟨finished, _, rfl, failed, point, passed, stays.symm.trans (by cbv), kept unbound, by cbv⟩

/-- A bound field at the largest offset: it is refused, but its variable, which nothing had set, is set. -/
theorem failing_pull_binds :
    let format : Format := ⟨.scalar ⟨"x", ⟨.unsigned .one, .big⟩, .white, some "x"⟩ .nil, []⟩
    let sources : Nat → Source := fun _ => ⟨none, fun _ length => .ok (List.replicate length 255)⟩
    format.check = .ok () ∧ ∃ w, Walk.start format maxOffset .empty = .ok w ∧
      w.answer sources 0 = .error (.offsetOverflow maxOffset 1) ∧
      ∀ point, w.GoesThrough sources 0 point →
        ¬∀ name, (w.after sources 1).scope.get? name = point.scope.get? name := by
  intro format sources
  refine ⟨rfl, ofLayout format.nodes maxOffset .empty, rfl, by cbv, fun point passed unchanged => ?_⟩
  obtain rfl := passed.eq_start rfl
  have set : (after sources (ofLayout format.nodes maxOffset .empty) 1).scope.get? "x" =
      some ⟨.unsigned .one, 255⟩ := by cbv
  cases set.symm.trans (unchanged "x")

end Walk
end ByteAtlas
