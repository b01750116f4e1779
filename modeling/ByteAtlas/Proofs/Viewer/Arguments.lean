import ByteAtlas.Viewer
import Mathlib

/-!
# Arguments

What one more argument changes in what arguments ask for, wherever it stands among them (`Inserted`), as long as it is
the first of its form (`Leading`): a limit is the limit, if sixty-four bits hold it (`ofArgs_leading`), and an offset to
seek is where to begin (`ofArgs_seek`). Neither of them touches anything else that the other arguments ask for.
-/

namespace ByteAtlas.Viewer

/-- The argument for a limit. -/
def limitArg (limit : Nat) : String := "--limit=" ++ toString limit

/-- The argument for an offset to seek. -/
def seekArg (offset : Nat) : String := "--seek=" ++ toString offset

/-- Arguments, and the same with one more somewhere. -/
inductive Inserted (arg : String) : List String → List String → Prop where
  | here {args} : Inserted arg args (arg :: args)
  | later {other args more} : Inserted arg args more → Inserted arg (other :: args) (other :: more)

/-- Arguments, and the same with one more that stands in front of all others of a form. -/
inductive Leading (form : String → Bool) (arg : String) : List String → List String → Prop where
  | here {args} : Leading form arg args (arg :: args)
  | later {other args more} : form other = false → Leading form arg args more →
    Leading form arg (other :: args) (other :: more)

section

variable {arg option text : String} {args more : List String} {form p : String → Bool}

lemma Inserted.mem_iff {other : String} (inserted : Inserted arg args more) :
    other ∈ more ↔ other = arg ∨ other ∈ args := by
  induction inserted with
  | here => exact List.mem_cons
  | later _ ih => rw [List.mem_cons, ih, List.mem_cons, or_left_comm]

lemma Inserted.leading (inserted : Inserted arg args more) (none : ∀ other ∈ args, ¬form other = true) :
    Leading form arg args more := by
  induction inserted with
  | here => exact .here
  | later _ ih =>
    obtain ⟨other, none⟩ := List.forall_mem_cons.1 none
    exact .later (Bool.eq_false_of_not_eq_true other) (ih none)

lemma leading_append {front : List String} (none : ∀ other ∈ front, ¬form other = true) (back : List String) :
    Leading form arg (front ++ back) (front ++ arg :: back) := by
  induction front with
  | nil => exact .here
  | cons other front ih =>
    obtain ⟨here, none⟩ := List.forall_mem_cons.1 none
    exact .later (Bool.eq_false_of_not_eq_true here) (ih none)

namespace Leading

lemma find? (leading : Leading form arg args more) (other : p arg = false) : more.find? p = args.find? p := by
  induction leading with
  | here => rw [List.find?_cons_of_neg (by simp [other])]
  | later _ _ ih => rw [List.find?_cons, List.find?_cons, ih]

lemma any (leading : Leading form arg args more) (other : p arg = false) : more.any p = args.any p := by
  induction leading with
  | here => rw [List.any_cons, other, Bool.false_or]
  | later _ _ ih => rw [List.any_cons, List.any_cons, ih]

lemma eraseP (leading : Leading form arg args more) (other : p arg = false) :
    Leading form arg (args.eraseP p) (more.eraseP p) := by
  induction leading with
  | here =>
    rw [List.eraseP_cons_of_neg (by simp [other])]
    exact .here
  | @later first args more behind rest ih =>
    cases found : p first with
    | true =>
      rw [List.eraseP_cons_of_pos found, List.eraseP_cons_of_pos found]
      exact rest
    | false =>
      rw [List.eraseP_cons_of_neg (by simp [found]), List.eraseP_cons_of_neg (by simp [found])]
      exact .later behind ih

/-- Of those that have the form the one that leads is found. -/
lemma first (leading : Leading form arg args more) (found : form arg = true) :
    more.find? form = some arg ∧ more.eraseP form = args := by
  induction leading with
  | here => exact ⟨List.find?_cons_of_pos found, List.eraseP_cons_of_pos found⟩
  | later behind _ ih =>
    rw [List.find?_cons_of_neg (by simp [behind]), List.eraseP_cons_of_neg (by simp [behind])]
    obtain ⟨first, erased⟩ := ih
    exact ⟨first, congrArg _ erased⟩

lemma takeFlag (leading : Leading form arg args more) (flags : List String) (other : flags.contains arg = false) :
    ∃ flag args' more', takeFlag flags args = (flag, args') ∧ takeFlag flags more = (flag, more') ∧
      Leading form arg args' more' ∧ args' ⊆ args := by
  refine ⟨_, _, _, rfl, ?_, leading.eraseP other, List.eraseP_subset⟩
  rw [Viewer.takeFlag, leading.any other]

lemma takeValue (leading : Leading form arg args more) (option : String) (other : arg.startsWith option = false) :
    ∃ value args' more', takeValue option args = (value, args') ∧ takeValue option more = (value, more') ∧
      Leading form arg args' more' ∧ args' ⊆ args := by
  refine ⟨_, _, _, rfl, ?_, leading.eraseP (p := (·.startsWith option)) other, List.eraseP_subset⟩
  rw [Viewer.takeValue, leading.find? other]

/-- The value of an option that leads is what stands behind it. -/
lemma takeValue_self (leading : Leading (·.startsWith option) (option ++ text) args more) :
    Viewer.takeValue option more = (some text, args) := by
  have found : (option ++ text).startsWith option = true := by
    rw [String.startsWith_string_iff, String.toList_append]
    exact List.prefix_append _ _
  obtain ⟨first, erased⟩ := leading.first found
  rw [Viewer.takeValue, first, erased, Option.map_some, String.toList_append, ← String.length_toList, List.drop_left,
    String.ofList_toList]

end Leading

lemma takeValue_of_none (none : ∀ other ∈ args, ¬other.startsWith option) :
    takeValue option args = (.none, args) := by
  rw [takeValue, List.find?_eq_none.2 none, List.eraseP_of_forall_not none]
  rfl

end

section

variable {args more : List String} {limit offset : Nat}

/-- Digits are read as the number that they spell. -/
lemma readDigits?_of_isDigit {chars : List Char} (some_char : chars ≠ [])
    (digits : ∀ c ∈ chars, c.isDigit = true) :
    Text.readDigits? 10 Text.decimalValue? chars = some (Nat.ofDigitChars 10 chars 0) := by
  have value : ∀ c ∈ chars, Text.decimalValue? c = some (c.toNat - '0'.toNat) := by
    intro c member
    have digit := digits c member
    rw [Char.isDigit, Bool.and_eq_true, decide_eq_true_eq, decide_eq_true_eq] at digit
    exact if_pos digit
  have fold : ∀ start, chars.foldlM (fun n c => (Text.decimalValue? c).map (10 * n + ·)) start =
      some (Nat.ofDigitChars 10 chars start) := by
    clear some_char digits
    induction chars with
    | nil => exact fun start => rfl
    | cons c chars ih =>
      obtain ⟨here, value⟩ := List.forall_mem_cons.1 value
      intro start
      rw [List.foldlM_cons, here, Nat.ofDigitChars_cons]
      exact ih value _
  cases chars with
  | nil => exact absurd rfl some_char
  | cons c chars => exact fold 0

lemma number?_toString (n : Nat) : number? (toString n) = inRange n := by
  have digits : ∀ c ∈ Nat.toDigits 10 n, c.isDigit = true := fun c =>
    Nat.isDigit_of_mem_toDigits (by decide) (by decide)
  have read := readDigits?_of_isDigit Nat.toDigits_ne_nil digits
  rw [Nat.ofDigitChars_toDigits (by decide) (by decide)] at read
  -- A sign would not be a digit.
  rw [number?, Nat.toString_eq_ofList_toDigits, String.toList_ofList, Text.readSigned?]
  · rw [read]
    rfl
  · intro rest signed
    cases digits '+' (by rw [signed]; exact List.mem_cons_self)

lemma offset?_toString (n : Nat) : offset? (toString n) = inRange n := by
  have digits : ∀ c ∈ Nat.toDigits 10 n, c.isDigit = true := fun c =>
    Nat.isDigit_of_mem_toDigits (by decide) (by decide)
  -- What stands behind a base in front would not be a digit.
  rw [← number?_toString, offset?]
  split
  · next hexadecimal =>
    rw [Nat.toString_eq_ofList_toDigits, String.toList_ofList] at hexadecimal
    cases digits 'x' (by simp [hexadecimal])
  · next hexadecimal =>
    rw [Nat.toString_eq_ofList_toDigits, String.toList_ofList] at hexadecimal
    cases digits 'X' (by simp [hexadecimal])
  · rfl

/-- What arguments ask for if no limit is looked for among them. -/
def Options.ofOthers (args : List String) : Except String Options := do
  let (preview, args) := takeFlag ["--hex", "-x"] args
  let (list, args) := takeFlag ["--list"] args
  let (format, args) := takeValue "--format=" args
  let (seekText, args) := takeValue "--seek=" args
  let seek ← readOption offset? "bad --seek offset: " seekText
  .ok ⟨preview, list, format, seek, 256, args⟩

/-- The first limit among the arguments changes nothing but the limit. One that does not fit in sixty-four bits is
refused. -/
lemma ofArgs_leading (leading : Leading (·.startsWith "--limit=") (limitArg limit) args more) :
    Options.ofArgs more = (Options.ofOthers args).bind fun options =>
      if limit ≤ maxOffset then .ok { options with limit := limit }
      else .error ("bad --limit: " ++ toString limit) := by
  obtain ⟨preview, args₁, more₁, hex, hex', leading, -⟩ :=
    leading.takeFlag ["--hex", "-x"] (by simp [limitArg, ← String.toList_inj])
  obtain ⟨list, args₂, more₂, lists, lists', leading, -⟩ :=
    leading.takeFlag ["--list"] (by simp [limitArg, ← String.toList_inj])
  obtain ⟨format, args₃, more₃, formats, formats', leading, -⟩ :=
    leading.takeValue "--format=" (by simp [limitArg, String.startsWith_string_eq_false_iff])
  obtain ⟨seek, args₄, more₄, seeks, seeks', leading, -⟩ :=
    leading.takeValue "--seek=" (by simp [limitArg, String.startsWith_string_eq_false_iff])
  simp only [Options.ofArgs, Options.ofOthers, hex, hex', lists, lists', formats, formats', seeks, seeks',
    leading.takeValue_self]
  cases readOption offset? "bad --seek offset: " seek with
  | error text => rfl
  | ok seek =>
    by_cases fits : limit ≤ maxOffset
    · simp only [readOption, number?_toString, inRange, if_pos fits]
      rfl
    · simp only [readOption, number?_toString, inRange, if_neg fits]
      rfl

/-- Without a limit that is all there is to ask for. -/
lemma ofArgs_eq_ofOthers (no_limit : ∀ arg ∈ args, ¬arg.startsWith "--limit=") :
    Options.ofArgs args = Options.ofOthers args := by
  have kept : (takeValue "--seek=" (takeValue "--format=" (takeFlag ["--list"]
      (takeFlag ["--hex", "-x"] args).2).2).2).2 ⊆ args :=
    List.Subset.trans List.eraseP_subset (List.Subset.trans List.eraseP_subset
      (List.Subset.trans List.eraseP_subset List.eraseP_subset))
  simp only [Options.ofArgs, Options.ofOthers, takeValue_of_none fun arg member => no_limit arg (kept member)]
  rfl

/-- A limit among the arguments changes nothing but the limit, if it is the only one. -/
lemma ofArgs_limit (inserted : Inserted (limitArg limit) args more)
    (no_limit : ∀ arg ∈ args, ¬arg.startsWith "--limit=") :
    Options.ofArgs more = (Options.ofArgs args).bind fun options =>
      if limit ≤ maxOffset then .ok { options with limit := limit }
      else .error ("bad --limit: " ++ toString limit) := by
  rw [ofArgs_leading (inserted.leading no_limit), ofArgs_eq_ofOthers no_limit]

lemma ofArgs_limit_of_fits {options : Options} (inserted : Inserted (limitArg limit) args more)
    (no_limit : ∀ arg ∈ args, ¬arg.startsWith "--limit=") (fits : limit ≤ maxOffset)
    (asked : Options.ofArgs args = .ok options) : Options.ofArgs more = .ok { options with limit := limit } := by
  rw [ofArgs_limit inserted no_limit, asked]
  exact if_pos fits

/-- Arguments without an offset to seek ask to begin at the start. -/
lemma seek_of_ofArgs {options : Options} (asked : Options.ofArgs args = .ok options)
    (no_seek : ∀ arg ∈ args, ¬arg.startsWith "--seek=") : options.seek = none := by
  have kept : (takeValue "--format=" (takeFlag ["--list"] (takeFlag ["--hex", "-x"] args).2).2).2 ⊆ args :=
    List.Subset.trans List.eraseP_subset (List.Subset.trans List.eraseP_subset List.eraseP_subset)
  simp only [Options.ofArgs, takeValue_of_none fun arg member => no_seek arg (kept member)] at asked
  generalize readOption number? _ _ = limit at asked
  cases limit with
  | error text => cases asked
  | ok limit =>
    cases asked
    rfl

/-- An offset to seek among the arguments changes nothing but where to begin. -/
lemma ofArgs_seek (inserted : Inserted (seekArg offset) args more) (reach : offset ≤ maxOffset)
    (no_seek : ∀ arg ∈ args, ¬arg.startsWith "--seek=") :
    Options.ofArgs more = (Options.ofArgs args).map fun options => { options with seek := some offset } := by
  have leading : Leading (·.startsWith "--seek=") (seekArg offset) args more := inserted.leading no_seek
  obtain ⟨preview, args₁, more₁, hex, hex', leading, within₁⟩ :=
    leading.takeFlag ["--hex", "-x"] (by simp [seekArg, ← String.toList_inj])
  obtain ⟨list, args₂, more₂, lists, lists', leading, within₂⟩ :=
    leading.takeFlag ["--list"] (by simp [seekArg, ← String.toList_inj])
  obtain ⟨format, args₃, more₃, formats, formats', leading, within₃⟩ :=
    leading.takeValue "--format=" (by simp [seekArg, String.startsWith_string_eq_false_iff])
  have no_seek : ∀ arg ∈ args₃, ¬arg.startsWith "--seek=" := fun arg member =>
    no_seek arg (within₁ (within₂ (within₃ member)))
  have read : readOption offset? "bad --seek offset: " (some (toString offset)) = .ok (some offset) := by
    rw [readOption, offset?_toString, inRange, if_pos reach]
  simp only [Options.ofArgs, hex, hex', lists, lists', formats, formats', takeValue_of_none no_seek,
    leading.takeValue_self, read]
  cases readOption number? "bad --limit: " (takeValue "--limit=" args₃).1 with
  | error text => rfl
  | ok limit => rfl

/-- A limit and an offset to seek, in either order, are both asked for. -/
lemma ofArgs_limit_seek {options : Options} {both : List String} (asks_limit : Inserted (limitArg limit) args more)
    (asks_seek : Inserted (seekArg offset) more both) (no_limit : ∀ arg ∈ args, ¬arg.startsWith "--limit=")
    (no_seek : ∀ arg ∈ args, ¬arg.startsWith "--seek=") (fits : limit ≤ maxOffset) (reach : offset ≤ maxOffset)
    (asked : Options.ofArgs args = .ok options) :
    Options.ofArgs both = .ok { options with seek := some offset, limit := limit } := by
  have no_seek : ∀ arg ∈ more, ¬arg.startsWith "--seek=" := by
    intro arg member
    obtain rfl | member := asks_limit.mem_iff.1 member
    · simp [limitArg, String.startsWith_string_iff]
    · exact no_seek arg member
  rw [ofArgs_seek asks_seek reach no_seek, ofArgs_limit_of_fits asks_limit no_limit fits asked]
  rfl

end

end ByteAtlas.Viewer
