import ByteAtlas.Proofs.Viewer.Paging
import ByteAtlas.Proofs.Walk.Halting

/-!
# The limit of a run

A run prints no more spans than its limit, but for one case: a span that is sought is printed even if the limit is zero
(`run_limit`). A run that has printed as many spans as its limit says so, always. Whether there is one more is only known
after another pull, so what it says is right exactly if the course goes on behind what was printed (`run_notice`).
-/

namespace ByteAtlas.Viewer

open Cache

variable {d : Directory} {options : Options} {source : Source} {cache : Cache} {args front back : List String}
  {spans : List Span} {limit : Nat}

/-! What is shown. -/

/-- What is shown are the spans of the course from some place on: from the start, or from the span that is sought. If
none is found nothing is shown, as at the end of the course. -/
lemma shown_eq_take (opens : Opens d options source cache) :
    ∃ before ahead, (cache.course source).spans = before ++ ahead ∧
      ∀ limit, 1 ≤ limit → shown { options with limit := limit } source cache = ahead.take limit := by
  obtain from_start | ⟨offset, sought⟩ := Option.eq_none_or_eq_some options.seek
  · exact ⟨[], _, rfl, fun limit _ => shown_start opens from_start limit⟩
  · have sought (limit : Nat) : { options with limit := limit : Options }.seek = some offset := sought
    obtain ⟨number, span, -, found⟩ | ⟨-, missed⟩ := opens.presents.1.seekTo offset
    · obtain ⟨within, numbered⟩ := List.getElem?_eq_some_iff.1 found.numbered
      refine ⟨_, _, (List.take_append_drop number _).symm, fun limit at_least => ?_⟩
      rw [shown_of_found (sought limit) found, List.drop_eq_getElem_cons within, numbered, ← List.take_succ_cons,
        Nat.sub_add_cancel at_least]
    · refine ⟨_, [], (List.append_nil _).symm, fun limit _ => ?_⟩
      rw [shown_of_missed (sought limit) missed, List.take_nil]

/-- No more is shown than the limit, unless a span is sought and the limit is zero. -/
lemma length_shown (opens : Opens d options source cache) :
    (shown options source cache).length ≤ options.limit ∨
      options.limit = 0 ∧ ∃ offset span, options.seek = some offset ∧ span.contains offset ∧
        shown options source cache = [span] := by
  obtain from_start | ⟨offset, sought⟩ := Option.eq_none_or_eq_some options.seek
  · have shown_first := shown_start opens from_start options.limit
    exact .inl (shown_first ▸ List.length_take_le ..)
  · obtain ⟨number, span, covers, found⟩ | ⟨-, missed⟩ := opens.presents.1.seekTo offset
    · rw [shown_of_found sought found]
      have few := List.length_take_le (options.limit - 1) ((cache.course source).spans.drop (number + 1))
      rcases nothing : options.limit with _ | more
      · exact .inr ⟨rfl, offset, span, sought, covers, rfl⟩
      · rw [nothing] at few
        exact .inl (Nat.succ_le_succ few)
    · rw [shown_of_missed sought missed]
      exact .inl (Nat.zero_le _)

/-- Which limit a run has. -/
lemma limit_of_ofArgs (first : ∀ arg ∈ front, ¬arg.startsWith "--limit=")
    (asked : Options.ofArgs (front ++ limitArg limit :: back) = .ok options) : options.limit = limit := by
  rw [ofArgs_leading (leading_append first back)] at asked
  cases others : Options.ofOthers (front ++ back) with
  | error text =>
    rw [others] at asked
    cases asked
  | ok options =>
    rw [others, Except.bind] at asked
    split at asked <;> cases asked
    rfl

/-- Whatever is asked for besides, a run prints no more spans than its limit, or its limit is zero and it prints the one
that it seeks. If it comes to no spans it prints nothing, unless it lists names. -/
theorem run_limit (first : ∀ arg ∈ front, ¬arg.startsWith "--limit=") :
    (∀ spans, Prints d (front ++ limitArg limit :: back) spans →
      (∃ preview, (run d (front ++ limitArg limit :: back)).out = String.join (spans.map (Span.dump preview))) ∧
      (spans.length ≤ limit ∨
        limit = 0 ∧ ∃ options offset span, Options.ofArgs (front ++ limitArg limit :: back) = .ok options ∧
          options.seek = some offset ∧ span.contains offset ∧ spans = [span])) ∧
    ((∀ spans, ¬Prints d (front ++ limitArg limit :: back) spans) →
      (run d (front ++ limitArg limit :: back)).out = "" ∨
        ∃ options, Options.ofArgs (front ++ limitArg limit :: back) = .ok options ∧ options.list = true) := by
  constructor
  · rintro spans ⟨options, source, cache, asked, opens, rfl⟩
    refine ⟨⟨_, out_of_opens asked opens⟩, ?_⟩
    obtain rfl := limit_of_ofArgs first asked
    obtain within | ⟨nothing, offset, span, sought, covers, shows⟩ := length_shown opens
    · exact .inl within
    · exact .inr ⟨nothing, options, offset, span, asked, sought, covers, shows⟩
  · intro silent
    by_cases lists : ∃ options, Options.ofArgs (front ++ limitArg limit :: back) = .ok options ∧ options.list = true
    · exact .inr lists
    · refine .inl (out_eq_empty silent fun options asked => ?_)
      exact Bool.eq_false_of_not_eq_true fun list => lists ⟨options, asked, list⟩

/-- One span where one is allowed. -/
theorem run_limit_one :
    (∀ arg ∈ ([] : List String), ¬arg.startsWith "--limit=") ∧
      ∃ spans, Prints twoStrings ([] ++ limitArg 1 :: ["--format=strings", "a.str"]) spans ∧ spans.length = 1 ∧
        ∃ preview, (run twoStrings ([] ++ limitArg 1 :: ["--format=strings", "a.str"])).out =
          String.join (spans.map (Span.dump preview)) := by
  have first : ∀ arg ∈ ([] : List String), ¬arg.startsWith "--limit=" := nofun
  obtain ⟨out, -⟩ := (run_limit first).1 _ prints_twoStrings
  exact ⟨first, _, prints_twoStrings, rfl, out⟩

/-- The span at an offset that is sought, where none is allowed. -/
theorem run_limit_exceeded :
    ∃ spans, Prints twoStrings ["--format=strings", seekArg 1, limitArg 0, "a.str"] spans ∧ 0 < spans.length ∧
      (run twoStrings ["--format=strings", seekArg 1, limitArg 0, "a.str"]).out ≠ "" := by
  have asked : Options.ofArgs ["--format=strings", seekArg 1, limitArg 0, "a.str"] =
      .ok ⟨false, false, some "strings", some 1, 0, ["a.str"]⟩ := by
    cbv
  have prints : Prints twoStrings ["--format=strings", seekArg 1, limitArg 0, "a.str"]
      [⟨"Entry > String", .green, 1, 1⟩] :=
    prints_twoStrings_of asked rfl rfl rfl (by decide +kernel)
  refine ⟨_, prints, Nat.one_pos, ?_⟩
  obtain ⟨options, source, cache, asked, opens, shows⟩ := prints
  rw [out_of_opens asked opens, ← shows]
  intro none
  simp [Span.dump, String.append_eq_empty_iff] at none

/-! What is said about the end. -/

/-- A listing that is as long as it may be has not come to an end: it ends without a remark, and the walk goes on. -/
lemma listing_of_full (preview : Option Source) (presents : Presents source cache) (going : cache.isExhausted = false)
    (full : (cache.upcoming source limit).length = limit) :
    (listing source preview cache limit).remark = "" ∧
      (listing source preview cache limit).cache.isExhausted = false := by
  induction limit generalizing cache with
  | zero => exact ⟨rfl, going⟩
  | succ limit ih =>
    rw [upcoming] at full
    rw [listing]
    obtain ⟨span, found⟩ | ⟨-, missed⟩ := presents.next
    · rw [found.outcome_eq] at full ⊢
      exact ih found.presents (found.exhausted.trans going) (Nat.succ_inj.1 full)
    · split at full
      · next given => exact absurd (congrArg Prod.fst given) missed.no_span
      · cases full

/-- What is said when there are as many spans as there may be, with those given already. -/
lemma listFrom_of_full (preview : Option Source) {given : List String} (presents : Presents source cache)
    (going : cache.isExhausted = false)
    (full : given.length + (cache.upcoming source (limit - given.length)).length = limit) :
    (listFrom source preview limit given cache).2 = limitRemark limit := by
  have all : (cache.upcoming source (limit - given.length)).length = limit - given.length := by omega
  obtain ⟨silent, goes_on⟩ := listing_of_full preview presents going all
  rw [listFrom]
  simp [silent, goes_on, texts_listing, full]

/-- A run that prints as many spans as its limit says that it has stopped there. -/
lemma err_of_full (asked : Options.ofArgs args = .ok options) (opens : Opens d options source cache)
    (at_least : 1 ≤ options.limit) (full : (shown options source cache).length = options.limit) :
    ∃ path name, options.files.head? = some path ∧
      (run d args).err = path ++ ": format " ++ name ++ "\n" ++ limitRemark options.limit := by
  obtain ⟨presents, -⟩ := opens.presents
  have going : cache.isExhausted = false := by
    obtain ⟨format, rfl⟩ := opens.eq_ofFormat
    rfl
  obtain ⟨path, name, head, ran⟩ := run_of_opens asked opens
  refine ⟨path, name, head, ?_⟩
  rw [ran, view]
  obtain from_start | ⟨offset, sought⟩ := Option.eq_none_or_eq_some options.seek
  · rw [shown, from_start] at full
    rw [from_start]
    dsimp only at full ⊢
    rw [listFrom_of_full _ presents going (by simpa using full)]
  · obtain ⟨number, span, -, found⟩ | ⟨-, missed⟩ := presents.seekTo offset
    · rw [shown, sought] at full
      rw [sought]
      dsimp only at full ⊢
      rw [found.outcome_eq] at full ⊢
      dsimp only at full ⊢
      rw [listFrom_of_full _ found.presents (found.exhausted.trans going) (by simpa [Nat.add_comm] using full)]
    · rw [shown_of_missed sought missed] at full
      rw [← full] at at_least
      cases at_least

lemma Prints.unique {more : List Span} (prints : Prints d args spans) (prints' : Prints d args more) : spans = more := by
  obtain ⟨options, source, cache, asked, opens, same⟩ := prints
  exact same.trans ((prints_iff asked opens).1 prints').symm

/-- What a run prints is followed by the rest of the course, of which larger limits allow so much more. -/
lemma Prints.extended (first : ∀ arg ∈ front, ¬arg.startsWith "--limit=") (at_least : 1 ≤ limit)
    (prints : Prints d (front ++ limitArg limit :: back) spans) :
    ∃ options source cache before rest, Options.ofArgs (front ++ limitArg limit :: back) = .ok options ∧
      Opens d options source cache ∧ spans = shown options source cache ∧
      (cache.course source).spans = before ++ spans ++ rest ∧
      ∀ more, limit ≤ more → more ≤ maxOffset →
        Prints d (front ++ limitArg more :: back) (spans ++ rest.take (more - limit)) := by
  obtain ⟨fits, options, source, cache, others, opens, rfl⟩ := (prints_leading_iff (leading_append first back)).1 prints
  obtain ⟨before, ahead, course, shows⟩ := shown_eq_take opens
  have asked : Options.ofArgs (front ++ limitArg limit :: back) = .ok { options with limit := limit } := by
    rw [ofArgs_leading (leading_append first back), others]
    exact if_pos fits
  refine ⟨_, source, cache, before, ahead.drop limit, asked, opens, rfl, ?_, fun more within fits => ?_⟩
  · rw [shows limit at_least, List.append_assoc, List.take_append_drop, course]
  · refine (prints_leading_iff (leading_append first back)).2 ⟨fits, options, source, cache, others, opens, ?_⟩
    rw [shows limit at_least, shows more (Nat.le_trans at_least within), ← List.take_add, Nat.add_sub_cancel' within]

/-- A run that prints as many spans as its limit always says that it has stopped there and that there is more. That is
so exactly if the course of its file goes on behind them: then larger limits print more, and otherwise none does. -/
theorem run_notice (first : ∀ arg ∈ front, ¬arg.startsWith "--limit=") (at_least : 1 ≤ limit)
    (prints : Prints d (front ++ limitArg limit :: back) spans) (full : spans.length = limit) :
    ∃ options source cache before rest path name,
      Options.ofArgs (front ++ limitArg limit :: back) = .ok options ∧ Opens d options source cache ∧
      options.files.head? = some path ∧ (cache.course source).spans = before ++ spans ++ rest ∧
      (run d (front ++ limitArg limit :: back)).err =
        path ++ ": format " ++ name ++ "\n" ++ limitRemark limit ∧
      (∀ more, limit ≤ more → more ≤ maxOffset →
        Prints d (front ++ limitArg more :: back) (spans ++ rest.take (more - limit))) ∧
      (rest ≠ [] ↔ ∃ more longer, limit < more ∧ Prints d (front ++ limitArg more :: back) longer ∧
        spans.length < longer.length) := by
  obtain ⟨options, source, cache, before, rest, asked, opens, shows, course, extended⟩ := prints.extended first at_least
  obtain rfl := limit_of_ofArgs first asked
  obtain ⟨path, name, head, said⟩ := err_of_full asked opens at_least (by rw [← shows, full])
  refine ⟨options, source, cache, before, rest, path, name, asked, opens, head, course, said, extended, ?_⟩
  constructor
  · intro goes_on
    have some_more := List.length_pos_iff.2 goes_on
    -- The spans lie side by side, so they cannot be more than there are offsets.
    have few := (cache.course_tiles source).length_le
    rw [course, List.length_append, List.length_append, full] at few
    refine ⟨options.limit + 1, _, Nat.lt_succ_self _, extended _ (Nat.le_succ _) (by omega), ?_⟩
    rw [List.length_append, List.length_take]
    omega
  · rintro ⟨more, longer, larger, prints', longer_than⟩ rfl
    have fits := ((prints_leading_iff (leading_append first back)).1 prints').1
    have same := prints'.unique (extended more (Nat.le_of_lt larger) fits)
    rw [List.take_nil, List.append_nil] at same
    exact absurd longer_than (same ▸ Nat.lt_irrefl _)

/-- The first span of a file with more of them: what is said is right. -/
theorem run_notice_right :
    (∀ arg ∈ ([] : List String), ¬arg.startsWith "--limit=") ∧ 1 ≤ 1 ∧
      Prints twoStrings ([] ++ limitArg 1 :: ["--format=strings", "a.str"]) [⟨"Entry > Length", .red, 0, 0⟩] ∧
      (∃ path name, (run twoStrings ([] ++ limitArg 1 :: ["--format=strings", "a.str"])).err =
        path ++ ": format " ++ name ++ "\n" ++ limitRemark 1) ∧
      ∃ more longer, 1 < more ∧ Prints twoStrings ([] ++ limitArg more :: ["--format=strings", "a.str"]) longer ∧
        1 < longer.length := by
  have first : ∀ arg ∈ ([] : List String), ¬arg.startsWith "--limit=" := nofun
  obtain ⟨options, source, cache, before, rest, path, name, -, -, -, -, said, -, -⟩ :=
    run_notice first (Nat.le_refl 1) prints_twoStrings rfl
  have asked : Options.ofArgs ([] ++ limitArg 2 :: ["--format=strings", "a.str"]) =
      .ok ⟨false, false, some "strings", none, 2, ["a.str"]⟩ := by
    cbv
  have two : Prints twoStrings ([] ++ limitArg 2 :: ["--format=strings", "a.str"])
      [⟨"Entry > Length", .red, 0, 0⟩, ⟨"Entry > String", .green, 1, 1⟩] :=
    prints_twoStrings_of asked rfl rfl rfl (by decide +kernel)
  exact ⟨first, Nat.le_refl 1, prints_twoStrings, ⟨path, name, said⟩, 2, _, by decide, two, by decide⟩

/-- Both spans of a format that has no more: it is said that there are more, but no limit shows any. -/
theorem run_notice_wrong :
    ∃ spans, Prints twoStrings [limitArg 2, "--format=string_entry", "a.str"] spans ∧ spans.length = 2 ∧
      (∃ path name, (run twoStrings [limitArg 2, "--format=string_entry", "a.str"]).err =
        path ++ ": format " ++ name ++ "\n" ++ limitRemark 2) ∧
      ∀ more longer, 2 < more → Prints twoStrings [limitArg more, "--format=string_entry", "a.str"] longer →
        longer = spans := by
  have first : ∀ arg ∈ ([] : List String), ¬arg.startsWith "--limit=" := nofun
  have asked : Options.ofArgs [limitArg 2, "--format=string_entry", "a.str"] =
      .ok ⟨false, false, some "string_entry", none, 2, ["a.str"]⟩ := by
    cbv
  have asked_more : Options.ofArgs [limitArg 3, "--format=string_entry", "a.str"] =
      .ok ⟨false, false, some "string_entry", none, 3, ["a.str"]⟩ := by
    cbv
  have two : Prints twoStrings [limitArg 2, "--format=string_entry", "a.str"]
      [⟨"Length", .red, 0, 0⟩, ⟨"String", .green, 1, 1⟩] :=
    prints_twoStrings_of asked rfl rfl rfl (by decide +kernel)
  have no_third : Prints twoStrings [limitArg 3, "--format=string_entry", "a.str"]
      [⟨"Length", .red, 0, 0⟩, ⟨"String", .green, 1, 1⟩] :=
    prints_twoStrings_of asked_more rfl rfl rfl (by decide +kernel)
  obtain ⟨options, source, cache, before, rest, asked', opens, shows, -, extended⟩ :=
    Prints.extended first (by decide) two
  cases asked.symm.trans asked'
  obtain ⟨path, name, -, said⟩ := err_of_full asked opens (by decide) (by rw [← shows]; rfl)
  have none_left : rest.take 1 = [] :=
    List.self_eq_append_right.1 (no_third.unique (extended 3 (by decide) (by decide)))
  have ended : rest = [] := (List.take_eq_nil_iff.1 none_left).resolve_left Nat.one_ne_zero
  refine ⟨_, two, rfl, ⟨path, name, said⟩, fun more longer larger prints => ?_⟩
  have fits := ((prints_leading_iff (leading_append first _)).1 prints).1
  rw [prints.unique (extended more (Nat.le_of_lt larger) fits), ended, List.take_nil, List.append_nil]

end ByteAtlas.Viewer
