import ByteAtlas.Proofs.Cache.Seek
import ByteAtlas.Proofs.Viewer.Arguments
import ByteAtlas.Proofs.Viewer.BuiltIn
import ByteAtlas.Proofs.Walk.Run

/-!
# Paging

A run that stops at its limit can be taken up where it stopped: the run that seeks the offset behind the last span
that was printed prints what the first run left out (`run_paged`). What is printed are the next spans of the course
(`Cache.Presents.upcoming_eq`), which lie side by side, so that the span that covers the offset behind any of them is
the one after it (`Cache.Presents.seekTo_behind`).
-/

namespace ByteAtlas

/-- Behind any of some spans that lie side by side the others lie side by side. -/
lemma TilesFrom.behind {offset : Nat} {before : List Span} {last : Span} {rest : List Span}
    (tiles : TilesFrom offset (before ++ last :: rest)) : TilesFrom (last.last + 1) rest := by
  induction before generalizing offset with
  | nil =>
    obtain ⟨-, -, -, later⟩ := tiles
    exact later
  | cons span before ih =>
    obtain ⟨-, -, -, later⟩ := tiles
    exact ih later

/-- No span before the last of spans that lie side by side ends behind it. -/
lemma TilesFrom.last_le {offset : Nat} {before : List Span} {last span : Span}
    (tiles : TilesFrom offset (before ++ [last])) (member : span ∈ before ++ [last]) : span.last ≤ last.last := by
  obtain ⟨-, -, ordered⟩ := List.pairwise_append.1 tiles.pairwise
  obtain earlier | same := List.mem_append.1 member
  · have before_last := ordered span earlier last List.mem_cons_self
    have some_bytes := tiles.first_le_last last (by simp)
    omega
  · rw [List.mem_singleton.1 same]

namespace Cache

variable {source : Source} {c : Cache}

/-- The spans that a cache gives next, up to a limit. -/
def upcoming (source : Source) (c : Cache) : Nat → List Span
  | 0 => []
  | limit + 1 =>
    match c.next source with
    | (.ok (some span), moved) => span :: moved.upcoming source limit
    | _ => []

lemma eq_ofFormat_of_start {format : Format} (started : Cache.start format = .ok c) : c = ofFormat format .empty := by
  cases finished : format.check with
  | error cause =>
    rw [Cache.start, finished] at started
    cases started
  | ok =>
    rw [start_of_finished finished] at started
    cases started
    rfl

lemma Missed.no_span {span : Span} {outcome : Answer × Cache} (missed : Missed source c outcome) :
    outcome.1 ≠ .ok (some span) := by
  rw [missed.answer]
  exact closing_ne_span span

lemma Found.outcome_eq {number : Nat} {span : Span} {outcome : Answer × Cache}
    (found : Found source c number span outcome) : outcome = (.ok (some span), outcome.2) :=
  Prod.ext found.answer rfl

lemma Found.cursor {number : Nat} {span : Span} {outcome : Answer × Cache}
    (found : Found source c number span outcome) : outcome.2.cursor = number + 1 := by
  rw [found.presents.cursor, found.last]
  rfl

/-- They are those of the course from the cursor on. -/
lemma Presents.upcoming_eq (h : Presents source c) (limit : Nat) :
    c.upcoming source limit = ((c.course source).spans.drop c.cursor).take limit := by
  induction limit generalizing c with
  | zero => rfl
  | succ limit ih =>
    rw [upcoming]
    obtain ⟨span, found⟩ | ⟨run_out, missed⟩ := h.next
    · obtain ⟨within, numbered⟩ := List.getElem?_eq_some_iff.1 found.numbered
      rw [found.outcome_eq, List.drop_eq_getElem_cons within, numbered, List.take_succ_cons]
      dsimp only
      rw [ih found.presents, found.cursor, course_congr found.format]
    · rw [List.drop_eq_nil_of_le run_out, List.take_nil]
      split
      · next given => exact absurd (congrArg Prod.fst given) missed.no_span
      · rfl

/-- Behind a span of the course a seek finds the next one, or that there is none. -/
lemma Presents.seekTo_behind (h : Presents source c) {before : List Span} {last : Span} {rest : List Span}
    (split : (c.course source).spans = before ++ last :: rest) :
    (∃ span more, rest = span :: more ∧
        Found source c (before.length + 1) span (c.seekTo source (last.last + 1))) ∨
      rest = [] ∧ Missed source c (c.seekTo source (last.last + 1)) := by
  have tiles := c.course_tiles source
  have split_tiles := tiles
  rw [split] at split_tiles
  cases rest with
  | nil =>
    obtain ⟨number, span, covers, found⟩ | ⟨-, missed⟩ := h.seekTo (last.last + 1)
    · have no_later := split_tiles.last_le (split ▸ List.mem_of_getElem? found.numbered)
      exact absurd covers (Span.not_contains (Nat.lt_succ_of_le no_later))
    · exact .inr ⟨rfl, missed⟩
  | cons span more =>
    obtain ⟨first, some_bytes, -, -⟩ := split_tiles.behind
    have covers : span.contains (last.last + 1) := Span.contains_iff.2 ⟨by omega, by omega⟩
    have here : (c.course source).spans[before.length + 1]? = some span := by
      rw [split]
      simp
    obtain ⟨within, -⟩ := List.getElem?_eq_some_iff.1 here
    -- No other span covers the offset, and the course gives no span twice.
    obtain ⟨number, other, covers', found⟩ | ⟨short, -⟩ := h.seekTo (last.last + 1)
    · obtain rfl : other = span :=
        tiles.eq_of_contains (List.mem_of_getElem? found.numbered) (List.mem_of_getElem? here) covers' covers
      obtain rfl : before.length + 1 = number :=
        (List.getElem?_inj within tiles.nodup).1 (here.trans found.numbered.symm)
      exact .inl ⟨_, _, rfl, found⟩
    · exact absurd covers (Span.not_contains (short span (List.mem_of_getElem? here)))

end Cache

namespace Viewer

open Cache

variable {d : Directory} {options : Options} {source : Source} {cache : Cache} {args : List String} {spans : List Span}

/-- The spans that are shown of a source: those from the start, or from the one that covers an offset. -/
def shown (options : Options) (source : Source) (c : Cache) : List Span :=
  match options.seek with
  | none => c.upcoming source options.limit
  | some offset =>
    match c.seekTo source offset with
    | (.ok (some span), moved) => span :: moved.upcoming source (options.limit - 1)
    | _ => []

/-- Whether what was asked for leads as far as to a source, and a cache over its format. -/
def Opens (d : Directory) (options : Options) (source : Source) (cache : Cache) : Prop :=
  options.list = false ∧ ∃ path descriptions registry, options.files = path :: descriptions ∧
    loadFiles d BuiltIn.registry descriptions = .ok registry ∧ d.open? path = .ok source ∧
    registry.activate (options.format.getD (registry.guess source)) = .ok cache

/-- Whether a run prints spans. It prints none if it ends before it has found any. -/
def Prints (d : Directory) (args : List String) (spans : List Span) : Prop :=
  ∃ options source cache, Options.ofArgs args = .ok options ∧ Opens d options source cache ∧
    spans = shown options source cache

/-- What a run prints is settled by what it opens. -/
lemma prints_iff (asked : Options.ofArgs args = .ok options) (opens : Opens d options source cache) :
    Prints d args spans ↔ spans = shown options source cache := by
  constructor
  · rintro ⟨options', source', cache', asked', opens', rfl⟩
    cases asked.symm.trans asked'
    obtain ⟨-, path, descriptions, registry, files, loaded, opened, active⟩ := opens
    obtain ⟨-, path', descriptions', registry', files', loaded', opened', active'⟩ := opens'
    cases files.symm.trans files'
    cases loaded.symm.trans loaded'
    cases opened.symm.trans opened'
    cases active.symm.trans active'
    rfl
  · intro same
    exact ⟨options, source, cache, asked, opens, same⟩

/-- Where texts of bytes are read from, if they are shown. -/
def previewed (options : Options) (source : Source) : Option Source := if options.preview then some source else none

lemma texts_listing (source : Source) (preview : Option Source) (c : Cache) (limit : Nat) :
    (listing source preview c limit).texts = (c.upcoming source limit).map (Span.dump preview) := by
  induction limit generalizing c with
  | zero => rfl
  | succ limit ih =>
    rw [listing, upcoming]
    rcases c.next source with ⟨cause | (_ | span), moved⟩
    · rfl
    · rfl
    · exact congrArg _ (ih moved)

/-- What a run leaves that opens a file is told by what it views of it. -/
lemma run_of_opens (asked : Options.ofArgs args = .ok options) (opens : Opens d options source cache) :
    ∃ path name, options.files.head? = some path ∧ run d args =
      match view options source (previewed options source) cache with
      | .error text => failure (path ++ ": format " ++ name ++ "\n") text
      | .ok (texts, remark) => ⟨0, String.join texts, path ++ ": format " ++ name ++ "\n" ++ remark⟩ := by
  obtain ⟨no_list, path, descriptions, registry, files, loaded, opened, active⟩ := opens
  refine ⟨path, options.format.getD (registry.guess source), by rw [files]; rfl, ?_⟩
  rw [run, asked, BuiltIn.load_eq]
  simp only [files, List.tail_cons, loaded, no_list, Bool.false_eq_true, if_false, viewFile, opened, active]
  rfl

lemma out_of_opens (asked : Options.ofArgs args = .ok options) (opens : Opens d options source cache) :
    (run d args).out = String.join ((shown options source cache).map (Span.dump (previewed options source))) := by
  obtain ⟨path, name, -, ran⟩ := run_of_opens asked opens
  rw [ran, view, shown]
  cases options.seek with
  | none =>
    dsimp only
    rw [listFrom, texts_listing]
    rfl
  | some offset =>
    dsimp only
    rcases cache.seekTo source offset with ⟨cause | (_ | span), moved⟩
    · rfl
    · rfl
    · dsimp only
      rw [listFrom, texts_listing]
      rfl

/-- Only a run that lists names prints anything else. -/
lemma out_eq_empty (silent : ∀ spans, ¬Prints d args spans)
    (no_list : ∀ options, Options.ofArgs args = .ok options → options.list = false) : (run d args).out = "" := by
  rw [run, BuiltIn.load_eq]
  rcases asked : Options.ofArgs args with text | options
  · rfl
  dsimp only
  rcases loaded : loadFiles d BuiltIn.registry options.files.tail with text | registry
  · rfl
  dsimp only
  rw [if_neg (by simp [no_list options asked])]
  rcases files : options.files with _ | ⟨path, descriptions⟩
  · rfl
  dsimp only
  rw [viewFile]
  rcases opened : d.open? path with cause | source
  · rfl
  dsimp only
  rcases active : registry.activate (options.format.getD (registry.guess source)) with cause | cache
  · rfl
  rw [files] at loaded
  exact absurd ⟨options, source, cache, asked, ⟨no_list options asked, path, descriptions, registry, files, loaded,
    opened, active⟩, rfl⟩ (silent _)

/-- What is opened is a cache at the start of its format. -/
lemma Opens.eq_ofFormat (opens : Opens d options source cache) : ∃ format, cache = ofFormat format .empty := by
  obtain ⟨-, -, -, registry, -, -, -, active⟩ := opens
  rw [Registry.activate] at active
  cases found : registry.get? (options.format.getD (registry.guess source)) with
  | none =>
    rw [found] at active
    cases active
  | some format =>
    rw [found] at active
    exact ⟨format, eq_ofFormat_of_start active⟩

lemma Opens.presents (opens : Opens d options source cache) : Presents source cache ∧ cache.cursor = 0 := by
  obtain ⟨format, rfl⟩ := opens.eq_ofFormat
  exact ⟨presents_ofFormat source format .empty, rfl⟩

/-- From a span that is sought and found, those behind it are shown with it. -/
lemma shown_of_found {number offset : Nat} {span : Span} (sought : options.seek = some offset)
    (found : Found source cache number span (cache.seekTo source offset)) :
    shown options source cache = span :: ((cache.course source).spans.drop (number + 1)).take (options.limit - 1) := by
  rw [shown, sought]
  dsimp only
  rw [found.outcome_eq]
  dsimp only
  rw [found.presents.upcoming_eq, found.cursor, course_congr found.format]

lemma shown_of_missed {offset : Nat} (sought : options.seek = some offset)
    (missed : Missed source cache (cache.seekTo source offset)) : shown options source cache = [] := by
  rw [shown, sought]
  dsimp only
  split
  · next given => exact absurd (congrArg Prod.fst given) missed.no_span
  · rfl

/-- From behind a span on, the spans after it are shown. -/
lemma shown_behind (presents : Presents source cache) {before : List Span} {last : Span} {rest : List Span}
    {limit : Nat} (split : (cache.course source).spans = before ++ last :: rest) (at_least : 1 ≤ limit) :
    shown { options with seek := some (last.last + 1), limit := limit } source cache = rest.take limit := by
  obtain ⟨span, more, rfl, found⟩ | ⟨rfl, missed⟩ := presents.seekTo_behind split
  · have behind : (before ++ last :: span :: more).drop (before.length + 1 + 1) = more :=
      List.drop_length_add_append 2
    rw [shown_of_found rfl found, split, behind, ← List.take_succ_cons, Nat.sub_add_cancel at_least]
  · rw [shown_of_missed rfl missed, List.take_nil]

/-- From the start on, the first spans of the course are shown. -/
lemma shown_start (opens : Opens d options source cache) (from_start : options.seek = none) (limit : Nat) :
    shown { options with limit := limit } source cache = (cache.course source).spans.take limit := by
  obtain ⟨presents, begins⟩ := opens.presents
  rw [shown]
  dsimp only
  rw [from_start]
  dsimp only
  rw [presents.upcoming_eq, begins, List.drop_zero]

/-- What is shown from behind the last span shown before is what was left out. -/
lemma shown_paged (opens : Opens d options source cache) (from_start : options.seek = none) {last : Span} {k m : Nat}
    (at_least : 1 ≤ m) (first : spans = shown { options with limit := k } source cache)
    (ends : spans.getLast? = some last) :
    last.last < maxOffset ∧
      shown { options with limit := k + m } source cache =
        spans ++ shown { options with seek := some (last.last + 1), limit := m } source cache := by
  obtain ⟨before, split_spans⟩ := List.getLast?_eq_some_iff.1 ends
  rw [shown_start opens from_start] at first
  have split : (cache.course source).spans = before ++ last :: (cache.course source).spans.drop k := by
    rw [← List.singleton_append, ← List.append_assoc, ← split_spans, first, List.take_append_drop]
  constructor
  · apply (cache.course_tiles source).last_lt last
    rw [split]
    simp
  · rw [shown_start opens from_start, shown_behind opens.presents.1 split at_least, List.take_add, ← first]

/-- What a run prints whose first limit is some number. -/
lemma prints_leading_iff {more : List String} {limit : Nat}
    (leading : Leading (·.startsWith "--limit=") (limitArg limit) args more) :
    Prints d more spans ↔ limit ≤ maxOffset ∧ ∃ options source cache, Options.ofOthers args = .ok options ∧
      Opens d options source cache ∧ spans = shown { options with limit := limit } source cache := by
  rw [Prints, ofArgs_leading leading]
  cases Options.ofOthers args with
  | error text => simp [Except.bind]
  | ok options =>
    by_cases fits : limit ≤ maxOffset
    · simp [Except.bind, fits, Opens]
    · simp [Except.bind, fits]

/-- What a run prints that is asked for a limit. -/
lemma prints_limit_iff {more : List String} {limit : Nat} (asks : Inserted (limitArg limit) args more)
    (no_limit : ∀ arg ∈ args, ¬arg.startsWith "--limit=") :
    Prints d more spans ↔ limit ≤ maxOffset ∧ ∃ options source cache, Options.ofArgs args = .ok options ∧
      Opens d options source cache ∧ spans = shown { options with limit := limit } source cache := by
  rw [prints_leading_iff (asks.leading no_limit), ofArgs_eq_ofOthers no_limit]

/-- Whatever spans a run with a limit prints, the run that seeks on from behind the last of them goes on as if there had
been no stop: both print together what the run with the limits added prints. If that run prints nothing more, the
seeking one prints nothing. A sum of limits that does not fit in sixty-four bits is refused. -/
theorem run_paged {d : Directory} {others first limited second whole : List String} {spans : List Span} {last : Span}
    {k m : Nat} (no_seek : ∀ arg ∈ others, ¬arg.startsWith "--seek=")
    (no_limit : ∀ arg ∈ others, ¬arg.startsWith "--limit=") (at_least : 1 ≤ m)
    (asks_first : Inserted (limitArg k) others first) (printed : Prints d first spans)
    (ends : spans.getLast? = some last) (asks_limit : Inserted (limitArg m) others limited)
    (asks_second : Inserted (seekArg (last.last + 1)) limited second)
    (asks_whole : Inserted (limitArg (k + m)) others whole) :
    (k + m ≤ maxOffset →
      (run d first).out ++ (run d second).out = (run d whole).out ∧
      (∃ more, Prints d second more ∧ Prints d whole (spans ++ more)) ∧
      (Prints d whole spans → (run d second).out = "")) ∧
    (maxOffset < k + m → run d whole = failure "" ("bad --limit: " ++ toString (k + m))) := by
  obtain ⟨fits_first, options, source, cache, asked, opens, shown_first⟩ :=
    (prints_limit_iff asks_first no_limit).1 printed
  obtain ⟨reach, shown_whole⟩ := shown_paged opens (seek_of_ofArgs asked no_seek) at_least shown_first ends
  constructor
  · intro fits
    have fits_second : m ≤ maxOffset := Nat.le_trans (Nat.le_add_left m k) fits
    have asked_first := ofArgs_limit_of_fits asks_first no_limit fits_first asked
    have asked_second := ofArgs_limit_seek asks_limit asks_second no_limit no_seek fits_second reach asked
    have asked_whole := ofArgs_limit_of_fits asks_whole no_limit fits asked
    have out_second := out_of_opens asked_second opens
    refine ⟨?_, ⟨_, (prints_iff asked_second opens).2 rfl, (prints_iff asked_whole opens).2 shown_whole.symm⟩, ?_⟩
    · rw [out_of_opens asked_first opens, out_second, out_of_opens asked_whole opens, ← shown_first, shown_whole,
        List.map_append, String.join_append]
      rfl
    · intro no_more
      have all := (prints_iff asked_whole opens).1 no_more
      rw [shown_whole, List.self_eq_append_right] at all
      rw [out_second, all]
      rfl
  · intro exceeds
    rw [run, ofArgs_limit asks_whole no_limit, asked, Except.bind, if_neg (Nat.not_le.2 exceeds)]

/-- A directory of files that hold two strings, each with its length in front. -/
def twoStrings : Directory := fun _ => .ok (.file #[1, 7, 2, 8, 9])

lemma prints_twoStrings_of {name : String} (asked : Options.ofArgs args = .ok options)
    (no_list : options.list = false) (files : options.files = ["a.str"]) (named : options.format = some name)
    (shows : (BuiltIn.filled.activate name).toOption.map
      (shown options (.ofFile (fileName? "a.str") #[1, 7, 2, 8, 9])) = some spans) :
    Prints twoStrings args spans := by
  rw [← BuiltIn.registry_eq_filled] at shows
  cases active : BuiltIn.registry.activate name with
  | error cause =>
    rw [active] at shows
    cases shows
  | ok cache =>
    rw [active] at shows
    have opens : Opens twoStrings options (.ofFile (fileName? "a.str") #[1, 7, 2, 8, 9]) cache :=
      ⟨no_list, "a.str", [], BuiltIn.registry, files, rfl, rfl, by rw [named]; exact active⟩
    exact ⟨options, _, cache, asked, opens, (Option.some.inj shows).symm⟩

lemma prints_twoStrings :
    Prints twoStrings [limitArg 1, "--format=strings", "a.str"] [⟨"Entry > Length", .red, 0, 0⟩] := by
  have asked : Options.ofArgs [limitArg 1, "--format=strings", "a.str"] =
      .ok ⟨false, false, some "strings", none, 1, ["a.str"]⟩ := by
    cbv
  exact prints_twoStrings_of asked rfl rfl rfl (by decide +kernel)

/-- The first span of a file, then two more. -/
theorem run_paged_strings :
    Prints twoStrings [limitArg 1, "--format=strings", "a.str"] [⟨"Entry > Length", .red, 0, 0⟩] ∧
      (run twoStrings [limitArg 1, "--format=strings", "a.str"]).out ++
          (run twoStrings ["--format=strings", seekArg 1, limitArg 2, "a.str"]).out =
        (run twoStrings ["--format=strings", limitArg 3, "a.str"]).out := by
  have asks_first : Inserted (limitArg 1) ["--format=strings", "a.str"] [limitArg 1, "--format=strings", "a.str"] :=
    .here
  have asks_limit : Inserted (limitArg 2) ["--format=strings", "a.str"] ["--format=strings", limitArg 2, "a.str"] :=
    .later .here
  have asks_second : Inserted (seekArg 1) ["--format=strings", limitArg 2, "a.str"]
      ["--format=strings", seekArg 1, limitArg 2, "a.str"] := .later .here
  have asks_whole : Inserted (limitArg 3) ["--format=strings", "a.str"] ["--format=strings", limitArg 3, "a.str"] :=
    .later .here
  have paged := run_paged (by simp [String.startsWith_string_iff]) (by simp [String.startsWith_string_iff]) (by decide)
    asks_first prints_twoStrings rfl asks_limit asks_second asks_whole
  exact ⟨prints_twoStrings, (paged.1 (by decide)).1⟩

/-- A sum of limits that is too large for any run. -/
theorem run_paged_too_large :
    Prints twoStrings [limitArg 1, "--format=strings", "a.str"] [⟨"Entry > Length", .red, 0, 0⟩] ∧
      (run twoStrings [limitArg 1, "--format=strings", "a.str"]).out ++
          (run twoStrings [seekArg 1, limitArg maxOffset, "--format=strings", "a.str"]).out ≠
        (run twoStrings [limitArg (1 + maxOffset), "--format=strings", "a.str"]).out := by
  have no_limit : ∀ arg ∈ ["--format=strings", "a.str"], ¬arg.startsWith "--limit=" := by
    simp [String.startsWith_string_iff]
  have asked_others : Options.ofArgs ["--format=strings", "a.str"] =
      .ok ⟨false, false, some "strings", none, 256, ["a.str"]⟩ := by
    cbv
  have refused : (run twoStrings [limitArg (1 + maxOffset), "--format=strings", "a.str"]).out = "" := by
    rw [run, ofArgs_limit .here no_limit, asked_others, Except.bind, if_neg (by decide)]
    rfl
  constructor
  · exact prints_twoStrings
  · obtain ⟨options, source, cache, asked, opens, shows⟩ := prints_twoStrings
    rw [out_of_opens asked opens, ← shows, refused]
    intro none
    simp [Span.dump, String.append_eq_empty_iff] at none

end Viewer
end ByteAtlas
