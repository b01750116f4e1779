import ByteAtlas.Proofs.Registry.Consistency

/-!
# Guesses

What a registry guesses is settled by the formats that were added, in their order, by the bytes of the source and by
its name (`Guessed`, `guess_exact`). It reads the source only once with success, at the longest length of magic bytes
that the source has; but magic bytes that the source begins with are no longer than that, so looking for them in what
was read is as good as looking for them in all bytes (`guessByMagic?_eq`).
-/

namespace ByteAtlas

/-- Whether a source holds some bytes: it gives any number of the first of them, and refuses to give more than there
are. -/
structure Source.Holds (source : Source) (bytes : List UInt8) : Prop where
  gives : ∀ n ≤ bytes.length, source.read 0 n = .ok (bytes.take n)
  refuses : ∀ n, bytes.length < n → ∃ cause, source.read 0 n = .error cause

/-- A file that is not longer than files can be holds its bytes. -/
lemma Source.holds_ofFile (name : Option String) {data : Array UInt8} (small : data.size < Source.filePositions) :
    (Source.ofFile name data).Holds data.toList := by
  have position : ¬Source.filePositions ≤ 0 := by decide
  constructor
  · intro n within
    rw [Array.length_toList] at within
    simp only [Source.ofFile, Source.atPosition, slice?_eq_take_drop, Nat.zero_add, if_neg position, if_pos within,
      if_neg (show ¬Source.filePositions ≤ n by omega), List.drop_zero, Option.elim_some]
    split
    · next none =>
      rw [none]
      rfl
    · rfl
  · intro n beyond
    rw [Array.length_toList] at beyond
    simp only [Source.ofFile, Source.atPosition, slice?_eq_take_drop, Nat.zero_add, if_neg position,
      if_neg (show ¬n = 0 by omega), if_neg (show ¬n ≤ data.size by omega), Option.elim_none]
    split
    · exact ⟨_, rfl⟩
    · exact ⟨_, rfl⟩

/-- The extension of a file name: what stands behind its last dot, if that is a word. -/
def IsExtension (name extension : String) : Prop :=
  ∃ stem : List Char, name.toList = stem ++ '.' :: extension.toList ∧ '.' ∉ extension.toList ∧ extension ≠ "" ∧
    ∀ c ∈ extension.toList, Text.isAlphanumeric c = true ∨ c = '_'

namespace NamedFormat

/-- Whether bytes begin with the magic bytes of a format. It may have none. -/
def MatchesBytes (entry : NamedFormat) (bytes : List UInt8) : Prop :=
  ∃ magic, entry.signature.magic = some magic ∧ magic ≠ [] ∧ magic <+: bytes

/-- Whether a name has the extension of a format. Either of them may be missing. -/
def MatchesName (entry : NamedFormat) (name : Option String) : Prop :=
  ∃ extension, entry.signature.extension = some extension ∧
    ∃ fileName, name = some fileName ∧ IsExtension fileName extension

end NamedFormat

/-- What formats say about a source with some bytes and maybe a name: the first whose magic bytes it begins with counts;
if there is none, the last that has the extension of its name. -/
inductive Guessed (formats : List NamedFormat) (bytes : List UInt8) (name : Option String) : String → Prop
  | byMagic {before entry after} : formats = before ++ entry :: after → entry.MatchesBytes bytes →
    (∀ other ∈ before, ¬other.MatchesBytes bytes) → Guessed formats bytes name entry.name
  | byName {before entry after} : (∀ other ∈ formats, ¬other.MatchesBytes bytes) → formats = before ++ entry :: after →
    entry.MatchesName name → (∀ other ∈ after, ¬other.MatchesName name) → Guessed formats bytes name entry.name
  | neither : (∀ other ∈ formats, ¬other.MatchesBytes bytes) → (∀ other ∈ formats, ¬other.MatchesName name) →
    Guessed formats bytes name Registry.noneName

namespace Registry

variable {r : Registry} {source : Source} {bytes : List UInt8} {name extension : String} {entry : NamedFormat}
  {entries : List NamedFormat}

-- Seen from its end, a name is its extension up to the first dot.
lemma behindDot_iff {chars last : List Char} :
    '.' ∈ chars ∧ (chars.reverse.takeWhile (· ≠ '.')).reverse = last ↔
      ∃ stem, chars = stem ++ '.' :: last ∧ '.' ∉ last := by
  constructor
  · rintro ⟨dotted, rfl⟩
    obtain ⟨no_dot, stops, split⟩ := (Description.Token.longest_iff (· ≠ '.')).1
      (⟨rfl, rfl⟩ : chars.reverse.takeWhile _ = _ ∧ _)
    simp only [decide_eq_true_eq, not_not] at no_dot stops
    have no_dot_behind : '.' ∉ (chars.reverse.takeWhile (· ≠ '.')).reverse := fun among =>
      no_dot '.' (List.mem_reverse.1 among) rfl
    cases before : chars.reverse.dropWhile (· ≠ '.') with
    | nil =>
      rw [before, List.append_nil] at split
      rw [← split, List.reverse_reverse] at no_dot_behind
      exact absurd dotted no_dot_behind
    | cons c stem =>
      obtain rfl : c = '.' := stops c (by rw [before]; rfl)
      rw [before, List.reverse_eq_iff, List.reverse_append, List.reverse_cons, List.append_assoc] at split
      exact ⟨stem.reverse, split, no_dot_behind⟩
  · rintro ⟨stem, rfl, no_dot⟩
    have no_dot_first : ∀ c ∈ last.reverse, decide (c ≠ '.') = true := fun c among =>
      decide_eq_true fun same => no_dot (same ▸ List.mem_reverse.1 among)
    have split : (stem ++ '.' :: last).reverse = last.reverse ++ '.' :: stem.reverse := by simp
    refine ⟨by simp, ?_⟩
    rw [split, List.takeWhile_append_of_pos no_dot_first, List.takeWhile_cons_of_neg (by simp), List.append_nil,
      List.reverse_reverse]

lemma extension?_eq_some_iff : extension? name = some extension ↔ IsExtension name extension := by
  have found : extension? name = some extension ↔
      ('.' ∈ name.toList ∧ (name.toList.reverse.takeWhile (· ≠ '.')).reverse = extension.toList) ∧
        extension ≠ "" ∧ ∀ c ∈ extension.toList, Text.isAlphanumeric c = true ∨ c = '_' := by
    rw [extension?]
    generalize (name.toList.reverse.takeWhile (· ≠ '.')).reverse = last
    by_cases dotted : '.' ∈ name.toList
    · rw [if_pos (by simpa using dotted)]
      dsimp only
      constructor
      · intro given
        split at given
        · next word =>
          cases given
          simpa [dotted, String.ofList_eq_empty_iff] using word
        · cases given
      · rintro ⟨⟨_, rfl⟩, some_char, word⟩
        have word : (!extension.toList.isEmpty &&
            extension.toList.all fun c => Text.isAlphanumeric c || decide (c = '_')) = true := by
          simpa [some_char] using word
        simp [word]
    · rw [if_neg (by simpa using dotted)]
      simp [dotted]
  rw [found, behindDot_iff, IsExtension]
  constructor
  · rintro ⟨⟨stem, split, no_dot⟩, word⟩
    exact ⟨stem, split, no_dot, word⟩
  · rintro ⟨stem, split, no_dot, word⟩
    exact ⟨⟨stem, split, no_dot⟩, word⟩

lemma matchesBytes_iff : entry.MatchesBytes bytes ↔
    entry.signature.magic.any (fun magic => !magic.isEmpty && magic.isPrefixOf bytes) = true := by
  simp [NamedFormat.MatchesBytes, Option.any_eq_true]

lemma matchesName_iff {name : Option String} : entry.MatchesName name ↔
    (name.bind extension?).any (fun extension => entry.signature.extension == some extension) = true := by
  simp [NamedFormat.MatchesName, Option.any_eq_true, Option.bind_eq_some_iff, extension?_eq_some_iff, and_comm]

instance : Decidable (entry.MatchesBytes bytes) := decidable_of_iff' _ matchesBytes_iff

instance {name : Option String} : Decidable (entry.MatchesName name) := decidable_of_iff' _ matchesName_iff

/-- Looking for magic bytes is looking for the formats that have them. -/
lemma find?_magicEntry? (entries : List NamedFormat) (p : List UInt8 → Bool) :
    ((entries.filterMap NamedFormat.magicEntry?).find? (p ·.1)).map (·.2) =
      (entries.find? fun entry => entry.signature.magic.any fun magic => !magic.isEmpty && p magic).map (·.name) := by
  induction entries with
  | nil => rfl
  | cons entry entries ih =>
    rcases known : entry.signature.magic with _ | _ | ⟨b, magic⟩
    · rw [List.filterMap_cons_none (by simp [NamedFormat.magicEntry?, Signature.someMagic?, known]), ih,
        List.find?_cons_of_neg (by simp [known])]
    · rw [List.filterMap_cons_none (by simp [NamedFormat.magicEntry?, Signature.someMagic?, known]), ih,
        List.find?_cons_of_neg (by simp [known])]
    · have here : entry.magicEntry? = some (b :: magic, entry.name) := by
        simp [NamedFormat.magicEntry?, Signature.someMagic?, known]
      rw [List.filterMap_cons_some here]
      cases found : p (b :: magic) with
      | true => simp [found, known]
      | false => simpa [found, known] using ih

lemma isOk_read (holds : source.Holds bytes) (n : Nat) : (source.read 0 n).isOk = decide (n ≤ bytes.length) := by
  by_cases within : n ≤ bytes.length
  · rw [holds.gives n within, decide_eq_true within]
    rfl
  · obtain ⟨cause, refused⟩ := holds.refuses n (Nat.lt_of_not_le within)
    rw [refused, decide_eq_false within]
    rfl

/-- Where no length of magic bytes is noted there are none. -/
lemma Consistent.byMagic_eq_nil (consistent : r.Consistent) (none : r.longestMagic = 0) : r.byMagic = [] := by
  refine List.eq_nil_iff_forall_not_mem.2 fun known among => consistent.some_bytes known among ?_
  have bound : known.1.length ≤ (r.byMagic.map (·.1.length)).max?.getD 0 :=
    List.le_max?_getD_of_mem (List.mem_map.2 ⟨known, among, rfl⟩)
  have longest := consistent.longest
  rw [none, List.foldl_max] at longest
  exact List.length_eq_zero_iff.1 (by omega)

/-- What is read is the longest beginning of the source that is as long as any magic bytes. -/
lemma head?_of_holds (consistent : r.Consistent) (holds : source.Holds bytes) :
    r.head? source = ((r.byMagic.map (·.1.length)).filter (· ≤ bytes.length)).max?.map bytes.take := by
  rw [head?]
  split
  case isFalse none =>
    rw [consistent.byMagic_eq_nil (Nat.eq_zero_of_not_pos none)]
    rfl
  simp only [isOk_read holds]
  cases longest : ((r.byMagic.map (·.1.length)).filter (· ≤ bytes.length)).max? with
  | none => rfl
  | some n =>
    obtain ⟨among, _⟩ := List.max?_eq_some_iff.1 longest
    have within : n ≤ bytes.length := by simpa using (List.mem_filter.1 among).2
    rw [Option.bind_some, holds.gives n within]
    rfl

/-- Magic bytes that the source begins with are no longer than what is read. -/
lemma isPrefix_head?_iff (consistent : r.Consistent) (holds : source.Holds bytes) {magic : List UInt8}
    (known : (magic, name) ∈ r.byMagic) : (∃ head, r.head? source = some head ∧ magic <+: head) ↔ magic <+: bytes := by
  rw [head?_of_holds consistent holds]
  constructor
  · rintro ⟨head, read, begins⟩
    obtain ⟨n, _, rfl⟩ := Option.map_eq_some_iff.1 read
    exact begins.trans (List.take_prefix n bytes)
  · intro begins
    have among : magic.length ∈ (r.byMagic.map (·.1.length)).filter (· ≤ bytes.length) :=
      List.mem_filter.2 ⟨List.mem_map.2 ⟨_, known, rfl⟩, decide_eq_true begins.length_le⟩
    cases longest : ((r.byMagic.map (·.1.length)).filter (· ≤ bytes.length)).max? with
    | none =>
      rw [List.max?_eq_none_iff.1 longest] at among
      cases among
    | some n =>
      refine ⟨_, rfl, List.prefix_take_iff.2 ⟨begins, ?_⟩⟩
      exact (List.max?_eq_some_iff.1 longest).2 _ among

/-- So looking for magic bytes in what is read is looking for them in all bytes. -/
lemma guessByMagic?_eq (consistent : r.Consistent) (holds : source.Holds bytes) :
    r.guessByMagic? source = (r.byMagic.find? (·.1.isPrefixOf bytes)).map (·.2) := by
  rw [guessByMagic?]
  cases read : r.head? source with
  | none =>
    have not_any : r.byMagic.find? (·.1.isPrefixOf bytes) = none := by
      apply List.find?_eq_none.2
      intro ⟨magic, name⟩ known begins
      obtain ⟨head, given, _⟩ := (isPrefix_head?_iff consistent holds known).2 (List.isPrefixOf_iff_prefix.1 begins)
      cases read.symm.trans given
    rw [not_any]
    rfl
  | some head =>
    have alike : r.byMagic.find? (·.1.isPrefixOf head) = r.byMagic.find? (·.1.isPrefixOf bytes) := by
      apply List.find?_congr
      intro ⟨magic, name⟩ known
      have same := isPrefix_head?_iff consistent holds known
      simp only [read, Option.some.injEq, exists_eq_left'] at same
      rw [Bool.eq_iff_iff, List.isPrefixOf_iff_prefix, List.isPrefixOf_iff_prefix, same]
    rw [Option.bind_eq_bind, Option.bind_some, alike]
    cases r.byMagic.find? (·.1.isPrefixOf bytes) <;> rfl

/-- By magic bytes the first format is found that was entered with some that fit. -/
lemma guessByMagic?_enterEach (consistent : (empty.enterEach entries).Consistent) (holds : source.Holds bytes) :
    (empty.enterEach entries).guessByMagic? source = (entries.find? (·.MatchesBytes bytes)).map (·.name) := by
  rw [guessByMagic?_eq consistent holds, byMagic_enterEach]
  simp only [matchesBytes_iff, Bool.decide_eq_true]
  exact find?_magicEntry? entries (·.isPrefixOf bytes)

/-- By an extension the last format is found that was entered with it. -/
lemma guessByExtension?_enterEach :
    (empty.enterEach entries).guessByExtension? source =
      (entries.reverse.find? (·.MatchesName source.name)).map (·.name) := by
  rw [guessByExtension?]
  simp only [matchesName_iff, Bool.decide_eq_true]
  cases source.name.bind extension? with
  | none => simp
  | some extension =>
    rw [Option.bind_eq_bind, Option.bind_some, byExtension_enterEach]
    exact Option.or_none

/-- The format that was added last is the first one from the end. -/
lemma find?_reverse_matchesName {formats before after : List NamedFormat} {name : Option String}
    (split : formats = before ++ entry :: after) (same : entry.MatchesName name)
    (later : ∀ other ∈ after, ¬other.MatchesName name) :
    formats.reverse.find? (·.MatchesName name) = some entry := by
  refine List.find?_eq_some_iff_append.2 ⟨decide_eq_true same, after.reverse, before.reverse, ?_, ?_⟩
  · rw [split]
    simp
  · simpa using later

/-- What is guessed is what the formats that were entered say about the bytes and the name of the source. -/
lemma guess_enterEach_eq_iff (consistent : (empty.enterEach entries).Consistent) (holds : source.Holds bytes)
    (name : String) : (empty.enterEach entries).guess source = name ↔ Guessed entries bytes source.name name := by
  have unmatched : entries.find? (·.MatchesBytes bytes) = none ↔ ∀ entry ∈ entries, ¬entry.MatchesBytes bytes := by
    simp
  have unnamed : entries.reverse.find? (·.MatchesName source.name) = none ↔
      ∀ entry ∈ entries, ¬entry.MatchesName source.name := by
    simp
  rw [guess, guessByMagic?_enterEach consistent holds, guessByExtension?_enterEach]
  constructor
  · rintro rfl
    cases first : entries.find? (·.MatchesBytes bytes) with
    | some entry =>
      obtain ⟨same, before, after, split, earlier⟩ := List.find?_eq_some_iff_append.1 first
      exact .byMagic split (of_decide_eq_true same) (by simpa using earlier)
    | none =>
      cases last : entries.reverse.find? (·.MatchesName source.name) with
      | some entry =>
        obtain ⟨same, after, before, split, later⟩ := List.find?_eq_some_iff_append.1 last
        have split : entries = before.reverse ++ entry :: after.reverse := by
          rw [List.reverse_eq_iff.1 split]
          simp
        exact .byName (unmatched.1 first) split (of_decide_eq_true same) (by simpa using later)
      | none => exact .neither (unmatched.1 first) (unnamed.1 last)
  · intro guessed
    cases guessed with
    | @byMagic before entry after split same earlier =>
      have first : entries.find? (·.MatchesBytes bytes) = some entry :=
        List.find?_eq_some_iff_append.2 ⟨decide_eq_true same, before, after, split, by simpa using earlier⟩
      rw [first]
      rfl
    | byName not_any split same later =>
      rw [unmatched.2 not_any, find?_reverse_matchesName split same later]
      rfl
    | neither not_any no_name =>
      rw [unmatched.2 not_any, unnamed.2 no_name]
      rfl

/-! The formats that were added. -/

/-- The formats that a request is about. -/
def Request.formats (r : Registry) : Request → List NamedFormat
  | .register entry => [entry]
  | .load text =>
    match Description.parse text with
    | .error _ => []
    | .ok definitions => (Description.resolve r.get? definitions).toOption.getD []

/-- The formats that a request adds to a registry: none if it is refused. -/
def Request.granted (r : Registry) (request : Request) : List NamedFormat :=
  match (r.serve request).1 with
  | .error _ => []
  | .ok _ => request.formats r

/-- The formats that requests add to a registry, one after the other. -/
def grantedEach (r : Registry) : List Request → List NamedFormat
  | [] => []
  | request :: later => request.granted r ++ (r.serve request).2.grantedEach later

/-- The formats that were added to a new registry that was asked for one thing after the other, in their order. -/
def entered (requests : List Request) : List NamedFormat := Registry.empty.grantedEach requests

/-- A request leaves a registry in which the formats are entered that it adds. -/
lemma serve_eq_enterEach (reachable : r.Reachable) (request : Request) :
    (r.serve request).2 = r.enterEach (request.granted r) := by
  rcases answer : r.serve request with ⟨cause | names, left⟩
  · rw [Request.granted, answer]
    exact serve_refused reachable answer
  · rw [Request.granted, answer]
    cases request with
    | register entry => exact (registerEach_eq_ok_iff.1 answer).2.2
    | load text =>
      obtain ⟨definitions, formats, describes, _, _, rfl⟩ := loadInPlace_eq_ok_iff.1 answer
      simp only [Request.formats, describes.parsed, describes.resolved, Except.toOption, Option.getD_some]

lemma foldl_serve_eq_enterEach (reachable : r.Reachable) (requests : List Request) :
    requests.foldl (fun r request => (r.serve request).2) r = r.enterEach (r.grantedEach requests) := by
  induction requests generalizing r with
  | nil => rfl
  | cons request later ih =>
    rw [List.foldl_cons, ih (reachable.serve request), grantedEach, enterEach_append, ← serve_eq_enterEach reachable]

lemma served_eq_enterEach (requests : List Request) : served requests = empty.enterEach (entered requests) :=
  foldl_serve_eq_enterEach .empty requests

/-- The formats of earlier requests come before those of later ones. -/
lemma grantedEach_isPrefix {earlier requests : List Request} (begins : earlier <+: requests) (r : Registry) :
    r.grantedEach earlier <+: r.grantedEach requests := by
  obtain ⟨later, rfl⟩ := begins
  induction earlier generalizing r with
  | nil => exact List.nil_prefix
  | cons request earlier ih =>
    rw [List.cons_append, grantedEach, grantedEach]
    exact (List.prefix_append_right_inj _).2 (ih _)

/-- Whatever a registry was asked for, it guesses what the formats say that were added, and they stand in the order in
which they were registered: those of earlier requests come first. They are those that the registry has, behind the
format without fields. -/
theorem guess_exact (requests : List Request) {source : Source} {bytes : List UInt8} (holds : source.Holds bytes) :
    (∀ earlier, earlier <+: requests → entered earlier <+: entered requests) ∧
      (served requests).names = noneName :: (entered requests).map (·.name) ∧
      (∀ entry ∈ entered requests, (served requests).get? entry.name = some entry.format) ∧
      ∀ name, (served requests).guess source = name ↔ Guessed (entered requests) bytes source.name name := by
  have consistent := (reachable_served requests).consistent
  rw [served_eq_enterEach] at consistent ⊢
  have distinct : (noneName :: (entered requests).map (·.name)).Nodup := by
    have names := consistent.distinct
    rwa [show (empty.enterEach (entered requests)).order = _ from names_enterEach] at names
  refine ⟨fun _ begins => grantedEach_isPrefix begins _, names_enterEach, fun entry among => ?_,
    guess_enterEach_eq_iff consistent holds⟩
  rw [get?_enterEach distinct.of_cons, NamedFormat.find?_of_mem distinct.of_cons among]
  rfl

/-- Magic bytes that are longer than the file do not keep it from having shorter ones. -/
theorem guess_exact_short_file :
    let book : NamedFormat := ⟨"Book", ⟨none, some [1, 2, 3, 4]⟩, .empty⟩
    let page : NamedFormat := ⟨"Page", ⟨some "txt", some [1, 2]⟩, .empty⟩
    let text : NamedFormat := ⟨"Text", ⟨some "txt", none⟩, .empty⟩
    let requests : List Request :=
      [.register book, .register page, .register { text with name := "Book" }, .register text]
    let short := Source.ofFile (some "a.bin") #[1, 2, 3]
    let other := Source.ofFile (some "a.b.txt") #[2]
    entered requests = [book, page, text] ∧
      (short.Holds [1, 2, 3] ∧ (served requests).guess short = "Page") ∧
      other.Holds [2] ∧ (served requests).guess other = "Text" := by
  intro book page text requests short other
  have added : entered requests = [book, page, text] := rfl
  have holds_short : short.Holds [1, 2, 3] := Source.holds_ofFile _ (by decide)
  have holds_other : other.Holds [2] := Source.holds_ofFile _ (by decide)
  refine ⟨added, ⟨holds_short, ?_⟩, holds_other, ?_⟩
  · apply ((guess_exact requests holds_short).2.2.2 "Page").2
    rw [added]
    exact .byMagic (rfl : _ = [book] ++ page :: [text]) (by decide) (by decide)
  · apply ((guess_exact requests holds_other).2.2.2 "Text").2
    rw [added]
    have same : text.MatchesName other.name :=
      ⟨"txt", rfl, "a.b.txt", rfl, extension?_eq_some_iff.1 (by cbv)⟩
    exact .byName (by decide) (rfl : _ = [book, page] ++ text :: []) same (by decide)

end Registry
end ByteAtlas
