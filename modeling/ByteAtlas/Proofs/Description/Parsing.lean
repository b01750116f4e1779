import ByteAtlas.Proofs.Description.Literals

/-!
# Parsing

A text is parsed into the definitions that it spells, and into nothing if it spells none (`parse_eq_ok_iff`): what
spells definitions is what is written, with literals that can be read.
-/

namespace ByteAtlas.Description

/-! Items that are read. -/

lemma read_scalar_iff {word : String} {body : List Char} {color : Color} {bind : Option String} {i : ReadItem} :
    Item.read (.scalar word body color bind) = .ok i ↔
      ∃ type name, SpellsType type word ∧ SpellsText name body ∧ i = .scalar type name color bind := by
  simp [Item.read, bind_eq_ok_iff, readScalarType_eq_ok_iff, unescapeText_eq_ok_iff, @eq_comm _ _ i]

lemma read_bytes_iff {word : String} {body : List Char} {color : Color} {i : ReadItem} :
    Item.read (.bytes body word color) = .ok i ↔
      ∃ name count, SpellsText name body ∧ readCount word = .ok count ∧ i = .bytes name count color := by
  simp [Item.read, bind_eq_ok_iff, unescapeText_eq_ok_iff, @eq_comm _ _ i]

lemma read_embed_iff {named : Option (List Char)} {times : Times String} {target : String} {i : ReadItem} :
    Item.read (.embed named times target) = .ok i ↔
      ∃ name times', Option.Rel (fun body name => SpellsText name body) named name ∧ times.read = .ok times' ∧
        i = .embed name times' target := by
  cases named with
  | none => simp [Item.read, bind_eq_ok_iff, Option.exists, @eq_comm _ _ i]
  | some body => simp [Item.read, bind_eq_ok_iff, unescapeText_eq_ok_iff, Option.exists, @eq_comm _ _ i]

lemma spellsName_iff {name : Option String} {atoms : List Atom} :
    SpellsName SpellsText name atoms ↔
      ∃ named, SpellsName Eq named atoms ∧ Option.Rel (fun body name => SpellsText name body) named name := by
  constructor
  · intro spelled
    cases spelled with
    | none => exact ⟨none, .none, .none⟩
    | some spelled => exact ⟨some _, .some rfl, .some spelled⟩
  · rintro ⟨named, written, is_name⟩
    cases is_name with
    | none =>
      cases written
      exact .none
    | some spelled =>
      obtain _ | rfl := written
      exact .some spelled

lemma spellsItem_iff {i : ReadItem} {atoms : List Atom} :
    SpellsItem readLexicon i atoms ↔ ∃ w, SpellsItem writtenLexicon w atoms ∧ w.read = .ok i := by
  constructor
  · intro spelled
    cases spelled with
    | scalar is_type is_name painted bound =>
      exact ⟨_, .scalar ⟨rfl, is_type.mem_scalarWords⟩ rfl painted bound,
        read_scalar_iff.2 ⟨_, _, is_type, is_name, rfl⟩⟩
    | bytes is_name counted painted =>
      obtain ⟨is_count, read⟩ := spellsCount_iff.1 counted
      exact ⟨_, .bytes rfl ⟨rfl, is_count⟩ painted, read_bytes_iff.2 ⟨_, _, is_name, read, rfl⟩⟩
    | child named identifier =>
      obtain ⟨written, named, is_name⟩ := spellsName_iff.1 named
      exact ⟨_, .child named identifier, read_embed_iff.2 ⟨_, _, is_name, rfl, rfl⟩⟩
    | array named counted identifier =>
      obtain ⟨written, named, is_name⟩ := spellsName_iff.1 named
      obtain ⟨is_count, read⟩ := spellsCount_iff.1 counted
      exact ⟨_, .array named ⟨rfl, is_count⟩ identifier,
        read_embed_iff.2 ⟨_, _, is_name, map_eq_ok_iff.2 ⟨_, read, rfl⟩, rfl⟩⟩
    | sequence named identifier =>
      obtain ⟨written, named, is_name⟩ := spellsName_iff.1 named
      exact ⟨_, .sequence named identifier, read_embed_iff.2 ⟨_, _, is_name, rfl, rfl⟩⟩
  · rintro ⟨w, spelled, read_whole⟩
    cases spelled with
    | scalar is_type is_name painted bound =>
      obtain ⟨rfl, -⟩ := is_type
      cases is_name
      obtain ⟨type, name, is_type, is_name, rfl⟩ := read_scalar_iff.1 read_whole
      exact .scalar is_type is_name painted bound
    | bytes is_name counted painted =>
      obtain ⟨rfl, is_count⟩ := counted
      cases is_name
      obtain ⟨name, count, is_name, read, rfl⟩ := read_bytes_iff.1 read_whole
      exact .bytes is_name (spellsCount_iff.2 ⟨is_count, read⟩) painted
    | child named identifier =>
      obtain ⟨name, times, is_name, read, rfl⟩ := read_embed_iff.1 read_whole
      cases read
      exact .child (spellsName_iff.2 ⟨_, named, is_name⟩) identifier
    | array named counted identifier =>
      obtain ⟨rfl, is_count⟩ := counted
      obtain ⟨name, times, is_name, read, rfl⟩ := read_embed_iff.1 read_whole
      obtain ⟨count, read_count, rfl⟩ := map_eq_ok_iff.1 read
      exact .array (spellsName_iff.2 ⟨_, named, is_name⟩) (spellsCount_iff.2 ⟨is_count, read_count⟩) identifier
    | sequence named identifier =>
      obtain ⟨name, times, is_name, read, rfl⟩ := read_embed_iff.1 read_whole
      cases read
      exact .sequence (spellsName_iff.2 ⟨_, named, is_name⟩) identifier

lemma spellsItems_read_iff {items : Items} {tokens : List Token} :
    SpellsItems (SpellsItem readLexicon) SpellsText items tokens ↔
      ∃ w, SpellsItems (SpellsItem writtenLexicon) Eq w tokens ∧ Outline.read w = .ok items := by
  constructor
  · intro spelled
    induction spelled with
    | nil => exact ⟨.nil, .nil, rfl⟩
    | item here _ ih =>
      obtain ⟨i, written, read⟩ := spellsItem_iff.1 here
      obtain ⟨rest, more, read_rest⟩ := ih
      exact ⟨.item i rest, .item written more, bind_eq_ok_iff.2 ⟨_, read, bind_eq_ok_iff.2 ⟨_, read_rest, rfl⟩⟩⟩
    | group is_name _ _ ih_inner ih_rest =>
      obtain ⟨inner, within, read_inner⟩ := ih_inner
      obtain ⟨rest, more, read_rest⟩ := ih_rest
      refine ⟨.group _ inner rest, .group rfl within more, ?_⟩
      refine bind_eq_ok_iff.2 ⟨_, unescapeText_eq_ok_iff.2 is_name, ?_⟩
      exact bind_eq_ok_iff.2 ⟨_, read_inner, bind_eq_ok_iff.2 ⟨_, read_rest, rfl⟩⟩
  · rintro ⟨w, spelled, read⟩
    induction spelled generalizing items with
    | nil =>
      cases read
      exact .nil
    | item here _ ih =>
      obtain ⟨i, read_here, read⟩ := bind_eq_ok_iff.1 read
      obtain ⟨rest, read_rest, same⟩ := bind_eq_ok_iff.1 read
      cases same
      exact .item (spellsItem_iff.2 ⟨_, here, read_here⟩) (ih read_rest)
    | group is_name _ _ ih_inner ih_rest =>
      cases is_name
      obtain ⟨name, read_name, read⟩ := bind_eq_ok_iff.1 read
      obtain ⟨inner, read_inner, read⟩ := bind_eq_ok_iff.1 read
      obtain ⟨rest, read_rest, same⟩ := bind_eq_ok_iff.1 read
      cases same
      exact .group (unescapeText_eq_ok_iff.1 read_name) (ih_inner read_inner) (ih_rest read_rest)

/-! Signatures, clause by clause. -/

lemma clauses?_append {front back : List Atom} {clauses : List Clause}
    (found : Statement.clauses? front = some clauses) :
    Statement.clauses? (front ++ back) = (Statement.clauses? back).map (clauses ++ ·) := by
  fun_induction Statement.clauses? front generalizing clauses with
  | case1 =>
    cases found
    simp
  | case2 body rest ih | case3 body rest ih =>
    obtain ⟨more, later, rfl⟩ := Option.map_eq_some_iff.1 found
    simp [Statement.clauses?, ih later, Function.comp_def]
  | case4 hex rest is_hex ih =>
    obtain ⟨more, later, rfl⟩ := Option.map_eq_some_iff.1 found
    simp [Statement.clauses?, ih later, is_hex, Function.comp_def]
  | case5 => cases found
  | case6 => cases found

lemma read_extension_iff {before after : Signature} {body : List Char} :
    Clause.read before (.extension body) = .ok after ↔
      ∃ text, SpellsText text body ∧ after = { before with extension := some text } := by
  simp [Clause.read, bind_eq_ok_iff, unescapeText_eq_ok_iff, @eq_comm _ _ after]

lemma read_magicText_iff {before after : Signature} {body : List Char} :
    Clause.read before (.magicText body) = .ok after ↔
      ∃ bytes, SpellsBytes bytes body ∧ bytes ≠ [] ∧ after = { before with magic := some bytes } := by
  simp [Clause.read, bind_eq_ok_iff, unescape_eq_ok_iff, checkedMagic_eq_ok_iff, and_assoc, @eq_comm _ _ after]

lemma read_magicHex_iff {before after : Signature} {word : String} :
    isHexNumber word = true ∧ Clause.read before (.magicHex word) = .ok after ↔
      ∃ bytes chars, word = String.ofList ('0' :: 'x' :: chars) ∧ SpellsPairs bytes chars ∧ bytes ≠ [] ∧
        after = { before with magic := some bytes } := by
  constructor
  · rintro ⟨is_hex, read⟩
    obtain ⟨chars, found⟩ := Option.isSome_iff_exists.1 is_hex
    obtain ⟨rfl, number⟩ := hexDigits?_eq_some_iff.1 found
    have digits := (exists_spellsNumber.1 number).2
    simp only [exists_isDigit_sixteen] at digits
    simp only [Clause.read, found, Option.getD_some, bind_eq_ok_iff, checkedMagic_eq_ok_iff] at read
    obtain ⟨bytes, paired, _, ⟨some_byte, rfl⟩, same⟩ := read
    cases same
    exact ⟨bytes, chars, rfl, spellsPairs_iff.2 ⟨digits, paired⟩, some_byte, rfl⟩
  · rintro ⟨bytes, chars, rfl, spelled, some_byte, rfl⟩
    obtain ⟨digits, paired⟩ := spellsPairs_iff.1 spelled
    have some_char : chars ≠ [] := by
      rintro rfl
      cases spelled
      exact some_byte rfl
    have found : hexDigits? (String.ofList ('0' :: 'x' :: chars)) = some chars :=
      hexDigits?_eq_some_iff.2
        ⟨rfl, exists_spellsNumber.2 ⟨some_char, fun c among => exists_isDigit_sixteen.2 (digits c among)⟩⟩
    refine ⟨by rw [isHexNumber, found]; rfl, ?_⟩
    rw [Clause.read, found]
    exact bind_eq_ok_iff.2 ⟨bytes, paired, bind_eq_ok_iff.2 ⟨_, checkedMagic_eq_ok_iff.2 ⟨some_byte, rfl⟩, rfl⟩⟩

lemma spellsSignature_of_clauses? {atoms : List Atom} {clauses : List Clause} {front : List Atom}
    {before after : Signature} (found : Statement.clauses? atoms = some clauses)
    (spelled : SpellsSignature before front) (read : clauses.foldlM Clause.read before = .ok after) :
    SpellsSignature after (front ++ atoms) := by
  -- On the clauses that are left, with the ones in front that have been read.
  fun_induction Statement.clauses? atoms generalizing clauses front before with
  | case1 =>
    cases found
    cases read
    rwa [List.append_nil]
  | case2 body rest ih =>
    obtain ⟨more, later, rfl⟩ := Option.map_eq_some_iff.1 found
    obtain ⟨_, read, read_more⟩ := bind_eq_ok_iff.1 read
    obtain ⟨text, is_text, rfl⟩ := read_extension_iff.1 read
    simpa using ih later (.extension spelled is_text) read_more
  | case3 body rest ih =>
    obtain ⟨more, later, rfl⟩ := Option.map_eq_some_iff.1 found
    obtain ⟨_, read, read_more⟩ := bind_eq_ok_iff.1 read
    obtain ⟨bytes, are_bytes, some_byte, rfl⟩ := read_magicText_iff.1 read
    simpa using ih later (.magicText spelled are_bytes some_byte) read_more
  | case4 hex rest is_hex ih =>
    obtain ⟨more, later, rfl⟩ := Option.map_eq_some_iff.1 found
    obtain ⟨_, read, read_more⟩ := bind_eq_ok_iff.1 read
    obtain ⟨bytes, chars, rfl, are_bytes, some_byte, rfl⟩ := read_magicHex_iff.1 ⟨is_hex, read⟩
    simpa using ih later (.magicHex spelled are_bytes some_byte) read_more
  | case5 => cases found
  | case6 => cases found

lemma foldlM_snoc {clauses : List Clause} {start before after : Signature} {last : Clause}
    (read : clauses.foldlM Clause.read start = .ok before) (read_last : last.read before = .ok after) :
    (clauses ++ [last]).foldlM Clause.read start = .ok after := by
  rw [List.foldlM_append, read]
  exact bind_eq_ok_iff.2 ⟨before, rfl, bind_eq_ok_iff.2 ⟨after, read_last, rfl⟩⟩

lemma spellsSignature_iff {signature : Signature} {atoms : List Atom} :
    SpellsSignature signature atoms ↔
      ∃ clauses, Statement.clauses? atoms = some clauses ∧ clauses.foldlM Clause.read .none = .ok signature := by
  constructor
  · intro spelled
    induction spelled with
    | none => exact ⟨[], rfl, rfl⟩
    | extension _ is_text ih =>
      obtain ⟨clauses, found, read⟩ := ih
      exact ⟨clauses ++ [.extension _], clauses?_append found,
        foldlM_snoc read (read_extension_iff.2 ⟨_, is_text, rfl⟩)⟩
    | magicText _ are_bytes some_byte ih =>
      obtain ⟨clauses, found, read⟩ := ih
      exact ⟨clauses ++ [.magicText _], clauses?_append found,
        foldlM_snoc read (read_magicText_iff.2 ⟨_, are_bytes, some_byte, rfl⟩)⟩
    | magicHex _ are_bytes some_byte ih =>
      obtain ⟨clauses, found, read⟩ := ih
      obtain ⟨is_hex, read_last⟩ := read_magicHex_iff.2 ⟨_, _, rfl, are_bytes, some_byte, rfl⟩
      refine ⟨clauses ++ [.magicHex _], ?_, foldlM_snoc read read_last⟩
      rw [clauses?_append found]
      rw [Statement.clauses?, if_pos is_hex]
      rfl
  · rintro ⟨clauses, found, read⟩
    exact spellsSignature_of_clauses? found .none read

/-! Definitions. -/

lemma spellsDefinition_iff {d : Definition} {tokens : List Token} :
    SpellsDefinition d tokens ↔ ∃ w, SpellsAsWritten w tokens ∧ readDefinition w = .ok d := by
  constructor
  · rintro ⟨⟨identifier, signature⟩, items⟩
    obtain ⟨clauses, found, read⟩ := spellsSignature_iff.1 signature
    obtain ⟨body, written, read_items⟩ := spellsItems_read_iff.1 items
    refine ⟨⟨⟨d.name, clauses⟩, body⟩, .mk (.mk identifier found) written, ?_⟩
    exact bind_eq_ok_iff.2 ⟨_, read, bind_eq_ok_iff.2 ⟨_, read_items, rfl⟩⟩
  · rintro ⟨_, ⟨⟨identifier, found⟩, written⟩, read⟩
    obtain ⟨signature, read_signature, read⟩ := bind_eq_ok_iff.1 read
    obtain ⟨items, read_items, same⟩ := bind_eq_ok_iff.1 read
    cases same
    exact .mk (.mk identifier (spellsSignature_iff.2 ⟨_, found, read_signature⟩))
      (spellsItems_read_iff.2 ⟨_, written, read_items⟩)

lemma mapM_eq_ok_iff {ε α β : Type} {f : α → Except ε β} {l : List α} {r : List β} :
    l.mapM f = .ok r ↔ List.Forall₂ (fun a b => f a = .ok b) l r := by
  induction l generalizing r with
  | nil => simp [pure, Except.pure, eq_comm]
  | cons a l ih =>
    rw [List.mapM_cons, List.forall₂_cons_left_iff]
    simp [bind_eq_ok_iff, ih, pure, Except.pure, @eq_comm _ r]

lemma spellsDefinitions_iff {definitions : List Definition} {pieces : List (List Token)} :
    List.Forall₂ SpellsDefinition definitions pieces ↔
      ∃ written, List.Forall₂ SpellsAsWritten written pieces ∧ written.mapM readDefinition = .ok definitions := by
  simp only [mapM_eq_ok_iff]
  constructor
  · intro spelled
    induction spelled with
    | nil => exact ⟨[], .nil, .nil⟩
    | cons first _ ih =>
      obtain ⟨w, written, read⟩ := spellsDefinition_iff.1 first
      obtain ⟨ws, all_written, all_read⟩ := ih
      exact ⟨w :: ws, .cons written all_written, .cons read all_read⟩
  · rintro ⟨ws, written, read⟩
    induction written generalizing definitions with
    | nil =>
      cases read
      exact .nil
    | cons first _ ih =>
      obtain ⟨d, more, read_first, read_more, rfl⟩ := List.forall₂_cons_left_iff.1 read
      exact .cons (spellsDefinition_iff.2 ⟨_, first, read_first⟩) (ih read_more)

lemma parse_eq_ok_iff_written {text : String} {definitions : List Definition} :
    parse text = .ok definitions ↔
      ∃ written, written? text.toList = some written ∧ written.mapM readDefinition = .ok definitions := by
  rw [parse]
  cases written? text.toList with
  | none => simp
  | some written => simp [mapError_eq_ok_iff]

/-- A text is parsed into the definitions that it spells. -/
theorem parse_eq_ok_iff {text : String} {definitions : List Definition} :
    parse text = .ok definitions ↔ Spells definitions text := by
  simp only [parse_eq_ok_iff_written, written?_eq_some_iff, Spells, spellsDefinitions_iff]
  constructor
  · rintro ⟨written, ⟨pieces, told, spelled⟩, read⟩
    exact ⟨pieces, ⟨written, told, read⟩, spelled⟩
  · rintro ⟨pieces, ⟨written, told, read⟩, spelled⟩
    exact ⟨written, ⟨pieces, told, spelled⟩, read⟩

-- Nothing has to stand next to a brace or a quoted text, and a name may be a keyword.
example : parse "format a\x7b/**/u8\"x\"as as;child b;// end\n\x7d" =
    .ok [⟨"a", .none,
      .item (.scalar ⟨.unsigned .one, .big⟩ "x" .white (some "as")) (.item (.embed none .once "b") .nil)⟩] := by
  cbv

end ByteAtlas.Description
