import ByteAtlas.Proofs.Description.Parsing

/-!
# Joining descriptions

A text with a line feed and another text behind it is parsed into the definitions of both (`parse_join`). The line
feed is what keeps the last word of the first text apart from the first of the second, and it ends a comment that
the first text leaves open.
-/

namespace ByteAtlas.Description

/-- A line feed behind a text comes first only if the text is empty. -/
lemma head?_join {kind : Char → Prop} {text more : List Char} (stops : ∀ c ∈ text.head?, kind c)
    (newline : kind '\n') : ∀ c ∈ (text ++ '\n' :: more).head?, kind c := by
  cases text with
  | nil => simpa using newline
  | cons c text => exact stops

lemma Skips.join {text rest more : List Char} (skips : Skips text rest) :
    Skips (text ++ '\n' :: more) (rest ++ '\n' :: more) := by
  induction skips with
  | done => exact .done
  | blank blank _ ih => exact .blank blank ih
  | line one_line stops _ ih =>
    have joined := Skips.line one_line (head?_join stops rfl) ih
    rwa [← List.append_assoc] at joined
  | block open_end _ ih =>
    have joined := Skips.block open_end ih
    rwa [← List.cons_append, ← List.cons_append, ← List.append_assoc] at joined

lemma SpellsTokens.join {front back : List Token} {text more : List Char} (first : SpellsTokens front text)
    (second : SpellsTokens back more) : SpellsTokens (front ++ back) (text ++ '\n' :: more) := by
  induction first with
  | nil skips => exact second.behind (skips.join.trans (.blank (by decide) .done))
  | word skips is_word stops _ ih =>
    have joined : Skips (_ ++ '\n' :: more) _ := skips.join
    rw [List.append_assoc] at joined
    exact .word joined is_word (head?_join stops (by decide)) ih
  | quoted skips quotable _ ih =>
    have joined : Skips (_ ++ '\n' :: more) _ := skips.join
    rw [List.append_assoc] at joined
    exact .quoted joined quotable ih
  | mark skips mark _ ih => exact .mark skips.join mark ih

/-- Both texts are parsed, and their definitions put side by side. -/
theorem parse_join {front back : String} {definitions more : List Definition}
    (first : parse front = .ok definitions) (second : parse back = .ok more) :
    parse (front ++ "\n" ++ back) = .ok (definitions ++ more) := by
  obtain ⟨written, found, read⟩ := parse_eq_ok_iff_written.1 first
  obtain ⟨pieces, told, spelled⟩ := written?_eq_some_iff.1 found
  obtain ⟨written', found', read'⟩ := parse_eq_ok_iff_written.1 second
  obtain ⟨pieces', told', spelled'⟩ := written?_eq_some_iff.1 found'
  have joined : written? (front ++ "\n" ++ back).toList = some (written ++ written') := by
    refine written?_eq_some_iff.2 ⟨pieces ++ pieces', List.rel_append told told', ?_⟩
    rw [String.toList_append, String.toList_append, List.append_assoc, List.flatten_append]
    exact spelled.join spelled'
  refine parse_eq_ok_iff_written.2 ⟨written ++ written', joined, ?_⟩
  exact mapM_eq_ok_iff.2 (List.rel_append (mapM_eq_ok_iff.1 read) (mapM_eq_ok_iff.1 read'))

end ByteAtlas.Description
