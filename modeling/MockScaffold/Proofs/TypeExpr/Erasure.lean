import MockScaffold.Proofs.TypeExpr.RoundTrip

namespace MockScaffold.TypeExpr

mutual

/-- The same type with no node nullable. -/
def erased : TypeExpr → TypeExpr
  | .node name _ arguments => .node name false (erasedAll arguments)

def erasedAll : List TypeExpr → List TypeExpr
  | [] => []
  | t :: ts => t.erased :: erasedAll ts

end

mutual

/-- To spell a type without markers is to spell it erased. -/
theorem text_erased : ∀ t : TypeExpr, t.erased.text = t.plainText
  | .node name _ [] => by simp [erased, erasedAll, text, plainText]
  | .node name _ (first :: rest) => by
    simp [erased, erasedAll, text, plainText, text_erased first, textRest_erasedAll rest]

theorem textRest_erasedAll : ∀ ts : List TypeExpr, textRest (erasedAll ts) = plainTextRest ts
  | [] => rfl
  | t :: ts => by
    rw [erasedAll, textRest, plainTextRest, text_erased t, textRest_erasedAll ts]

end

mutual

theorem wellNamed_erased : ∀ t : TypeExpr, t.WellNamed → t.erased.WellNamed
  | .node name _ arguments, named => by
    obtain ⟨proper, inner⟩ := wellNamed_node.1 named
    rw [erased]
    exact wellNamed_node.2 ⟨proper, wellNamed_erasedAll arguments inner⟩

theorem wellNamed_erasedAll : ∀ ts : List TypeExpr, (∀ t ∈ ts, t.WellNamed) →
    ∀ t ∈ erasedAll ts, t.WellNamed
  | [], _ => by simp [erasedAll]
  | t :: ts, named => by
    obtain ⟨first, rest⟩ := List.forall_mem_cons.1 named
    rw [erasedAll]
    exact List.forall_mem_cons.2 ⟨wellNamed_erased t first, wellNamed_erasedAll ts rest⟩

end

mutual

theorem fitsAt_erased : ∀ (t : TypeExpr) {depth : Nat}, t.FitsAt depth → t.erased.FitsAt depth
  | .node name _ arguments, depth, fits => by
    obtain ⟨own, inner⟩ := fitsAt_node.1 fits
    rw [erased]
    exact fitsAt_node.2 ⟨own, fitsAt_erasedAll arguments inner⟩

theorem fitsAt_erasedAll : ∀ (ts : List TypeExpr) {depth : Nat}, (∀ t ∈ ts, t.FitsAt depth) →
    ∀ t ∈ erasedAll ts, t.FitsAt depth
  | [], _, _ => by simp [erasedAll]
  | t :: ts, depth, fits => by
    obtain ⟨first, rest⟩ := List.forall_mem_cons.1 fits
    rw [erasedAll]
    exact List.forall_mem_cons.2 ⟨fitsAt_erased t first, fitsAt_erasedAll ts rest⟩

end

/-- The plain spelling is read as the type with no node nullable. -/
theorem parse_plainText {t : TypeExpr} (named : t.WellNamed) (fits : t.FitsAt 0) :
    parse t.plainText = .ok t.erased := by
  rw [← text_erased]
  exact parse_spelled (wellNamed_erased t named) (fitsAt_erased t fits)

theorem ProperName.filter_marker {name : List Char} (proper : ProperName name) :
    name.filter (· ≠ '?') = name := by
  apply List.filter_eq_self.2
  intro c member
  have other : c ≠ '?' := by
    rintro rfl
    exact proper.marker_not_mem member
  simpa using other

mutual

/-- The plain spelling is the spelling with every `?` left out. -/
theorem toList_plainText : ∀ t : TypeExpr, t.WellNamed →
    t.plainText.toList = t.text.toList.filter (· ≠ '?')
  | .node name nullable [], named => by
    have own := (wellNamed_node.1 named).1.filter_marker
    cases nullable with
    | false => simpa [plainText, text] using own.symm
    | true => simpa [plainText, text] using own.symm
  | .node name nullable (first :: rest), named => by
    obtain ⟨proper, inner⟩ := wellNamed_node.1 named
    obtain ⟨firstNamed, restNamed⟩ := List.forall_mem_cons.1 inner
    have own := proper.filter_marker
    have front := toList_plainText first firstNamed
    have others := toList_plainTextRest rest restNamed
    cases nullable with
    | false => simpa [plainText, text, front, others] using own.symm
    | true => simpa [plainText, text, front, others] using own.symm

theorem toList_plainTextRest : ∀ ts : List TypeExpr, (∀ t ∈ ts, t.WellNamed) →
    (plainTextRest ts).toList = (textRest ts).toList.filter (· ≠ '?')
  | [], _ => rfl
  | t :: ts, named => by
    obtain ⟨first, rest⟩ := List.forall_mem_cons.1 named
    have own := toList_plainText t first
    have others := toList_plainTextRest ts rest
    simp [plainTextRest, textRest, own, others]

end

end MockScaffold.TypeExpr
