import FieldFilter.Filter.Operator

/-!
# FieldFilter.Proofs.Text.Occurrence — one text inside another

`Text.occursIn` finds a list just if it stands in the other as one piece (`occursIn_iff_infix`).
-/

namespace FieldFilter.Text

variable {α : Type} [BEq α] [LawfulBEq α] {needle hay : List α}

theorem occursIn_iff_infix : occursIn needle hay = true ↔ needle <:+: hay := by
  induction hay with
  | nil => simp [occursIn]
  | cons c rest ih => rw [occursIn, Bool.or_eq_true, ih, List.isPrefixOf_iff_prefix, List.infix_cons_iff]

end FieldFilter.Text

/-- A text occurs in another one in any case just if its lower case stands in that of the other. -/
theorem FieldFilter.LooseText.occursInAnyCase_iff {needle hay : LooseText} :
    needle.occursInAnyCase hay = true ↔ needle.lower.marks <:+: hay.lower.marks :=
  Text.occursIn_iff_infix
