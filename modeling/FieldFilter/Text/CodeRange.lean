/-!
# FieldFilter.Text.CodeRange — classes of characters as ranges of code points

A class of characters is a list of inclusive ranges; `within` decides membership.
-/

namespace FieldFilter.Text

/-- The code point of the character lies in one of the inclusive ranges. -/
def within (ranges : List (Nat × Nat)) (c : Char) : Bool :=
  ranges.any fun r => r.1 ≤ c.toNat && c.toNat ≤ r.2

theorem within_iff {ranges : List (Nat × Nat)} {c : Char} :
    within ranges c = true ↔ ∃ r ∈ ranges, r.1 ≤ c.toNat ∧ c.toNat ≤ r.2 := by
  simp [within]

end FieldFilter.Text
