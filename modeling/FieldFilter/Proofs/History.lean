/-!
# FieldFilter.Proofs.History — events one after the other

Some events of a history set a value and the others leave it alone; whether an event is effective depends on
the events before it.  `Leaves sets initial es v` says that `v` is what the last effective event of `es` has
set, or the initial value where no event was effective.

What is begun has a number, its place in a list, and what has come back leaves that place blank: `underway_concat`
and `underway_set` say what is under way after one more was begun, and after one came back.
-/

namespace FieldFilter

variable {α β : Type} {sets : List α → α → β → Prop} {initial v : β} {es : List α} {e : α}

/-- The value after a history, where `sets before e w` says that `e` sets the value to `w` after the events
`before`. -/
def Leaves (sets : List α → α → β → Prop) (initial : β) (es : List α) (v : β) : Prop :=
  (∃ before e after, es = before ++ e :: after ∧ sets before e v ∧
    ∀ us e' vs w, after = us ++ e' :: vs → ¬ sets (before ++ e :: us) e' w) ∨
  (v = initial ∧ ∀ us e' vs w, es = us ++ e' :: vs → ¬ sets us e' w)

theorem Leaves.nil : Leaves sets initial [] initial :=
  Or.inr ⟨rfl, fun us e' vs w h => by simp at h⟩

/-- A list with one more member is cut either at that member or before it. -/
theorem concat_eq_append_cons {us vs : List α} {e' : α} (h : es ++ [e] = us ++ e' :: vs) :
    (us = es ∧ e' = e) ∨ ∃ ws, vs = ws ++ [e] ∧ es = us ++ e' :: ws := by
  rcases List.append_eq_append_iff.mp h with ⟨as, rfl, hcut⟩ | ⟨bs, rfl, hcut⟩
  · cases as with
    | nil => exact Or.inl ⟨by simp, (List.cons.inj hcut).1.symm⟩
    | cons a as => simp at hcut
  · cases bs with
    | nil => exact Or.inl ⟨by simp, (List.cons.inj hcut).1⟩
    | cons b bs =>
      obtain ⟨rfl, rfl⟩ := List.cons.inj hcut
      exact Or.inr ⟨bs, rfl, rfl⟩

/-- An effective event leaves what it sets. -/
theorem Leaves.set (h : sets es e v) : Leaves sets initial (es ++ [e]) v :=
  Or.inl ⟨es, e, [], rfl, h, fun us e' vs w hn => by simp at hn⟩

/-- Any other event leaves what was there. -/
theorem Leaves.keep (h : Leaves sets initial es v) (hn : ∀ w, ¬ sets es e w) :
    Leaves sets initial (es ++ [e]) v := by
  rcases h with ⟨before, b, after, rfl, hs, hafter⟩ | ⟨rfl, hnone⟩
  · refine Or.inl ⟨before, b, after ++ [e], by simp, hs, ?_⟩
    intro us e' vs w hcut
    rcases concat_eq_append_cons hcut with ⟨rfl, rfl⟩ | ⟨ws, rfl, hws⟩
    · exact hn w
    · exact hafter us e' ws w hws
  · refine Or.inr ⟨rfl, ?_⟩
    intro us e' vs w hcut
    rcases concat_eq_append_cons hcut with ⟨rfl, rfl⟩ | ⟨ws, rfl, hws⟩
    · exact hn w
    · exact hnone us e' ws w hws

/-- What is left was there at first, or one of the events has set it. -/
theorem Leaves.origin (h : Leaves sets initial es v) : v = initial ∨ ∃ before, ∃ e ∈ es, sets before e v := by
  rcases h with ⟨before, e, after, rfl, hs, -⟩ | ⟨rfl, -⟩
  · exact Or.inr ⟨before, e, by simp, hs⟩
  · exact Or.inl rfl

/-! ### What is under way -/

section Underway

variable {l : List (Option α)} {a b : α} {n i : Nat}

/-- What is begun takes the next number. -/
theorem underway_concat : (l ++ [some b])[n]? = some (some a) ↔
    l[n]? = some (some a) ∧ n < l.length ∨ n = l.length ∧ a = b := by
  rcases Nat.lt_trichotomy n l.length with hlt | rfl | hgt
  · rw [List.getElem?_append_left hlt]
    simp [hlt, Nat.ne_of_lt hlt]
  · rw [List.getElem?_concat_length]
    simp [eq_comm]
  · rw [List.getElem?_eq_none (by simp; omega)]
    simp [Nat.not_lt_of_gt hgt, Nat.ne_of_gt hgt]

/-- What comes back is no longer under way, and all else is as it was. -/
theorem underway_set : (l.set i none)[n]? = some (some a) ↔ n ≠ i ∧ l[n]? = some (some a) := by
  rw [List.getElem?_set]
  split
  · next heq => simp [heq]
  · next hne => simp [Ne.symm hne]

end Underway

end FieldFilter
