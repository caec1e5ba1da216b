import FieldFilter.Schema.Registry

/-!
# FieldFilter.Proofs.Schema.Find — which field a typed key selects

Registration tells keys apart by case and `Registry.find` does not, so a key that is typed exactly as it was
registered selects the first field whose key is the same up to case (`find_of_key`).  That is its own field
just if no earlier key is the same up to case (`find_self_iff`).
-/

namespace FieldFilter.Registry

variable {r : Registry} {k : LooseText}

/-- The key is registered, and no key before it is the same up to case. -/
def Unshadowed (r : Registry) (k : LooseText) : Prop :=
  ∃ before after, r.keys = before ++ k :: after ∧ ∀ k' ∈ before, k'.lower ≠ k.lower

/-- A key without white space around it selects the first key that is the same up to case. -/
theorem find_of_key (hk : k ∈ r.keys) (hstrip : k.strip = k) (hne : k.isEmpty = false) :
    r.find k = r.keys.find? fun k' => k'.lower == k.lower := by
  obtain ⟨f, hf, rfl⟩ := List.mem_map.mp hk
  obtain ⟨first, hfirst⟩ : ∃ g, (r.fields.find? fun g => g.key.lower == f.key.lower) = some g :=
    Option.isSome_iff_exists.mp (List.find?_isSome.mpr ⟨f, hf, beq_self_eq_true _⟩)
  have hkeys : (r.keys.find? fun k' => k'.lower == f.key.lower) = some first.key := by
    rw [keys, List.find?_map]
    exact congrArg (Option.map Field.key) hfirst
  simp [find, hstrip, hne, hfirst, hkeys]

theorem find_of_mem (hk : k ∈ r.keys) (hstrip : k.strip = k) (hne : k.isEmpty = false) :
    ∃ k', r.find k = some k' := by
  rw [find_of_key hk hstrip hne]
  exact Option.isSome_iff_exists.mp (List.find?_isSome.mpr ⟨k, hk, beq_self_eq_true _⟩)

/-- **A key that is typed exactly selects its own field** just if no earlier key is the same up to case. -/
theorem find_self_iff (hk : k ∈ r.keys) (hstrip : k.strip = k) (hne : k.isEmpty = false) :
    r.find k = some k ↔ r.Unshadowed k := by
  rw [find_of_key hk hstrip hne, List.find?_eq_some_iff_append, Unshadowed]
  simp

end FieldFilter.Registry
