import FieldFilter.Options.Lookup
import FieldFilter.Proofs.Filter.Contains
import FieldFilter.Schema.Registry

/-!
# FieldFilter.Proofs.Filter.Literal — texts that stand in others mark for mark

Options, keys and texts of records are all searched in lower case.  A query that stands in one of them as it is
is found there if its lower case stands in theirs, which is so everywhere just if the query is settled
(`literal_found_iff`).
-/

namespace FieldFilter

variable {q s field : LooseText} {options : List LooseText}

theorem mem_filterOptions : s ∈ filterOptions options q ↔ s ∈ options ∧ q.occursInAnyCase s = true :=
  List.mem_filter

theorem Registry.mem_suggestFields {r : Registry} (hq : q.isEmpty = false) :
    s ∈ r.suggestFields q ↔ s ∈ r.keys ∧ q.occursInAnyCase s = true := by
  rw [suggestFields, hq]
  exact List.mem_filter

theorem forall_mem_filterOptions_iff :
    (∀ options, s ∈ options → s ∈ filterOptions options q) ↔ q.occursInAnyCase s = true :=
  ⟨fun h => (mem_filterOptions.mp (h [s] List.mem_cons_self)).2, fun h _ hs => mem_filterOptions.mpr ⟨hs, h⟩⟩

theorem Registry.forall_mem_suggestFields_iff (hq : q.isEmpty = false) :
    (∀ r : Registry, s ∈ r.keys → s ∈ r.suggestFields q) ↔ q.occursInAnyCase s = true := by
  refine ⟨fun h => ?_, fun h r hs => (mem_suggestFields hq).mpr ⟨hs, h⟩⟩
  exact ((mem_suggestFields hq).mp (h { fields := [⟨s, s, .string, .absent⟩] } List.mem_cons_self)).2

theorem Condition.forall_holds_contains_iff :
    (∀ (r : Record) field, r.get field = .text s → NotBothDates (.text s) q →
      (Condition.mk field "contains" q).holds r = .ok true) ↔
    (NotBothDates (.text s) q → q.occursInAnyCase s = true) := by
  constructor
  · intro h hdates
    have hraw : Record.get [("", .text s)] "" = .text s := rfl
    simpa using (holds_contains_text hraw hdates).symm.trans (h _ _ hraw hdates)
  · intro h r field hraw hdates
    rw [holds_contains_text hraw hdates, h hdates]

/-- A text that is not settled is no date, since it has a capital sigma in it. -/
theorem notBothDates_of_not_settled (h : ¬ q.Settled) : NotBothDates (.text s) q := by
  have hmem : .char 'Σ' ∈ q.marks := by
    by_contra hmem
    exact h (LooseText.SettledFrom.of_not_mem hmem)
  exact .inr (LooseText.day?_eq_none_of_mem hmem (by decide) (by decide) (by decide))

/-- **A query that stands in an option, a key or the text of a record is found there**, wherever it stands, just
if it is settled: its own marks decide the form of every capital sigma in it. -/
theorem literal_found_iff (q : LooseText) :
    ((∀ s, q.marks <:+: s.marks → ∀ options, s ∈ options → s ∈ filterOptions options q) ↔ q.Settled) ∧
    (q.isEmpty = false →
      ((∀ s, q.marks <:+: s.marks → ∀ r : Registry, s ∈ r.keys → s ∈ r.suggestFields q) ↔ q.Settled)) ∧
    ((∀ s, q.marks <:+: s.marks → ∀ (r : Record) field, r.get field = .text s → NotBothDates (.text s) q →
      (Condition.mk field "contains" q).holds r = .ok true) ↔ q.Settled) ∧
    (.char 'Σ' ∉ q.marks → q.Settled) := by
  refine ⟨?_, fun hq => ?_, ?_, LooseText.SettledFrom.of_not_mem⟩
  · simp only [forall_mem_filterOptions_iff, LooseText.settled_iff]
  · simp only [Registry.forall_mem_suggestFields_iff hq, LooseText.settled_iff]
  · simp only [Condition.forall_holds_contains_iff]
    refine ⟨fun h => ?_, fun h s hstands _ => h.occursInAnyCase hstands⟩
    by_contra hsettled
    exact hsettled (LooseText.settled_iff.mpr fun s hstands => h s hstands (notBothDates_of_not_settled hsettled))

/-- The sigma of a query stays in the middle of a word where a letter follows it. -/
theorem literal_found_followed : LooseText.marks "ΕΣΗ" <:+: LooseText.marks "ΘΕΣΗ" ∧
    LooseText.ofString "ΘΕΣΗ" ∈ filterOptions ["ΑΡΧΗ", "ΘΕΣΗ"] "ΕΣΗ" := by
  have hstands : LooseText.marks "ΕΣΗ" <:+: LooseText.marks "ΘΕΣΗ" := by decide +kernel
  have hsettled : LooseText.Settled "ΕΣΗ" := by decide +kernel
  obtain ⟨hoptions, -⟩ := literal_found_iff "ΕΣΗ"
  exact ⟨hstands, hoptions.mpr hsettled _ hstands _ (by decide)⟩

/-- A query that ends with a sigma loses the option that goes on after it, which all shorter ones found. -/
theorem literal_lost : LooseText.marks "ΘΕΣ" <:+: LooseText.marks "ΘΕΣΗ" ∧
    filterOptions ["ΘΕΣΗ"] "ΘΕ" = ["ΘΕΣΗ"] ∧ filterOptions ["ΘΕΣΗ"] "ΘΕΣ" = [] ∧
    (Registry.mk [⟨"ΘΕΣΗ", "ΘΕΣΗ", .string, .absent⟩] (by simp)).suggestFields "ΘΕΣ" = [] ∧
    (Condition.mk "τόπος" "contains" "ΘΕΣ").holds [("τόπος", .text "ΘΕΣΗ")] = .ok false := by
  decide +kernel

end FieldFilter
