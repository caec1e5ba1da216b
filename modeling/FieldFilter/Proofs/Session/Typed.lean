import FieldFilter.Proofs.Session.Assembly
import FieldFilter.Proofs.Session.ChipList

/-!
# FieldFilter.Proofs.Session.Typed — chips typed as an expression

The filter of a session is a tree that is read back from its rendering, if the keys of the registry can be
typed and no two of them are the same up to case (`parse_render_filter`): its conditions are chips, so the
registry knows their fields and their operators suit them, whatever their values are.
-/

namespace FieldFilter

variable {registry : Registry} {n : Node} {cs : List Condition} {k : LooseText}

namespace Registry

/-- Where no two keys are the same up to case, every key selects its own field. -/
theorem unshadowed_of_pairwise (h : registry.keys.Pairwise fun k k' => k.lower ≠ k'.lower)
    (hk : k ∈ registry.keys) : registry.Unshadowed k := by
  obtain ⟨before, after, hkeys⟩ := List.append_of_mem hk
  rw [hkeys, List.pairwise_append] at h
  exact ⟨before, after, hkeys, fun k' hk' => h.2.2 k' hk' k List.mem_cons_self⟩

/-- A flat group of conditions passes the check if each of them does. -/
theorem validate_allOf (h : ∀ c ∈ cs, registry.Accepts c) :
    registry.validate (.group Combinator.and.word (cs.map .condition)) = .ok () := by
  have hmembers : registry.validateAll (cs.map .condition) = .ok () := by
    refine validateAll_eq_ok.mpr fun n hn => ?_
    obtain ⟨c, hc, rfl⟩ := List.mem_map.mp hn
    obtain ⟨f, hf, hop⟩ := (h c hc).suits
    rw [validate, condition_eq_ok.mpr ⟨f, hf, hop, rfl⟩]
    rfl
  exact hmembers

theorem Accepts.regular {c : Condition} (h : registry.Accepts c)
    (hname : ∀ k ∈ registry.keys, isFieldName k = true) : c.Regular := by
  obtain ⟨f, hf, hop⟩ := h.suits
  obtain ⟨op, -, hword⟩ := List.mem_map.mp hop
  exact ⟨hname _ (mem_keys_of_get? hf), op, hword.symm⟩

end Registry

/-- A group of conditions, or the lone one in it, branches. -/
theorem Node.rooted_of_conditions (hne : cs ≠ []) :
    ∃ n : Node, n.Branching ∧ Node.group Combinator.and.word (cs.map .condition) = Expression.rooted n := by
  match cs with
  | [] => exact absurd rfl hne
  | [c] => exact ⟨.condition c, .condition c, rfl⟩
  | c :: c' :: cs =>
    refine ⟨_, .group (c := .and) (by simp) fun n hn => ?_, rfl⟩
    obtain ⟨c, -, rfl⟩ := List.mem_map.mp hn
    exact .condition c

/-- Acceptable conditions side by side are read back from their rendering. -/
theorem Registry.parse_render_allOf (hname : ∀ k ∈ registry.keys, isFieldName k = true)
    (hcase : registry.keys.Pairwise fun k k' => k.lower ≠ k'.lower) (hne : cs ≠ [])
    (h : ∀ c ∈ cs, registry.Accepts c) :
    registry.parse (Node.group Combinator.and.word (cs.map .condition)).render =
      .ok (.group Combinator.and.word (cs.map .condition)) := by
  have hvalid := validate_allOf h
  have hconds : (Node.group Combinator.and.word (cs.map .condition)).conditions = cs := by
    simp [List.flatMap_map]
  obtain ⟨n, hbranch, hn⟩ := Node.rooted_of_conditions hne
  rw [hn] at hvalid hconds ⊢
  have hregular : n.Regular := by
    refine hbranch.regular fun c hc => ?_
    rw [← Expression.conditions_rooted, hconds] at hc
    exact (h c hc).regular hname
  refine parse_eq_ok.mpr ⟨_, hbranch.parse_render_rooted hregular, ?_, hvalid⟩
  rw [resolve_eq_self_iff, hconds]
  intro c hc
  obtain ⟨f, hf, -⟩ := (h c hc).suits
  have hk := mem_keys_of_get? hf
  obtain ⟨hstrip, hfilled⟩ := strip_fieldName (hname _ hk)
  exact (resolveCondition_eq_self_iff hk hstrip hfilled).mpr (unshadowed_of_pairwise hcase hk)

namespace Session

/-- **Chips and typed expressions agree.**  In every run over a registry whose keys can be typed, no two of
them the same up to case, the filter of the session is read back from its rendering as it is. -/
theorem parse_render_filter (registry : Registry) (hname : ∀ k ∈ registry.keys, isFieldName k = true)
    (hcase : registry.keys.Pairwise fun k k' => k.lower ≠ k'.lower) (listeners : List LooseText)
    (answer : Nat → LookupOutcome) (es : List Event) (t : Traffic)
    (hrun : (Traffic.fresh registry listeners).run answer es = some t) :
    registry.parse t.session.filter.render = .ok t.session.filter := by
  by_cases hchips : t.session.chips = []
  · rw [filter_eq_everything_iff.mpr hchips]
    rfl
  · rw [filter_of_ne_nil hchips]
    exact Registry.parse_render_allOf hname hcase hchips (coherent_of_run hrun).chips

/-- Two fields, each labelled with the key of the other, one of which is a keyword. -/
def knotted : Registry where
  fields := [⟨"or", "b.c-1", .string, .absent⟩, ⟨"b.c-1", "or", .number, .absent⟩]
  nodup := by decide

/-- Chips whose values are a keyword, a sign of an operator, and a text that needs quotes and escapes. -/
def knottedChips : List Condition := [⟨"or", "contains", "and"⟩, ⟨"b.c-1", ">=", "="⟩, ⟨"or", "=", "\"\\ ("⟩]

set_option maxRecDepth 10000 in
theorem parse_render_filter_knotted :
    (∀ k ∈ knotted.keys, isFieldName k = true) ∧
      (knotted.keys.Pairwise fun k k' => k.lower ≠ k'.lower) ∧
      ∃ t, (Traffic.fresh knotted []).run (fun _ => .nothing) [.add "OR" "contains" " and ",
          .add "B.C-1" ">=" "=", .add "or" "=" "\"\\ ("] = some t ∧
        t.session.chips = knottedChips ∧ knotted.parse t.session.filter.render = .ok t.session.filter := by
  have hname : ∀ k ∈ knotted.keys, isFieldName k = true := by decide
  have hcase : knotted.keys.Pairwise fun k k' => k.lower ≠ k'.lower := by decide
  have hend : ((Traffic.fresh knotted []).run (fun _ => .nothing) [.add "OR" "contains" " and ",
      .add "B.C-1" ">=" "=", .add "or" "=" "\"\\ ("]).map (·.session.chips) = some knottedChips := by rfl
  obtain ⟨t, ht, hchips⟩ := Option.map_eq_some_iff.mp hend
  exact ⟨hname, hcase, t, ht, hchips, parse_render_filter knotted hname hcase [] _ _ t ht⟩

end Session
end FieldFilter
