import FieldFilter.Filter.Build
import FieldFilter.Proofs.Expression.Canonical
import FieldFilter.Proofs.Schema.Find
import FieldFilter.Proofs.Session.Operations

/-!
# FieldFilter.Proofs.Expression.Resolved — expressions read against a registry

Resolution changes the conditions of a tree one by one and nothing else (`conditions_resolve`), and a tree that
passes the check names registered fields and comparisons.  So what is read against a registry can be rendered
and read back if its keys can be typed, and it comes back as it is just if none of them is shadowed
(`parse_render_iff`).
-/

namespace FieldFilter

variable {r : Registry} {text : LooseText} {n : Node} {c : Condition}

namespace Registry

/-! ### Resolution -/

theorem resolveAll_eq_map (r : Registry) (ns : List Node) : r.resolveAll ns = ns.map r.resolve := by
  induction ns with
  | nil => rfl
  | cons n ns ih => rw [resolveAll, ih, List.map_cons]

@[simp] theorem resolve_group (word : LooseText) (members : List Node) :
    r.resolve (.group word members) = .group word (members.map r.resolve) := by
  rw [resolve, resolveAll_eq_map]

theorem resolve_rooted (n : Node) : r.resolve (Expression.rooted n) = Expression.rooted (r.resolve n) := by
  cases n <;> rfl

theorem conditions_resolve (n : Node) : (r.resolve n).conditions = n.conditions.map r.resolveCondition := by
  induction n using Node.members_induction with
  | everything => rfl
  | condition c => rfl
  | group word members ih =>
    rw [resolve_group, Node.conditions_group, Node.conditions_group, List.map_flatMap, List.flatMap_map]
    exact List.flatMap_congr ih

/-- A condition on a registered key keeps it just if no earlier key is the same up to case. -/
theorem resolveCondition_eq_self_iff (hk : c.field ∈ r.keys) (hstrip : c.field.strip = c.field)
    (hne : c.field.isEmpty = false) : r.resolveCondition c = c ↔ r.Unshadowed c.field := by
  obtain ⟨k, hfind⟩ := find_of_mem hk hstrip hne
  rw [← find_self_iff hk hstrip hne, hfind]
  obtain ⟨field, operator, value⟩ := c
  simp [resolveCondition, hfind]

/-- A tree needs no resolution just if none of its conditions does. -/
theorem resolve_eq_self_iff : r.resolve n = n ↔ ∀ c ∈ n.conditions, r.resolveCondition c = c := by
  constructor
  · intro h
    have hconds := conditions_resolve (r := r) n
    rw [h] at hconds
    exact List.map_inj_left.mp (hconds.symm.trans (List.map_id _).symm)
  · intro h
    induction n using Node.members_induction with
    | everything => rfl
    | condition c => rw [resolve, h c List.mem_cons_self]
    | group word members ih =>
      have hmembers : ∀ m ∈ members, r.resolve m = m := fun m hm => ih m hm fun c hc => h c <| by
        rw [Node.conditions_group]
        exact List.mem_flatMap_of_mem hm hc
      rw [resolve_group, List.map_congr_left hmembers, List.map_id']

/-! ### The check -/

theorem validateAll_eq_ok {ns : List Node} : r.validateAll ns = .ok () ↔ ∀ n ∈ ns, r.validate n = .ok () := by
  induction ns with
  | nil => simp [validateAll]
  | cons n ns ih =>
    rw [validateAll, List.forall_mem_cons, ← ih]
    cases r.validate n <;> simp [bind, Except.bind]

/-- The conditions of a tree that passes the check are on registered fields, with operators that suit them. -/
theorem condition_of_validate (h : r.validate n = .ok ()) :
    ∀ c ∈ n.conditions, ∃ f, r.get? c.field = some f ∧ c.operator ∈ f.type.operatorWords := by
  induction n using Node.members_induction with
  | everything => rintro c ⟨⟩
  | condition c =>
    rw [validate] at h
    simp only [Node.conditions_condition, List.mem_singleton, forall_eq]
    cases hc : r.condition c.field c.operator c.value with
    | error e => simp [hc, Except.map] at h
    | ok c' =>
      obtain ⟨f, hf, hmem, -⟩ := condition_eq_ok.mp hc
      exact ⟨f, hf, hmem⟩
  | group word members ih =>
    rw [validate] at h
    split at h
    · intro c hc
      rw [Node.conditions_group] at hc
      obtain ⟨n, hn, hc⟩ := List.mem_flatMap.mp hc
      exact ih n hn (validateAll_eq_ok.mp h n hn) c hc
    · cases h

/-! ### Reading -/

theorem parse_eq_ok : r.parse text = .ok n ↔
    ∃ m, Expression.parse text = .ok m ∧ r.resolve m = n ∧ r.validate n = .ok () := by
  unfold parse
  cases Expression.parse text with
  | error e => simp [bind, Except.bind]
  | ok m =>
    simp only [bind, Except.bind, Except.ok.injEq, exists_eq_left']
    cases hv : r.validate (r.resolve m) with
    | error e =>
      refine iff_of_false (by simp) ?_
      rintro ⟨rfl, h⟩
      rw [hv] at h
      cases h
    | ok u =>
      constructor
      · rintro ⟨⟩
        exact ⟨rfl, hv⟩
      · rintro ⟨rfl, -⟩
        rfl

end Registry

theorem Node.Branching.resolve (h : n.Branching) : (r.resolve n).Branching := by
  induction h with
  | condition c => exact .condition _
  | group hlen _ ih =>
    rw [Registry.resolve_group]
    refine .group (by simpa using hlen) fun m hm => ?_
    obtain ⟨n, hn, rfl⟩ := List.mem_map.mp hm
    exact ih n hn

/-! ### Field names as keys -/

theorem not_blank_of_fieldName {name : LooseText} (h : isFieldName name = true) :
    ∀ m ∈ name.marks, m.is Text.isBlank = false := by
  obtain ⟨m, w, hname, hm, hw⟩ := isFieldName_iff.mp h
  intro x hx
  have hx : x.is Token.isFieldStart = true ∨ x.is Token.isFieldChar = true := by
    rw [hname] at hx
    rcases List.mem_cons.mp hx with rfl | hx
    · exact .inl hm
    · exact .inr (hw x hx)
  cases x with
  | half => rfl
  | char c =>
    rcases hx with hx | hx
    · exact not_blank_of_fieldChar (fieldChar_of_fieldStart hx)
    · exact not_blank_of_fieldChar hx

/-- A field name is not empty and has no white space around it. -/
theorem strip_fieldName {name : LooseText} (h : isFieldName name = true) :
    name.strip = name ∧ name.isEmpty = false := by
  obtain ⟨m, w, hname, -⟩ := isFieldName_iff.mp h
  have hne : name.marks ≠ [] := by simp [hname]
  have hblank := not_blank_of_fieldName h
  refine ⟨Solid.strip ⟨⟨name.marks.head hne, ?_, hblank _ (List.head_mem hne)⟩,
    name.marks.getLast hne, ?_, hblank _ (List.getLast_mem hne)⟩, by simpa [LooseText.isEmpty] using hne⟩
  · exact List.head?_eq_some_head hne
  · exact List.getLast?_eq_some_getLast hne

namespace Registry

/-- What is read against a registry passes the check, and its groups branch apart from a root that holds a lone
condition. -/
theorem branching_of_parse {g : Node} (h : r.parse text = .ok g) (hg : g ≠ .everything) :
    ∃ n : Node, n.Branching ∧ g = Expression.rooted n ∧ r.validate g = .ok () := by
  obtain ⟨m, hm, rfl, hvalid⟩ := parse_eq_ok.mp h
  have hne : m ≠ .everything := by
    rintro rfl
    exact hg rfl
  obtain ⟨ts, n, -, hsent, rfl⟩ := Expression.sentence_of_parse hm hne
  exact ⟨r.resolve n, hsent.branching.resolve, resolve_rooted n, hvalid⟩

/-- **What is read against a registry is rendered and read back as it is** just if none of its keys is shadowed.
Its keys have to be such that they can be typed. -/
theorem parse_render_iff {word : LooseText} {members : List Node}
    (h : r.parse text = .ok (.group word members))
    (hname : ∀ c ∈ (Node.group word members).conditions, isFieldName c.field = true) :
    r.parse (Node.group word members).render = .ok (.group word members) ↔
      ∀ c ∈ (Node.group word members).conditions, r.Unshadowed c.field := by
  obtain ⟨n, hbranch, hn, hvalid⟩ := branching_of_parse h (by simp)
  rw [hn] at hname hvalid ⊢
  have hconds := condition_of_validate hvalid
  have hkeep : r.resolve (Expression.rooted n) = Expression.rooted n ↔
      ∀ c ∈ (Expression.rooted n).conditions, r.Unshadowed c.field := by
    rw [resolve_eq_self_iff]
    refine forall₂_congr fun c hc => ?_
    obtain ⟨f, hf, -⟩ := hconds c hc
    obtain ⟨hstrip, hne⟩ := strip_fieldName (hname c hc)
    exact resolveCondition_eq_self_iff (mem_keys_of_get? hf) hstrip hne
  have hregular : n.Regular := by
    refine hbranch.regular fun c hc => ?_
    rw [← Expression.conditions_rooted] at hc
    obtain ⟨f, -, hmem⟩ := hconds c hc
    obtain ⟨op, -, hop⟩ := List.mem_map.mp hmem
    exact ⟨hname c hc, op, hop.symm⟩
  have hback := hbranch.parse_render_rooted hregular
  rw [← hkeep, parse_eq_ok]
  constructor
  · rintro ⟨m, hm, hresolve, -⟩
    obtain rfl := Except.ok.inj (hback.symm.trans hm)
    exact hresolve
  · exact fun hresolve => ⟨_, hback, hresolve, hvalid⟩

/-- Two fields, one of which is called `Years`. -/
def persons : Registry where
  fields := [⟨"name", "Name", .string, .absent⟩, ⟨"age", "Years", .number, .absent⟩]
  nodup := by decide

/-- The members of `years > 30 and (NAME contains "a b" or Age = 7)`. -/
def personMembers : List Node := [
  .condition ⟨"age", ">", "30"⟩,
  .group "or" [.condition ⟨"name", "contains", "a b"⟩, .condition ⟨"age", "=", "7"⟩]]

set_option maxRecDepth 2000 in
theorem parse_render_iff_persons :
    persons.parse "years > 30 and (NAME contains \"a b\" or Age = 7)" = .ok (.group "and" personMembers) ∧
      (∀ c ∈ (Node.group "and" personMembers).conditions, isFieldName c.field = true) ∧
      persons.parse (Node.group "and" personMembers).render = .ok (.group "and" personMembers) := by
  have hread : Expression.parse "years > 30 and (NAME contains \"a b\" or Age = 7)" = .ok (.group "and" [
      .condition ⟨"years", ">", "30"⟩,
      .group "or" [.condition ⟨"NAME", "contains", "a b"⟩, .condition ⟨"Age", "=", "7"⟩]]) := by
    with_unfolding_all rfl
  have hparse : persons.parse "years > 30 and (NAME contains \"a b\" or Age = 7)" =
      .ok (.group "and" personMembers) := by
    rw [parse, hread]
    rfl
  have hconds : (Node.group "and" personMembers).conditions =
      [⟨"age", ">", "30"⟩, ⟨"name", "contains", "a b"⟩, ⟨"age", "=", "7"⟩] := by
    simp [personMembers]
  have hname : ∀ c ∈ (Node.group "and" personMembers).conditions, isFieldName c.field = true := by
    rw [hconds]
    decide
  have hage : persons.Unshadowed "age" := ⟨["name"], [], rfl, by decide⟩
  have hperson : persons.Unshadowed "name" := ⟨[], ["age"], rfl, by simp⟩
  refine ⟨hparse, hname, (parse_render_iff hparse hname).mpr ?_⟩
  rw [hconds]
  simpa using ⟨hage, hperson, hage⟩

/-- One field, whose key no expression can name. -/
def spaced : Registry where
  fields := [⟨"first name", "name", .string, .absent⟩]
  nodup := by simp

theorem parse_render_spaced :
    spaced.parse "name = x" = .ok (.group "and" [.condition ⟨"first name", "=", "x"⟩]) ∧
      spaced.parse (Node.group "and" [.condition ⟨"first name", "=", "x"⟩]).render =
        .error (.unreadable "first name = x" (.offset 6)) := by
  constructor
  · have hread : Expression.parse "name = x" = .ok (.group "and" [.condition ⟨"name", "=", "x"⟩]) := by
      with_unfolding_all rfl
    rw [parse, hread]
    rfl
  · have hrender : (Node.group "and" [.condition ⟨"first name", "=", "x"⟩]).render = "first name = x" := by rfl
    have hread : Expression.parse "first name = x" = .error (.unreadable "first name = x" (.offset 6)) := by
      with_unfolding_all rfl
    rw [hrender, parse, hread]
    rfl

end Registry
end FieldFilter
