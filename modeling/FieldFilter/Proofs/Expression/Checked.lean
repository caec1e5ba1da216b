import FieldFilter.Proofs.Expression.Resolved
import FieldFilter.Proofs.Filter.Check

/-!
# FieldFilter.Proofs.Expression.Checked — which fault of an expression is reported

The groups of a tree that is read are sound, so its check comes down to its conditions
(`Node.Branching.failure?_validate`), and these stand in the tree as they stand in the text
(`Sentence.conditions`).  Reading against a registry therefore fails with the syntax, or with the leftmost
condition of the text whose field has no name in the registry or whose operator does not suit it
(`Registry.first_fault`).
-/

namespace FieldFilter

variable {r : Registry} {text : LooseText} {n g : Node} {c : Condition} {e : Fault} {ts us : List Token}
  {ns : List Node}

/-! ### The conditions of a text -/

/-- The conditions that stand among tokens, from left to right. -/
def Token.conditions : List Token → List Condition
  | .field name :: .operator word :: .value text :: rest => ⟨name, word, text⟩ :: conditions rest
  | _ :: rest => conditions rest
  | [] => []

/-- The conditions of a phrase are those of its members, whatever comes after it. -/
theorem Derives.conditions {p : Phrase} (h : Derives p ts ns) (us : List Token) :
    Token.conditions (ts ++ us) = ns.flatMap Node.conditions ++ Token.conditions us := by
  induction h generalizing us with
  | condition field operator value => rfl
  | parentheses _ hn ih =>
    rw [List.flatMap_singleton, hn.conditions, List.append_assoc]
    exact ih (.closing :: us)
  | atom _ ih => exact ih us
  | @and ts us' _ _ _ _ ih ih' =>
    rw [List.flatMap_append, List.append_assoc, List.append_assoc, ← ih' us]
    exact ih (.and :: us' ++ us)
  | conjunction _ hn ih =>
    rw [List.flatMap_singleton, hn.conditions]
    exact ih us
  | @or ts us' _ _ _ _ _ hn ih ih' =>
    rw [List.flatMap_append, List.flatMap_singleton, hn.conditions, List.append_assoc, List.append_assoc, ← ih' us]
    exact ih (.or :: us' ++ us)

/-- The conditions of a tree stand among its tokens, in the same order. -/
theorem Sentence.conditions (h : Sentence ts n) : Token.conditions ts = n.conditions := by
  obtain ⟨ns, hd, hn⟩ := h
  rw [hn.conditions]
  simpa [Token.conditions] using hd.conditions []

/-! ### The check of what is read -/

namespace Registry

/-- The field of the condition is the name of a registered field, whose type takes the operator. -/
def Admits (r : Registry) (c : Condition) : Prop :=
  ∃ f ∈ r.fields, r.find c.field = some f.key ∧ c.operator ∈ f.type.operatorWords

/-- The condition cannot be admitted, and this is said of it: of a field that has no name it is said how it was
typed, of any other its key. -/
inductive Refuses (r : Registry) (c : Condition) : Fault → Prop
  | field : r.find c.field = none → Refuses r c (.unknownField c.field)
  | operator {f : Field} : f ∈ r.fields → r.find c.field = some f.key → c.operator ∉ f.type.operatorWords →
    Refuses r c (.invalidOperator f.key c.operator f.type.operators)

/-- The second tree is the first with the field of every condition replaced by the key that it names. -/
inductive Renames (r : Registry) : Node → Node → Prop
  | everything : Renames r .everything .everything
  | condition {c : Condition} {key : LooseText} : r.find c.field = some key →
    Renames r (.condition c) (.condition { c with field := key })
  | group {word : LooseText} {members members' : List Node} : List.Forall₂ (Renames r) members members' →
    Renames r (.group word members) (.group word members')

/-- A field name that names no field is not a key. -/
theorem get?_of_find_none (hname : isFieldName c.field = true) (h : r.find c.field = none) :
    r.get? c.field = none := by
  obtain ⟨hstrip, hne⟩ := strip_fieldName hname
  refine Option.eq_none_iff_forall_ne_some.mpr fun f hf => ?_
  obtain ⟨key, hkey⟩ := find_of_mem (mem_keys_of_get? hf) hstrip hne
  rw [h] at hkey
  cases hkey

theorem resolveCondition_of_none (h : r.find c.field = none) : r.resolveCondition c = c := by
  simp [resolveCondition, h]

theorem resolveCondition_of_some {key : LooseText} (h : r.find c.field = some key) :
    r.resolveCondition c = { c with field := key } := by
  simp [resolveCondition, h]

theorem admits_iff (hname : isFieldName c.field = true) :
    r.conditionFault? (r.resolveCondition c) = none ↔ r.Admits c := by
  rw [conditionFault?_eq_none_iff]
  cases h : r.find c.field with
  | none =>
    rw [resolveCondition_of_none h]
    refine iff_of_false ?_ ?_
    · rintro ⟨f, hf, hkey, -⟩
      exact get?_eq_none_iff.mp (get?_of_find_none hname h) f hf hkey
    · rintro ⟨f, -, hfind, -⟩
      exact nomatch h.symm.trans hfind
  | some key =>
    rw [resolveCondition_of_some h]
    simp [Permits, Admits, h, eq_comm]

theorem refuses_iff (hname : isFieldName c.field = true) :
    r.conditionFault? (r.resolveCondition c) = some e ↔ r.Refuses c e := by
  rw [conditionFault?_eq_some_iff]
  cases h : r.find c.field with
  | none =>
    rw [resolveCondition_of_none h]
    have hnone := get?_eq_none_iff.mp (get?_of_find_none hname h)
    constructor
    · intro hfault
      cases hfault with
      | field _ => exact .field h
      | operator hf hkey _ => exact absurd hkey (hnone _ hf)
    · intro hrefuse
      cases hrefuse with
      | field _ => exact .field hnone
      | operator _ hfind _ => exact nomatch h.symm.trans hfind
  | some key =>
    rw [resolveCondition_of_some h]
    obtain ⟨g, hget⟩ := find_registered h
    obtain ⟨hg, rfl⟩ := get?_eq_some_iff.mp hget
    constructor
    · intro hfault
      cases hfault with
      | field hnone => exact absurd rfl (hnone g hg)
      | operator hf hkey hop =>
        have hkey : _ = g.key := hkey
        rw [← hkey] at h ⊢
        exact .operator hf h hop
    · intro hrefuse
      cases hrefuse with
      | field hnone => exact nomatch h.symm.trans hnone
      | operator hf hfind hop =>
        have hkey := Option.some.inj (hfind.symm.trans h)
        rw [hkey]
        exact .operator (c := { c with field := g.key }) hf hkey hop

/-- A tree has at most one renaming, which is its resolution. -/
theorem Renames.resolve_eq (h : r.Renames n g) : r.resolve n = g := by
  induction n using Node.members_induction generalizing g with
  | everything =>
    cases h
    rfl
  | condition c =>
    cases h with
    | condition hfind => rw [resolve, resolveCondition_of_some hfind]
  | group word members ih =>
    cases h with
    | group hmembers =>
      rw [resolve_group]
      congr 1
      induction hmembers with
      | nil => rfl
      | cons hm _ ih' =>
        rw [List.forall_mem_cons] at ih
        rw [List.map_cons, ih.1 hm, ih' ih.2]

/-- Where all conditions are admitted, resolution replaces every field. -/
theorem renames_resolve (h : ∀ c ∈ n.conditions, r.Admits c) : r.Renames n (r.resolve n) := by
  induction n using Node.members_induction with
  | everything => exact .everything
  | condition c =>
    obtain ⟨f, -, hfind, -⟩ := h c (List.mem_singleton_self c)
    rw [resolve, resolveCondition_of_some hfind]
    exact .condition hfind
  | group word members ih =>
    rw [resolve_group]
    refine .group (List.forall₂_map_right_iff.mpr (List.forall₂_same.mpr fun m hm => ih m hm fun c hc => h c ?_))
    rw [Node.conditions_group]
    exact List.mem_flatMap_of_mem hm hc

/-- The check of a group that is itself sound finds what it finds first in a member. -/
theorem failure?_validate_joined {members : List Node}
    (h : ∀ m ∈ members, failure? (r.validate m) = m.conditions.findSome? r.conditionFault?) (c : Combinator) :
    failure? (r.validate (.group c.word members)) =
      (Node.group c.word members).conditions.findSome? r.conditionFault? := by
  have hsound : r.nodeFault? (.group c.word members) = none := by cases c <;> rfl
  rw [failure?_validate_group, hsound, Option.none_or, findSome?_congr h, ← findSome?_flatMap,
    Node.conditions_group]

end Registry

namespace Node

/-- The groups of what is read are sound, so only its conditions can have faults. -/
theorem Branching.failure?_validate (h : n.Branching) :
    failure? (r.validate n) = n.conditions.findSome? r.conditionFault? := by
  induction h with
  | condition c =>
    rw [Registry.failure?_validate_condition, conditions_condition, List.findSome?_singleton]
  | group _ _ ih => exact Registry.failure?_validate_joined ih _

theorem Branching.failure?_validate_rooted (h : n.Branching) :
    failure? (r.validate (Expression.rooted n)) = n.conditions.findSome? r.conditionFault? := by
  cases h with
  | condition c =>
    have hmembers : ∀ m ∈ [Node.condition c], failure? (r.validate m) = m.conditions.findSome? r.conditionFault? := by
      intro m hm
      rw [List.mem_singleton.mp hm]
      exact (Branching.condition c).failure?_validate
    exact Registry.failure?_validate_joined hmembers .and
  | group hlen hns => exact (Branching.group hlen hns).failure?_validate

end Node

namespace Expression

/-- A text that is read splits into tokens. -/
theorem lexes_of_parse (h : parse text = .ok n) : ∃ ts, Lexes [] text.strip.marks ts := by
  obtain ⟨hblank, -⟩ | ⟨ts, -, hlex, -⟩ := parse_cases h
  · exact ⟨[], hblank ▸ .done (by simp [Separators])⟩
  · exact ⟨ts, hlex⟩

/-- What is read holds the conditions of the text, whose fields are field names, and only they can have faults. -/
theorem conditions_of_parse (h : parse text = .ok n) (hlex : Lexes [] text.strip.marks ts) :
    Token.conditions ts = n.conditions ∧ (∀ c ∈ n.conditions, isFieldName c.field = true) ∧
      failure? (r.validate (r.resolve n)) = (r.resolve n).conditions.findSome? r.conditionFault? := by
  obtain ⟨hblank, rfl⟩ | ⟨us, m, hlex', hsent, rfl⟩ := parse_cases h
  · rw [hblank] at hlex
    have hnone : Lexes [] [] [] := .done (by simp [Separators])
    cases hlex.unique hnone
    exact ⟨rfl, by simp, rfl⟩
  · cases hlex.unique hlex'
    rw [Registry.resolve_rooted, conditions_rooted, conditions_rooted]
    exact ⟨hsent.conditions, hlex.fieldNames hsent, hsent.branching.resolve.failure?_validate_rooted⟩

end Expression

namespace Registry

/-- The check of what is read fails with the leftmost condition of the text that cannot be admitted. -/
theorem failure?_validate_of_parse (h : Expression.parse text = .ok n) (hlex : Lexes [] text.strip.marks ts) :
    failure? (r.validate (r.resolve n)) =
      (Token.conditions ts).findSome? fun c => r.conditionFault? (r.resolveCondition c) := by
  obtain ⟨hconds, -, hfail⟩ := Expression.conditions_of_parse (r := r) h hlex
  rw [hfail, hconds, conditions_resolve, List.findSome?_map]
  rfl

/-- What is read passes the check just if all its conditions are admitted. -/
theorem validate_eq_ok_of_parse (h : Expression.parse text = .ok n) :
    r.validate (r.resolve n) = .ok () ↔ ∀ c ∈ n.conditions, r.Admits c := by
  obtain ⟨ts, hlex⟩ := Expression.lexes_of_parse h
  obtain ⟨hconds, hname, -⟩ := Expression.conditions_of_parse (r := r) h hlex
  rw [validate_eq_ok_iff_failure?, failure?_validate_of_parse h hlex, hconds, List.findSome?_eq_none_iff]
  exact forall₂_congr fun c hc => admits_iff (hname c hc)

/-- What is read is refused with the leftmost condition of the text that is not admitted. -/
theorem validate_eq_error_of_parse (h : Expression.parse text = .ok n) (hlex : Lexes [] text.strip.marks ts) :
    r.validate (r.resolve n) = .error e ↔ ∃ before c after, Token.conditions ts = before ++ c :: after ∧
      (∀ b ∈ before, r.Admits b) ∧ r.Refuses c e := by
  obtain ⟨hconds, hname, -⟩ := Expression.conditions_of_parse (r := r) h hlex
  rw [← hconds] at hname
  rw [← failure?_eq_some, failure?_validate_of_parse h hlex, List.findSome?_eq_some_iff]
  constructor
  · rintro ⟨before, c, after, hsplit, hfault, hnone⟩
    simp only [hsplit, List.forall_mem_append, List.forall_mem_cons] at hname
    exact ⟨before, c, after, hsplit, fun b hb => (admits_iff (hname.1 b hb)).mp (hnone b hb),
      (refuses_iff hname.2.1).mp hfault⟩
  · rintro ⟨before, c, after, hsplit, hadmitted, hrefuse⟩
    simp only [hsplit, List.forall_mem_append, List.forall_mem_cons] at hname
    exact ⟨before, c, after, hsplit, (refuses_iff hname.2.1).mpr hrefuse,
      fun b hb => (admits_iff (hname.1 b hb)).mpr (hadmitted b hb)⟩

theorem parse_eq_error : r.parse text = .error e ↔ Expression.parse text = .error e ∨
    ∃ n, Expression.parse text = .ok n ∧ r.validate (r.resolve n) = .error e := by
  unfold parse
  rw [bind_eq_error]
  refine or_congr_right (exists_congr fun n => and_congr_right fun _ => ?_)
  show (r.validate (r.resolve n) >>= fun _ => .ok (r.resolve n)) = .error e ↔ _
  rw [bind_eq_error]
  simp

/-- **The check is exact and reports the first fault.**  A tree passes just if all its nodes are sound, and is
refused with what is said of the first node in preorder that is not.  So an expression is read against a registry
just if it is read at all and its conditions are admitted; then its fields are replaced by the keys that they name,
and what comes out passes the check.  Otherwise the fault is in its syntax, or in the leftmost condition of the
text that is not admitted. -/
theorem first_fault (r : Registry) :
    (∀ n, (r.validate n = .ok () ↔ ∀ m ∈ n.preorder, r.Sound m) ∧
      ∀ e, r.validate n = .error e ↔
        ∃ before m after, n.preorder = before ++ m :: after ∧ (∀ b ∈ before, r.Sound b) ∧ r.Faulty m e) ∧
    ∀ text,
      ((∃ g, r.parse text = .ok g) ↔ ∃ n, Expression.parse text = .ok n ∧ ∀ c ∈ n.conditions, r.Admits c) ∧
      (∀ g, r.parse text = .ok g ↔
        ∃ n, Expression.parse text = .ok n ∧ (∀ c ∈ n.conditions, r.Admits c) ∧ r.Renames n g) ∧
      (∀ g, r.parse text = .ok g → r.validate g = .ok ()) ∧
      ∀ e, r.parse text = .error e ↔ Expression.parse text = .error e ∨
        ∃ n ts before c after, Expression.parse text = .ok n ∧ Lexes [] text.strip.marks ts ∧
          Token.conditions ts = before ++ c :: after ∧ (∀ b ∈ before, r.Admits b) ∧ r.Refuses c e := by
  have hok (text : LooseText) (g : Node) : r.parse text = .ok g ↔
      ∃ n, Expression.parse text = .ok n ∧ (∀ c ∈ n.conditions, r.Admits c) ∧ r.Renames n g := by
    rw [parse_eq_ok]
    refine exists_congr fun n => and_congr_right fun hn => ?_
    rw [← validate_eq_ok_of_parse hn]
    constructor
    · rintro ⟨rfl, hvalid⟩
      exact ⟨hvalid, renames_resolve ((validate_eq_ok_of_parse hn).mp hvalid)⟩
    · rintro ⟨hvalid, hrenames⟩
      exact ⟨hrenames.resolve_eq, hrenames.resolve_eq ▸ hvalid⟩
  refine ⟨fun n => ⟨validate_eq_ok_iff, fun e => validate_eq_error_iff⟩, fun text => ⟨?_, hok text, ?_, fun e => ?_⟩⟩
  · constructor
    · rintro ⟨g, hg⟩
      obtain ⟨n, hn, hadmitted, -⟩ := (hok text g).mp hg
      exact ⟨n, hn, hadmitted⟩
    · rintro ⟨n, hn, hadmitted⟩
      exact ⟨_, (hok text _).mpr ⟨n, hn, hadmitted, renames_resolve hadmitted⟩⟩
  · intro g hg
    obtain ⟨n, -, rfl, hvalid⟩ := parse_eq_ok.mp hg
    exact hvalid
  · rw [parse_eq_error]
    refine or_congr_right (exists_congr fun n => ?_)
    constructor
    · rintro ⟨hn, herror⟩
      obtain ⟨ts, hlex⟩ := Expression.lexes_of_parse hn
      obtain ⟨before, c, after, hfirst⟩ := (validate_eq_error_of_parse hn hlex).mp herror
      exact ⟨ts, before, c, after, hn, hlex, hfirst⟩
    · rintro ⟨ts, before, c, after, hn, hlex, hfirst⟩
      exact ⟨hn, (validate_eq_error_of_parse hn hlex).mpr ⟨before, c, after, hfirst⟩⟩

/-- Of two conditions at fault the left one is told, with the key of its field. -/
example : persons.parse "(AGE contains 1 or age > 3) and sex = f" =
    .error (.invalidOperator "age" "contains" FieldType.number.operators) := by cbv

end Registry
end FieldFilter
