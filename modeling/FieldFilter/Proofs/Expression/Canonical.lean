import FieldFilter.Proofs.Expression.RoundTrip
import FieldFilter.Proofs.Filter.Conditions

/-!
# FieldFilter.Proofs.Expression.Canonical — what is read is rendered and read back as it is

The groups of a tree that is read have at least two members (`Node.Branching`), apart from a root that holds
a lone condition, and its fields are field names.  Such a tree has no group of one member that reading its
rendering would drop, so it comes back unchanged (`parse_render_of_parse`).
-/

namespace FieldFilter

variable {text : LooseText} {s w rest : List Mark} {t : Token} {before ts : List Token} {n g : Node}
  {ns : List Node} {c : Combinator}

/-- Every group of the tree joins at least two members by `and` or `or`. -/
inductive Node.Branching : Node → Prop
  | condition (c : Condition) : Branching (.condition c)
  | group {c : Combinator} {members : List Node} : 2 ≤ members.length → (∀ n ∈ members, Branching n) →
    Branching (.group c.word members)

/-! ### The trees of sentences -/

theorem Sentence.branching (h : Sentence ts n) : n.Branching :=
  h.all (fun _ _ hlen hns => .group hlen hns) .condition

theorem Chained.conditions (h : Chained c ns n) : n.conditions = ns.flatMap Node.conditions := by
  cases h with
  | one n => simp
  | several => simp

/-- The parts of a condition that is derived stand among the tokens. -/
theorem Derives.tokens_of_condition {p : Phrase} (h : Derives p ts ns) :
    ∀ c ∈ ns.flatMap Node.conditions,
      .field c.field ∈ ts ∧ .operator c.operator ∈ ts ∧ .value c.value ∈ ts := by
  induction h with
  | condition field operator value => simp
  | parentheses _ hn ih =>
    intro c hc
    rw [List.flatMap_singleton, hn.conditions] at hc
    simp [ih c hc]
  | atom _ ih => exact ih
  | and _ _ ih ih' =>
    intro c hc
    rw [List.flatMap_append, List.mem_append] at hc
    rcases hc with hc | hc
    · simp [ih c hc]
    · simp [ih' c hc]
  | conjunction _ hn ih =>
    intro c hc
    rw [List.flatMap_singleton, hn.conditions] at hc
    exact ih c hc
  | or _ _ hn ih ih' =>
    intro c hc
    rw [List.flatMap_append, List.mem_append, List.flatMap_singleton, hn.conditions] at hc
    rcases hc with hc | hc
    · simp [ih c hc]
    · simp [ih' c hc]

/-! ### The tokens of a text -/

/-- A text splits into tokens that are spelled in it. -/
theorem Lexes.spelled (h : Lexes before s ts) : ∀ t ∈ ts, ∃ w rest, t.Spells w rest ∧ w <:+: s := by
  induction h with
  | done => rintro t ⟨⟩
  | @token _ _ gap w rest _ _ hs _ _ _ ih =>
    intro t ht
    rcases List.mem_cons.mp ht with rfl | ht
    · exact ⟨w, rest, hs, gap, rest, by simp⟩
    · obtain ⟨w', rest', hs', hstands⟩ := ih t ht
      have hrest : rest <:+ gap ++ (w ++ rest) := by simpa using List.suffix_append (gap ++ w) rest
      exact ⟨w', rest', hs', hstands.trans hrest.isInfix⟩

theorem Token.Spells.isFieldName {name : LooseText} (h : Spells (.field name) w rest) :
    isFieldName name = true := by
  cases h with
  | field hm hw => exact isFieldName_iff.mpr ⟨_, _, rfl, hm, hw⟩

/-- The fields of a tree that is read are field names. -/
theorem Lexes.fieldNames (h : Lexes [] s ts) (hsent : Sentence ts n) :
    ∀ c ∈ n.conditions, isFieldName c.field = true := by
  intro c hc
  obtain ⟨ns, hd, hn⟩ := hsent
  rw [hn.conditions] at hc
  obtain ⟨w, rest, hs, -⟩ := h.spelled _ (hd.tokens_of_condition c hc).1
  exact hs.isFieldName

/-! ### Rendering and reading again -/

namespace Expression

/-- What is read is nothing at all, or the tree of a sentence. -/
theorem parse_cases (h : parse text = .ok n) : text.strip.marks = [] ∧ n = .everything ∨
    ∃ ts m, Lexes [] text.strip.marks ts ∧ Sentence ts m ∧ n = rooted m := by
  by_cases hblank : text.strip.marks = []
  · cases (parse_of_blank hblank).symm.trans h
    exact .inl ⟨hblank, rfl⟩
  · rw [parse_of_not_blank hblank] at h
    cases hread : read text.strip.marks with
    | error stop =>
      rw [hread] at h
      cases h
    | ok m =>
      rw [hread] at h
      cases h
      obtain ⟨ts, hlex, hsent⟩ := read_eq_ok.mp hread
      exact .inr ⟨ts, m, hlex, hsent, rfl⟩

/-- A group is the tree of a sentence, or holds the lone condition that is one. -/
theorem sentence_of_parse (h : parse text = .ok g) (hg : g ≠ .everything) :
    ∃ ts n, Lexes [] text.strip.marks ts ∧ Sentence ts n ∧ g = rooted n :=
  (parse_cases h).resolve_left fun hnothing => hg hnothing.2

@[simp] theorem conditions_rooted (n : Node) : (rooted n).conditions = n.conditions := by
  cases n <;> simp [rooted]

/-- A text that is an expression whatever follows it is read. -/
theorem parse_of_whole (h : Whole text.marks n) : parse text = .ok (rooted n) := by
  obtain ⟨ts, hts, hsent⟩ := h.sentence
  have hsplit := hts.split_eq
  have hread : read text.marks = .ok n :=
    read_of_scan (congrArg Prod.snd hsplit) (congrArg Prod.fst hsplit) hsent
  obtain ⟨⟨m, hm, -⟩, -⟩ := h.solid
  have hne : text.marks ≠ [] := by
    rintro hnil
    rw [hnil] at hm
    cases hm
  simp [parse, h.solid.strip, LooseText.isEmpty, hne, hread]

end Expression

namespace Node

open Expression

theorem Branching.collapse (h : n.Branching) : n.collapse = n := by
  induction h with
  | condition c => rfl
  | @group c members hlen _ ih =>
    match members, hlen with
    | n :: n' :: ns, _ =>
      rw [collapse_several, List.map_congr_left ih, List.map_id']

/-- Only its conditions can keep such a tree from being regular. -/
theorem Branching.regular (h : n.Branching) (hc : ∀ c ∈ n.conditions, c.Regular) : n.Regular := by
  induction h with
  | condition c => exact .condition (hc c List.mem_cons_self)
  | @group c members hlen _ ih =>
    refine .group (List.ne_nil_of_length_pos (by omega)) fun m hm => ih m hm fun c' hc' => hc c' ?_
    rw [conditions_group]
    exact List.mem_flatMap_of_mem hm hc'

theorem collapse_rooted (n : Node) : (rooted n).collapse = n.collapse := by
  cases n <;> rfl

theorem Regular.rooted (h : n.Regular) : (rooted n).Regular := by
  cases h with
  | condition hc => exact .group (c := .and) (by simp) (by simpa using Regular.condition hc)
  | group hne hns => exact .group hne hns

/-- **A regular tree without groups of one member is read back as it is.** -/
theorem Branching.parse_render_rooted (h : n.Branching) (hr : n.Regular) :
    parse (Expression.rooted n).render = .ok (Expression.rooted n) := by
  have hwhole := hr.rooted.rendered.1
  rw [collapse_rooted, h.collapse] at hwhole
  exact parse_of_whole hwhole

end Node

/-- **What is read is rendered and read back as it is**, if its operators are comparisons: its groups branch,
apart from an `and` group at the root that holds a lone condition. -/
theorem Expression.parse_render_of_parse {word : LooseText} {members : List Node}
    (h : parse text = .ok (.group word members))
    (hop : ∀ c ∈ (Node.group word members).conditions, ∃ op : Operator, c.operator = op.word) :
    (∀ n ∈ members, n.Branching) ∧
      (2 ≤ members.length ∨ word = Combinator.and.word ∧ ∃ c, members = [.condition c]) ∧
      parse (Node.group word members).render = .ok (.group word members) := by
  obtain ⟨ts, n, hlex, hsent, hn⟩ := sentence_of_parse h (by simp)
  have hbranch := hsent.branching
  have hregular : n.Regular := by
    refine hbranch.regular fun c hc => ⟨hlex.fieldNames hsent c hc, hop c ?_⟩
    rwa [hn, conditions_rooted]
  have hback := hbranch.parse_render_rooted hregular
  rw [← hn] at hback
  cases hbranch with
  | condition c =>
    cases hn
    refine ⟨?_, .inr ⟨rfl, c, rfl⟩, hback⟩
    simpa using Node.Branching.condition c
  | group hlen hns =>
    cases hn
    exact ⟨hns, .inl hlen, hback⟩

/-- The members of `(a=1 AND (b.c >= "x \\"y" Or d CONTAINS and))`. -/
def Expression.shoutedMembers : List Node := [
  .condition ⟨"a", "=", "1"⟩,
  .group "or" [.condition ⟨"b.c", ">=", "x \"y"⟩, .condition ⟨"d", "contains", "and"⟩]]

theorem Expression.parse_render_of_parse_shouted :
    parse "(a=1 AND (b.c >= \"x \\\"y\" Or d CONTAINS and))" = .ok (.group "and" shoutedMembers) ∧
      (∀ c ∈ (Node.group "and" shoutedMembers).conditions, ∃ op : Operator, c.operator = op.word) ∧
      (∀ n ∈ shoutedMembers, n.Branching) ∧
      parse (Node.group "and" shoutedMembers).render = .ok (.group "and" shoutedMembers) := by
  have hparse : parse "(a=1 AND (b.c >= \"x \\\"y\" Or d CONTAINS and))" = .ok (.group "and" shoutedMembers) := by
    with_unfolding_all rfl
  have hop : ∀ c ∈ (Node.group "and" shoutedMembers).conditions, ∃ op : Operator, c.operator = op.word := by
    simp only [shoutedMembers, Node.conditions_group, List.flatMap_cons, List.flatMap_nil,
      Node.conditions_condition, List.cons_append, List.nil_append, List.append_nil, List.mem_cons,
      List.not_mem_nil, or_false, forall_eq_or_imp, forall_eq]
    exact ⟨⟨.equal, rfl⟩, ⟨.atLeast, rfl⟩, ⟨.contains, rfl⟩⟩
  obtain ⟨hbranch, -, hback⟩ := parse_render_of_parse hparse hop
  exact ⟨hparse, hop, hbranch, hback⟩

end FieldFilter
