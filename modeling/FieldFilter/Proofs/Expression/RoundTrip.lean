import FieldFilter.Proofs.Expression.Written
import FieldFilter.Proofs.Filter.Conditions

/-!
# FieldFilter.Proofs.Expression.RoundTrip — a rendered tree is read back

A tree is regular if its names can be typed as fields, its operators are comparisons, and its groups are joined
by `and` or `or` and are not empty.  The rendering of a regular tree is an expression, and what is read back is
the tree with every group of one member replaced by that member (`Node.collapse`), which passes the same
records.

Each member of a group is rendered as an atom (`Atomic`), so a group is a chain of the grammar, and a group of
several members that stands inside another is one in parentheses.
-/

namespace FieldFilter

/-- The field can be typed and the operator is a comparison. -/
def Condition.Regular (c : Condition) : Prop :=
  isFieldName c.field = true ∧ ∃ op : Operator, c.operator = op.word

namespace Node

/-- The tree can be rendered as an expression. -/
inductive Regular : Node → Prop
  | condition {c : Condition} : c.Regular → Regular (.condition c)
  | group {c : Combinator} {members : List Node} : members ≠ [] → (∀ n ∈ members, Regular n) →
    Regular (.group c.word members)

mutual

/-- The tree with every group of one member replaced by that member. -/
def collapse : Node → Node
  | everything => everything
  | condition c => condition c
  | group _ [n] => n.collapse
  | group word members => group word (collapseAll members)

def collapseAll : List Node → List Node
  | [] => []
  | n :: rest => n.collapse :: collapseAll rest

end

theorem collapseAll_eq_map (ns : List Node) : collapseAll ns = ns.map collapse := by
  induction ns with
  | nil => rfl
  | cons n ns ih => rw [collapseAll, List.map_cons, ih]

/-- How a node is written as the member of a group. -/
def renderMember (n : Node) : LooseText := if n.isCompound then "(" ++ n.render ++ ")" else n.render

theorem renderMembers_eq_map (ns : List Node) : renderMembers ns = ns.map renderMember := by
  induction ns with
  | nil => rfl
  | cons n ns ih => rw [renderMembers, List.map_cons, ih, renderMember]

theorem collapse_several {word : LooseText} {n n' : Node} {ns : List Node} :
    collapse (group word (n :: n' :: ns)) = group word ((n :: n' :: ns).map collapse) := by
  rw [← collapseAll_eq_map]
  rfl

/-! ### What a collapsed tree means -/

variable {r : Record} {ns : List Node} {n : Node} {c : Combinator}

/-- A group of one member passes the records that the member passes. -/
theorem holds_singleton : (group c.word [n]).holds r = n.holds r := by
  cases c with
  | and =>
    show allHold r [n] = n.holds r
    rw [allHold]
    rcases n.holds r with e | b
    · rfl
    · cases b <;> rfl
  | or =>
    show someHolds r [n] = n.holds r
    rw [someHolds]
    rcases n.holds r with e | b
    · rfl
    · cases b <;> rfl

theorem Regular.holds_collapse (h : n.Regular) : n.collapse.holds r = n.holds r := by
  induction h with
  | condition _ => rfl
  | @group c members hne _ ih =>
    match members with
    | [] => exact absurd rfl hne
    | [n] =>
      rw [holds_singleton]
      exact ih n List.mem_cons_self
    | n :: n' :: ns =>
      rw [collapse_several]
      refine holds_group_congr ?_
      rw [List.map_map]
      exact List.map_congr_left ih

theorem holds_rooted (n : Node) : (Expression.rooted n).holds r = n.holds r := by
  cases n with
  | everything => rfl
  | condition c => exact holds_singleton (c := .and)
  | group => rfl

end Node

/-! ### Texts without white space at their ends -/

/-- The text starts and ends with something else than white space. -/
def Solid (s : List Mark) : Prop :=
  (∃ m ∈ s.head?, m.is Text.isBlank = false) ∧ ∃ m ∈ s.getLast?, m.is Text.isBlank = false

variable {s u w : List Mark} {n m : Node} {ts us : List Token}

theorem Solid.append (h : Solid s) (h' : Solid u) : Solid (s ++ w ++ u) := by
  obtain ⟨⟨a, ha, hfirst⟩, -⟩ := h
  obtain ⟨-, z, hz, hlast⟩ := h'
  refine ⟨⟨a, ?_, hfirst⟩, z, ?_, hlast⟩
  · simp only [Option.mem_def] at ha
    simp [List.head?_append, ha]
  · simp only [Option.mem_def] at hz
    simp [List.getLast?_append, hz]

theorem dropWhile_of_head {p : Mark → Bool} (h : ∃ m ∈ s.head?, p m = false) : s.dropWhile p = s := by
  obtain ⟨m, hm, hp⟩ := h
  cases s with
  | nil => rfl
  | cons m' s =>
    obtain rfl : m' = m := by simpa using hm
    exact List.dropWhile_cons_of_neg (by simp [hp])

theorem Solid.strip {t : LooseText} (h : Solid t.marks) : t.strip = t := by
  have hlast : ∃ m ∈ t.marks.reverse.head?, m.is Text.isBlank = false := by
    rw [List.head?_reverse]
    exact h.2
  rw [LooseText.strip, Text.trim, dropWhile_of_head h.1, dropWhile_of_head hlast, List.reverse_reverse]

/-- The characters of field names lie between the white space of ASCII and all other white space. -/
theorem not_blank_of_fieldChar {c : Char} (h : Token.isFieldChar c = true) : Text.isBlank c = false := by
  have hrange : 45 ≤ c.toNat ∧ c.toNat ≤ 122 := by
    simp only [Token.isFieldChar, Bool.or_eq_true, beq_iff_eq] at h
    rcases h with ((halnum | rfl) | rfl) | rfl
    · rcases Bool.or_eq_true_iff.mp halnum with hletter | hdigit
      · rcases Bool.or_eq_true_iff.mp hletter with hupper | hlower
        · have hbounds : 65 ≤ c.toNat ∧ c.toNat ≤ 90 := of_decide_eq_true hupper
          omega
        · obtain ⟨hlow, hhigh⟩ := Bool.and_eq_true_iff.mp hlower
          have hlow : 97 ≤ c.toNat := of_decide_eq_true hlow
          exact ⟨by omega, of_decide_eq_true hhigh⟩
      · obtain ⟨hlow, hhigh⟩ := Bool.and_eq_true_iff.mp hdigit
        have hlow : 48 ≤ c.toNat := of_decide_eq_true hlow
        have hhigh : c.toNat ≤ 57 := of_decide_eq_true hhigh
        omega
    all_goals decide
  by_contra hblank
  rw [Bool.not_eq_false] at hblank
  obtain ⟨range, hmem, hlow, hhigh⟩ := Text.within_iff.mp hblank
  simp only [Text.blankRanges, List.mem_cons, List.not_mem_nil, or_false] at hmem
  rcases hmem with rfl | rfl | rfl | rfl | rfl | rfl | rfl | rfl | rfl | rfl <;> simp only at hlow hhigh <;> omega

theorem fieldChar_of_fieldStart {c : Char} (h : Token.isFieldStart c = true) : Token.isFieldChar c = true := by
  simp only [Token.isFieldStart, Bool.or_eq_true] at h
  rcases h with h | h
  · simp [Token.isFieldChar, Char.isAlphanum, h]
  · simp [Token.isFieldChar, h]

theorem value_ends (v : LooseText) : ∃ m ∈ (Render.value v).marks.getLast?, m.is Text.isBlank = false := by
  rw [Render.value]
  split
  · next hbare =>
    obtain ⟨hne, hall⟩ := isBare_of_render hbare
    refine ⟨v.marks.getLast hne, List.getLast?_eq_some_getLast hne, ?_⟩
    have hlast := hall _ (List.getLast_mem hne)
    cases hm : v.marks.getLast hne with
    | half => rfl
    | char c =>
      rw [hm] at hlast
      simp only [Token.isBare, Mark.is, Token.endsBare, Bool.not_eq_true', Bool.or_eq_false_iff] at hlast
      exact hlast.1.1.1
  · exact ⟨.char '"', by simp [List.getLast?_cons], by decide⟩

/-- What goes from a field name to a value has no white space at its ends. -/
theorem solid_of_ends {name : LooseText} (h : isFieldName name = true) (v : LooseText) :
    Solid (name.marks ++ w ++ (Render.value v).marks) := by
  obtain ⟨m, x, hname, hm, -⟩ := isFieldName_iff.mp h
  obtain ⟨z, hz, hlast⟩ := value_ends v
  constructor
  · refine ⟨m, by simp [hname], ?_⟩
    cases m with
    | half => rfl
    | char c => exact not_blank_of_fieldChar (fieldChar_of_fieldStart hm)
  · refine ⟨z, ?_, hlast⟩
    simp only [Option.mem_def] at hz
    simp [List.getLast?_append, hz]

theorem Condition.Regular.solid {c : Condition} (h : c.Regular) : Solid c.render.marks := by
  have hends := solid_of_ends (w := [.char ' '] ++ c.operator.marks ++ [.char ' ']) h.1 c.value
  simpa [Condition.render] using hends

/-! ### Members and groups -/

/-- The text is an atom with this tree. -/
structure Atomic (s : List Mark) (n : Node) : Prop where
  solid : Solid s
  derives : ∃ ts, Written .operand s ts .joint ∧ Derives .atom ts [n]

/-- The text is an expression with this tree. -/
structure Whole (s : List Mark) (n : Node) : Prop where
  solid : Solid s
  sentence : ∃ ts, Written .operand s ts .joint ∧ Sentence ts n

theorem Atomic.whole (h : Atomic s n) : Whole s n := by
  obtain ⟨ts, hts, hd⟩ := h.derives
  exact ⟨h.solid, ts, hts, [n], .conjunction (.atom hd) (.one n), .one n⟩

theorem Whole.parentheses (h : Whole s n) : Atomic (.char '(' :: s ++ [.char ')']) n := by
  obtain ⟨ts, hts, ns, hd, hn⟩ := h.sentence
  have hsolid : Solid (.char '(' :: s ++ [.char ')']) :=
    ⟨⟨.char '(', rfl, by decide⟩, .char ')', by simp [List.getLast?_cons], by decide⟩
  exact ⟨hsolid, _, hts.parentheses, .parentheses hd hn⟩

/-- The phrase that is a chain with this combinator. -/
def Combinator.phrase : Combinator → Phrase
  | and => .conjunction
  | or => .disjunction

variable {c : Combinator} {ns ms : List Node}

theorem Derives.single (h : Derives .atom ts [n]) : Derives c.phrase ts [n] := by
  cases c with
  | and => exact .atom h
  | or => exact .conjunction (.atom h) (.one n)

/-- An atom goes before a chain of conjuncts. -/
theorem Derives.and_cons (h : Derives .atom ts [n]) {p : Phrase} (h' : Derives p us ns)
    (hp : p = .conjunction) : Derives .conjunction (ts ++ .and :: us) (n :: ns) := by
  induction h' with
  | atom hd => exact .and (.atom h) hd
  | and _ hd ih => simpa using Derives.and (ih rfl) hd
  | condition | parentheses | conjunction | or => cases hp

/-- An atom goes before a chain of alternatives. -/
theorem Derives.or_cons (h : Derives .atom ts [n]) {p : Phrase} (h' : Derives p us ns)
    (hp : p = .disjunction) : Derives .disjunction (ts ++ .or :: us) (n :: ns) := by
  induction h' with
  | conjunction hd hn => exact .or (.conjunction (.atom h) (.one n)) hd hn
  | or _ hd hn ih => simpa using Derives.or (ih rfl) hd hn
  | condition | parentheses | atom | and => cases hp

theorem Derives.cons (h : Derives .atom ts [n]) (h' : Derives c.phrase us ns) :
    Derives c.phrase (ts ++ c.token :: us) (n :: ns) := by
  cases c with
  | and => exact h.and_cons h' rfl
  | or => exact h.or_cons h' rfl

theorem Derives.sentence (h : Derives c.phrase ts ns) (hlen : 2 ≤ ns.length) :
    Sentence ts (.group c.word ns) := by
  cases c with
  | and => exact ⟨_, .conjunction h (.several hlen), .one _⟩
  | or => exact ⟨ns, h, .several hlen⟩

/-- What stands between the members of a group. -/
def Combinator.between (c : Combinator) : LooseText := " " ++ (c.word : LooseText) ++ " "

/-- Atoms with a combinator between them are a chain. -/
theorem chain_of_atoms {texts : List LooseText} (h : List.Forall₂ (fun t n => Atomic t.marks n) texts ns)
    (hne : texts ≠ []) :
    Solid (LooseText.intercalate c.between texts).marks ∧
      ∃ ts, Written .operand (LooseText.intercalate c.between texts).marks ts .joint ∧
        Derives c.phrase ts ns := by
  induction h with
  | nil => exact absurd rfl hne
  | @cons t n texts ns ht hrest ih =>
    obtain ⟨ts, hts, hd⟩ := ht.derives
    cases hrest with
    | nil =>
      simp only [LooseText.intercalate, List.map_cons, List.map_nil, List.intercalate_singleton]
      exact ⟨ht.solid, ts, hts, hd.single⟩
    | @cons t' n' texts ns ht' hrest =>
      obtain ⟨hsolid, us, hus, hd'⟩ := ih (by simp)
      have hsplit : (LooseText.intercalate c.between (t :: t' :: texts)).marks =
          t.marks ++ c.between.marks ++ (LooseText.intercalate c.between (t' :: texts)).marks := by
        simp [LooseText.intercalate, List.intercalate_cons_cons]
      rw [hsplit]
      refine ⟨ht.solid.append hsolid, ts ++ c.token :: us, ?_, hd.cons hd'⟩
      have hbetween := (written_combinator c).space.append hus.space (.inl rfl)
      have hall := hts.append hbetween (.inl rfl)
      simpa [Combinator.between] using hall

namespace Node

theorem render_group (c : Combinator) (ns : List Node) :
    (group c.word ns).render = LooseText.intercalate c.between (ns.map renderMember) := by
  rw [render, renderMembers_eq_map, Combinator.between]

theorem renderMember_of_not_compound (h : n.isCompound = false) : n.renderMember = n.render := by
  rw [renderMember, if_neg (by simp [h])]

/-- **How a regular tree is rendered**: alone it is an expression, and as a member it is an atom. -/
theorem Regular.rendered (h : n.Regular) :
    Whole n.render.marks n.collapse ∧ Atomic n.renderMember.marks n.collapse := by
  induction h with
  | @condition c hc =>
    obtain ⟨hfield, op, hop⟩ := hc
    have hatom : Atomic c.render.marks (.condition c) :=
      ⟨Condition.Regular.solid ⟨hfield, op, hop⟩, _, written_condition hfield hop, .condition _ _ _⟩
    exact ⟨hatom.whole, hatom⟩
  | @group c members hne _ ih =>
    match members with
    | [] => exact absurd rfl hne
    | [n] =>
      have hatom : Atomic (Node.group c.word [n]).render.marks n.collapse := by
        rw [render_group]
        simpa [LooseText.intercalate] using (ih n List.mem_cons_self).2
      rw [renderMember_of_not_compound rfl]
      exact ⟨hatom.whole, hatom⟩
    | n :: n' :: ns =>
      have hmembers : List.Forall₂ (fun t m => Atomic t.marks m) ((n :: n' :: ns).map renderMember)
          ((n :: n' :: ns).map collapse) := by
        rw [List.forall₂_map_left_iff, List.forall₂_map_right_iff, List.forall₂_same]
        exact fun m hm => (ih m hm).2
      obtain ⟨hsolid, ts, hts, hd⟩ := chain_of_atoms (c := c) hmembers (by simp)
      rw [← render_group] at hsolid hts
      have hwhole : Whole (Node.group c.word (n :: n' :: ns)).render.marks
          (Node.group c.word (n :: n' :: ns)).collapse := by
        rw [collapse_several]
        exact ⟨hsolid, ts, hts, hd.sentence (by simp)⟩
      refine ⟨hwhole, ?_⟩
      have hcompound : (Node.group c.word (n :: n' :: ns)).isCompound = true := rfl
      rw [renderMember, if_pos hcompound]
      exact hwhole.parentheses

/-- **A rendered tree is read back**, up to its groups of one member, and what is read back passes the same
records. -/
theorem Regular.parse_render (h : n.Regular) :
    Expression.parse n.render = .ok (Expression.rooted n.collapse) ∧
      ∀ r : Record, (Expression.rooted n.collapse).holds r = n.holds r := by
  refine ⟨?_, fun r => (holds_rooted _).trans h.holds_collapse⟩
  obtain ⟨hsolid, ts, hts, hsent⟩ := h.rendered.1
  have hsplit := hts.split_eq
  have hread : Expression.read n.render.marks = .ok n.collapse :=
    Expression.read_of_scan (congrArg Prod.snd hsplit) (congrArg Prod.fst hsplit) hsent
  have hne : n.render.marks ≠ [] := by
    intro hnil
    obtain ⟨⟨m, hm, -⟩, -⟩ := hsolid
    rw [hnil] at hm
    cases hm
  simp [Expression.parse, hsolid.strip, LooseText.isEmpty, hne, hread]

/-- Groups of one, keywords and operators as values, and values that need quotes and escapes. -/
def tangled : Node :=
  .group "or" [
    .group "and" [.group "or" [.condition ⟨"a", "=", "and"⟩, .condition ⟨"b.c", ">=", "= x"⟩]],
    .group "or" [.condition ⟨"_d-1", "contains", "\"\\\n)"⟩]]

theorem parse_render_tangled :
    tangled.Regular ∧
      Expression.parse tangled.render = .ok (.group "or" [
        .group "or" [.condition ⟨"a", "=", "and"⟩, .condition ⟨"b.c", ">=", "= x"⟩],
        .condition ⟨"_d-1", "contains", "\"\\\n)"⟩]) ∧
      ∀ r : Record, (Expression.rooted tangled.collapse).holds r = tangled.holds r := by
  have hregular : tangled.Regular := by
    refine .group (c := .or) (by simp) ?_
    simp only [List.mem_cons, List.not_mem_nil, or_false, forall_eq_or_imp, forall_eq]
    constructor
    · refine .group (c := .and) (by simp) ?_
      simp only [List.mem_cons, List.not_mem_nil, or_false, forall_eq]
      refine .group (c := .or) (by simp) ?_
      simp only [List.mem_cons, List.not_mem_nil, or_false, forall_eq_or_imp, forall_eq]
      exact ⟨.condition ⟨by decide, .equal, rfl⟩, .condition ⟨by decide, .atLeast, rfl⟩⟩
    · refine .group (c := .or) (by simp) ?_
      simp only [List.mem_cons, List.not_mem_nil, or_false, forall_eq]
      exact .condition ⟨by decide, .contains, rfl⟩
  exact ⟨hregular, Regular.parse_render hregular⟩

end Node

end FieldFilter
