import FieldFilter.Filter.Expression

/-!
# FieldFilter.Proofs.Expression.Grammar — the grammar of expressions over tokens

`Derives` is the grammar, with the members that each phrase stands for: a conjunction is a chain of atoms, a
disjunction is a chain of conjunctions, and an atom is a condition or a disjunction in parentheses.
`Sentence ts n` says that the tokens `ts` are a whole expression with the tree `n`.  A `Reading` accepts
exactly the sentences (`sentence_iff`): what it holds after some tokens is described by `Reading.Holds`, and
how it takes a phrase by `Derives.run`.
-/

namespace FieldFilter

/-- The kinds of phrases. -/
inductive Phrase where
  | atom
  | conjunction
  | disjunction

/-- The tree of a chain: one member is itself, and several are one flat group in their order. -/
inductive Chained (c : Combinator) : List Node → Node → Prop
  | one (n : Node) : Chained c [n] n
  | several {ns : List Node} : 2 ≤ ns.length → Chained c ns (.group c.word ns)

/-- The tokens are a phrase of some kind, with these members. -/
inductive Derives : Phrase → List Token → List Node → Prop
  | condition (field operator value : LooseText) :
    Derives .atom [.field field, .operator operator, .value value] [.condition ⟨field, operator, value⟩]
  | parentheses {ts : List Token} {ns : List Node} {n : Node} :
    Derives .disjunction ts ns → Chained .or ns n → Derives .atom (.opening :: ts ++ [.closing]) [n]
  | atom {ts : List Token} {ns : List Node} : Derives .atom ts ns → Derives .conjunction ts ns
  | and {ts us : List Token} {ns ms : List Node} :
    Derives .conjunction ts ns → Derives .atom us ms → Derives .conjunction (ts ++ .and :: us) (ns ++ ms)
  | conjunction {ts : List Token} {ns : List Node} {n : Node} :
    Derives .conjunction ts ns → Chained .and ns n → Derives .disjunction ts [n]
  | or {ts us : List Token} {ns ms : List Node} {n : Node} :
    Derives .disjunction ts ns → Derives .conjunction us ms → Chained .and ms n →
    Derives .disjunction (ts ++ .or :: us) (ns ++ [n])

/-- The tokens are a whole expression, and this is its tree. -/
def Sentence (ts : List Token) (n : Node) : Prop := ∃ ns, Derives .disjunction ts ns ∧ Chained .or ns n

variable {c : Combinator} {ns : List Node} {n : Node} {ts us : List Token} {t : Token}

theorem chained_iff (h : ns ≠ []) : Chained c ns n ↔ n = c.join ns := by
  constructor
  · intro hc
    cases hc with
    | one n => rfl
    | several hlen =>
      match ns, hlen with
      | _ :: _ :: _, _ => rfl
  · rintro rfl
    match ns, h with
    | [n], _ => exact .one n
    | _ :: _ :: _, _ => exact .several (by simp)

theorem Derives.ne_nil {p : Phrase} (h : Derives p ts ns) : ns ≠ [] := by
  induction h with
  | condition | parentheses | conjunction => simp
  | atom _ ih => exact ih
  | and _ _ ih _ => simp [ih]
  | or => simp

section

variable {P : Node → Prop}
  (hgroup : ∀ (c : Combinator) ns, 2 ≤ ns.length → (∀ n ∈ ns, P n) → P (.group c.word ns))
include hgroup

theorem Chained.all (h : Chained c ns n) (hns : ∀ n ∈ ns, P n) : P n := by
  cases h with
  | one n => exact hns n (by simp)
  | several hlen => exact hgroup _ _ hlen hns

variable (hcond : ∀ c, P (.condition c))
include hcond

/-- What holds of every condition, and of every group of several members of which it holds, holds of the
members of every phrase. -/
theorem Derives.all {p : Phrase} (h : Derives p ts ns) : ∀ n ∈ ns, P n := by
  induction h with
  | condition =>
    intro n hn
    rw [List.mem_singleton.mp hn]
    exact hcond _
  | parentheses _ hn ih | conjunction _ hn ih =>
    intro m hm
    rw [List.mem_singleton.mp hm]
    exact hn.all hgroup ih
  | atom _ ih => exact ih
  | and _ _ ih ih' =>
    intro n hn
    rcases List.mem_append.mp hn with hn | hn
    · exact ih n hn
    · exact ih' n hn
  | or _ _ hn ih ih' =>
    intro m hm
    rcases List.mem_append.mp hm with hm | hm
    · exact ih m hm
    · rw [List.mem_singleton.mp hm]
      exact hn.all hgroup ih'

/-- It holds of the tree of every sentence. -/
theorem Sentence.all (h : Sentence ts n) : P n := by
  obtain ⟨ns, hd, hn⟩ := h
  exact hn.all hgroup (hd.all hgroup hcond)

end

theorem Sentence.ne_everything (h : Sentence ts n) : n ≠ .everything :=
  h.all (P := (· ≠ .everything)) (by simp) (by simp)

namespace Reading

/-- Takes some tokens, if each of them can stand where it is. -/
def run (r : Reading) (ts : List Token) : Option Reading := ts.foldlM step r

variable {r r' : Reading}

@[simp] theorem run_nil : r.run [] = some r := rfl

theorem run_cons : r.run (t :: ts) = (r.step t).bind fun r => r.run ts := rfl

theorem run_append : r.run (ts ++ us) = (r.run ts).bind fun r => r.run us := List.foldlM_append

theorem run_concat : r.run (ts ++ [t]) = (r.run ts).bind fun r => r.step t := by
  rw [run_append]
  congr 1
  funext r
  rw [run_cons]
  cases r.step t <;> rfl

/-! ### A reading takes every phrase -/

/-- The finished operands at the end of the `and` chain under way. -/
def supplyAll (r : Reading) (ns : List Node) : Reading :=
  { r with chain := { r.chain with conjuncts := r.chain.conjuncts ++ ns }, pending := .joint }

/-- How a reading that waits for an operand takes a phrase. -/
def Takes (r : Reading) (ts : List Token) (ns : List Node) : Phrase → Prop
  | .atom | .conjunction => r.run ts = some (r.supplyAll ns)
  | .disjunction => r.chain.conjuncts = [] → ∃ chain, r.run ts = some { r with chain, pending := .joint } ∧
      chain.alternatives ++ [Combinator.and.join chain.conjuncts] = r.chain.alternatives ++ ns

end Reading

open Reading

theorem Derives.run {p : Phrase} (h : Derives p ts ns) {r : Reading} (hr : r.pending = .operand) :
    r.Takes ts ns p := by
  induction h generalizing r with
  | condition field operator value =>
    obtain ⟨outer, chain, pending⟩ := r
    cases hr
    rfl
  | @parentheses ts ns n hd hn ih =>
    obtain ⟨outer, chain, pending⟩ := r
    cases hr
    obtain ⟨inner, hrun, hnodes⟩ := ih (r := { outer := chain :: outer }) rfl rfl
    have hnode : inner.node = n := by
      rw [Chain.node, hnodes]
      exact ((chained_iff hd.ne_nil).mp hn).symm
    show Reading.run _ (.opening :: (ts ++ [.closing])) = _
    rw [run_cons]
    show Reading.run { outer := chain :: outer } (ts ++ [.closing]) = _
    rw [run_concat, hrun, ← hnode]
    rfl
  | atom _ ih => exact ih hr
  | @and ts us ns ms _ _ ih ih' =>
    show Reading.run r (ts ++ .and :: us) = _
    have hleft : r.run ts = some (r.supplyAll ns) := ih hr
    have hright : Reading.run { r.supplyAll ns with pending := .operand } us = _ := ih' rfl
    rw [run_append, hleft]
    refine hright.trans ?_
    simp [supplyAll]
  | @conjunction ts ns n hd hn ih =>
    intro hempty
    have htake : r.run ts = some (r.supplyAll ns) := ih hr
    refine ⟨{ r.chain with conjuncts := r.chain.conjuncts ++ ns }, htake, ?_⟩
    rw [hempty, (chained_iff hd.ne_nil).mp hn]
    rfl
  | @or ts us ns ms n _ hd hn ih ih' =>
    intro hempty
    obtain ⟨chain, hleft, hnodes⟩ := ih hr hempty
    -- the `and` chain read so far becomes one more alternative
    let next : Reading := { r with
      chain := { alternatives := chain.alternatives ++ [Combinator.and.join chain.conjuncts] }
      pending := .operand }
    have hright : next.run us = some (next.supplyAll ms) := ih' rfl
    refine ⟨{ next.chain with conjuncts := ms }, ?_, ?_⟩
    · rw [run_append, hleft]
      exact hright
    · show (chain.alternatives ++ [Combinator.and.join chain.conjuncts]) ++ _ = _
      rw [hnodes, (chained_iff hd.ne_nil).mp hn, List.append_assoc]

/-! ### What a reading holds -/

/-- The members of an `or` chain before the `and` chain that comes next. -/
inductive Alternatives : List Token → List Node → Prop
  | none : Alternatives [] []
  | some {ts : List Token} {ns : List Node} :
    Derives .disjunction ts ns → Alternatives (ts ++ [.or]) ns

/-- The members of an `and` chain before the operand that comes next. -/
inductive Conjuncts : List Token → List Node → Prop
  | none : Conjuncts [] []
  | some {ts : List Token} {ns : List Node} :
    Derives .conjunction ts ns → Conjuncts (ts ++ [.and]) ns

namespace Chain

/-- The chain holds these tokens and waits for an operand. -/
def Opens (c : Chain) (ts : List Token) : Prop :=
  ∃ us vs, ts = us ++ vs ∧ Alternatives us c.alternatives ∧ Conjuncts vs c.conjuncts

/-- The chain holds these tokens and could end here. -/
def Stands (c : Chain) (ts : List Token) : Prop :=
  ∃ us vs, ts = us ++ vs ∧ Alternatives us c.alternatives ∧ Derives .conjunction vs c.conjuncts

theorem opens_empty : Chain.Opens {} [] := ⟨[], [], rfl, .none, .none⟩

theorem Opens.supply {c : Chain} (h : c.Opens ts) (hd : Derives .atom us ns) :
    Stands { c with conjuncts := c.conjuncts ++ ns } (ts ++ us) := by
  obtain ⟨vs, ws, rfl, halt, hconj⟩ := h
  refine ⟨vs, ws ++ us, by simp, halt, ?_⟩
  generalize hc : c.conjuncts = ms at hconj
  cases hconj with
  | none => exact .atom hd
  | some hd' => simpa [hc] using Derives.and hd' hd

theorem Stands.disjunction {c : Chain} (h : c.Stands ts) :
    Derives .disjunction ts (c.alternatives ++ [Combinator.and.join c.conjuncts]) := by
  obtain ⟨us, vs, rfl, halt, hd⟩ := h
  have hn := (chained_iff (c := .and) hd.ne_nil).mpr rfl
  generalize c.alternatives = ms at halt
  cases halt with
  | none => exact .conjunction hd hn
  | some hd' => simpa using Derives.or hd' hd hn

theorem Stands.sentence {c : Chain} (h : c.Stands ts) : Sentence ts c.node :=
  ⟨_, h.disjunction, (chained_iff h.disjunction.ne_nil).mpr rfl⟩

end Chain

/-- The chains outside the open parentheses hold these tokens. -/
inductive Outside : List Chain → List Token → Prop
  | none : Outside [] []
  | some {outer : List Chain} {c : Chain} {ts us : List Token} :
    Outside outer ts → c.Opens us → Outside (c :: outer) (ts ++ us ++ [.opening])

/-- The innermost chain, with what is pending, holds these tokens. -/
def Pending.Holds (c : Chain) (ts : List Token) : Pending → Prop
  | .operand => c.Opens ts
  | .operator name => ∃ us, ts = us ++ [.field name] ∧ c.Opens us
  | .value name word => ∃ us, ts = us ++ [.field name, .operator word] ∧ c.Opens us
  | .joint => c.Stands ts

/-- The reading holds these tokens. -/
def Reading.Holds (r : Reading) (ts : List Token) : Prop :=
  ∃ us vs, ts = us ++ vs ∧ Outside r.outer us ∧ r.pending.Holds r.chain vs

theorem holds_start : Reading.Holds {} [] := ⟨[], [], rfl, .none, Chain.opens_empty⟩

/-- What a reading holds grows by the token that it takes. -/
theorem Reading.Holds.step {r r' : Reading} (h : r.Holds ts) (hs : r.step t = some r') :
    r'.Holds (ts ++ [t]) := by
  obtain ⟨outer, chain, pending⟩ := r
  obtain ⟨us, vs, rfl, hout, hin⟩ := h
  unfold Reading.step at hs
  split at hs
  · cases hs
    rename_i hp
    cases hp
    exact ⟨us ++ vs ++ [.opening], [], by simp, .some hout hin, Chain.opens_empty⟩
  · cases hs
    rename_i name hp
    cases hp
    exact ⟨us, vs ++ [.field name], by simp, hout, vs, rfl, hin⟩
  · cases hs
    rename_i name word hp
    cases hp
    obtain ⟨ws, rfl, hopen⟩ := hin
    exact ⟨us, ws ++ [.field name, .operator word], by simp, hout, ws, rfl, hopen⟩
  · cases hs
    rename_i name word text hp
    cases hp
    obtain ⟨ws, rfl, hopen⟩ := hin
    exact ⟨us, ws ++ [.field name, .operator word, .value text], by simp, hout,
      hopen.supply (.condition name word text)⟩
  · cases hs
    rename_i hp
    cases hp
    obtain ⟨as, bs, rfl, halt, hd⟩ := hin
    exact ⟨us, as ++ (bs ++ [.and]), by simp, hout, as, bs ++ [.and], rfl, halt, .some hd⟩
  · cases hs
    rename_i hp
    cases hp
    have hd : Derives .disjunction vs _ := Chain.Stands.disjunction hin
    exact ⟨us, vs ++ [.or], by simp, hout, vs ++ [.or], [], by simp, .some hd, .none⟩
  · rename_i hp
    cases hp
    cases hout with
    | none => cases hs
    | @some outer c ws xs hout hopen =>
      cases hs
      obtain ⟨ms, hd, hn⟩ := Chain.Stands.sentence hin
      refine ⟨ws, xs ++ (.opening :: vs ++ [.closing]), by simp, hout, ?_⟩
      exact hopen.supply (.parentheses hd hn)
  · cases hs

theorem Reading.Holds.run {r r' : Reading} (h : r.Holds ts) (hrun : r.run us = some r') :
    r'.Holds (ts ++ us) := by
  induction us generalizing ts r with
  | nil =>
    cases hrun
    simpa using h
  | cons t us ih =>
    obtain ⟨mid, hstep, hrest⟩ := Option.bind_eq_some_iff.mp hrun
    simpa using ih (h.step hstep) hrest

/-- **A reading accepts exactly the sentences**, each with its tree. -/
theorem sentence_iff : Sentence ts n ↔ ∃ r, Reading.run {} ts = some r ∧ r.finish? = some n := by
  constructor
  · rintro ⟨ns, hd, hn⟩
    obtain ⟨chain, hrun, hnodes⟩ := hd.run (r := {}) rfl rfl
    refine ⟨_, hrun, ?_⟩
    have hnode : chain.node = n := by
      rw [Chain.node, hnodes]
      exact ((chained_iff hd.ne_nil).mp hn).symm
    rw [← hnode]
    rfl
  · rintro ⟨r, hrun, hfin⟩
    obtain ⟨us, vs, hts, hout, hin⟩ := holds_start.run hrun
    obtain ⟨outer, chain, pending⟩ := r
    unfold Reading.finish? at hfin
    split at hfin
    · next houter hp =>
      cases houter
      cases hp
      cases hout
      cases hfin
      have hsame : ts = vs := by simpa using hts
      rw [hsame]
      exact Chain.Stands.sentence hin
    · cases hfin

end FieldFilter
