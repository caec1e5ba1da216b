import FieldFilter.Proofs.Expression.Grammar
import FieldFilter.Proofs.Expression.Lexeme

/-!
# FieldFilter.Proofs.Expression.Parse — which texts are expressions

A terminal is viable after some tokens if some expression goes on with it.  `Lexes` splits a text into tokens
by maximal munch: separators are left out, and at each place the viable terminal with the longest spelling is
taken.  `Reads s n` says that the tokens of `s` are a sentence with the tree `n`, and `Expression.parse`
answers exactly that (`parse_iff_reads`).

Two facts carry the proof: what a `Reading` waits for is the slot that `Token.scan` looks in, and every
reading can be completed, so that a token which a reading takes is viable.
-/

namespace FieldFilter

/-! ### Viable terminals -/

/-- Some expression starts with these tokens and goes on with this terminal. -/
def Viable (before : List Token) (k : Terminal) : Prop :=
  ∃ t after n, t.terminal = k ∧ Sentence (before ++ t :: after) n

/-- What the next token is for. -/
def Pending.slot : Pending → Slot
  | operand => .operand
  | operator _ => .operator
  | value _ _ => .value
  | joint => .joint

variable {r r' : Reading} {t t' : Token} {before ts : List Token} {k : Terminal} {n : Node}
  {s gap w rest : List Mark}

namespace Reading

/-- A token that is taken stands in the slot that was waited for, and the next slot is the one after it. -/
theorem step_slot (h : r.step t = some r') :
    t.terminal.slot = r.pending.slot ∧ r'.pending.slot = t.slotAfter := by
  obtain ⟨outer, chain, pending⟩ := r
  unfold step at h
  split at h
  case h_7 =>
    rename_i hp
    cases hp
    cases outer with
    | nil => cases h
    | cons c outer =>
      cases h
      exact ⟨rfl, rfl⟩
  case h_8 => cases h
  all_goals
    rename_i hp
    cases hp
    cases h
    exact ⟨rfl, rfl⟩

/-- Whether a token is taken depends on its terminal alone. -/
theorem step_terminal (h : t.terminal = t'.terminal) : (r.step t).isSome = (r.step t').isSome := by
  obtain ⟨outer, chain, pending⟩ := r
  cases t <;> cases t' <;> cases h <;> cases pending <;> rfl

theorem run_of_step {start : Reading} (hr : start.run before = some r) (hstep : r.step t = some r') :
    start.run (before ++ [t]) = some r' := by
  rw [run_concat, hr]
  exact hstep

/-- Closing parentheses end a reading that waits for nothing else. -/
theorem closes (outer : List Chain) (chain : Chain) :
    ∃ r' n, Reading.run { outer, chain, pending := .joint } (List.replicate outer.length .closing) = some r' ∧
      r'.finish? = some n := by
  induction outer generalizing chain with
  | nil => exact ⟨_, chain.node, rfl, rfl⟩
  | cons c outer ih => exact ih { c with conjuncts := c.conjuncts ++ [chain.node] }

/-- **Every reading can be completed.** -/
theorem completes (r : Reading) : ∃ after r' n, r.run after = some r' ∧ r'.finish? = some n := by
  obtain ⟨outer, chain, pending⟩ := r
  cases pending with
  | operand =>
    obtain ⟨r', n, hrun, hfin⟩ := closes outer
      { chain with conjuncts := chain.conjuncts ++ [.condition ⟨"", "", ""⟩] }
    exact ⟨.field "" :: .operator "" :: .value "" :: _, r', n, hrun, hfin⟩
  | operator name =>
    obtain ⟨r', n, hrun, hfin⟩ := closes outer
      { chain with conjuncts := chain.conjuncts ++ [.condition ⟨name, "", ""⟩] }
    exact ⟨.operator "" :: .value "" :: _, r', n, hrun, hfin⟩
  | value name word =>
    obtain ⟨r', n, hrun, hfin⟩ := closes outer
      { chain with conjuncts := chain.conjuncts ++ [.condition ⟨name, word, ""⟩] }
    exact ⟨.value "" :: _, r', n, hrun, hfin⟩
  | joint => exact ⟨_, closes outer chain⟩

end Reading

/-- The viable terminals are those of the tokens that the reading takes. -/
theorem viable_iff (hr : Reading.run {} before = some r) :
    Viable before t.terminal ↔ ∃ r', r.step t = some r' := by
  constructor
  · rintro ⟨t', after, n, hk, hsent⟩
    obtain ⟨r'', hrun, -⟩ := sentence_iff.mp hsent
    rw [Reading.run_append, hr] at hrun
    have hrun : (r.step t').bind (fun r => r.run after) = some r'' := hrun
    obtain ⟨r', hstep, -⟩ := Option.bind_eq_some_iff.mp hrun
    have hsome : (r.step t).isSome = true := by
      rw [← Reading.step_terminal hk, hstep]
      rfl
    exact Option.isSome_iff_exists.mp hsome
  · rintro ⟨r', hstep⟩
    obtain ⟨after, r'', n, hrun, hfin⟩ := r'.completes
    refine ⟨t, after, n, rfl, sentence_iff.mpr ⟨r'', ?_, hfin⟩⟩
    rw [Reading.run_append, hr]
    show (r.step t).bind (fun r => r.run after) = some r''
    rw [hstep]
    exact hrun

/-! ### Splitting a text into tokens -/

/-- These marks separate tokens. -/
def Separators (gap : List Mark) : Prop := ∀ m ∈ gap, m.is Token.isSeparator = true

/-- After the tokens `before` the text splits into these tokens.  Each is the one with the longest spelling
among those whose terminals are viable where it stands, and only separators are left out. -/
inductive Lexes : List Token → List Mark → List Token → Prop
  | done {before : List Token} {gap : List Mark} : Separators gap → Lexes before gap []
  | token {before ts : List Token} {gap w rest : List Mark} {t : Token} :
    Separators gap → Token.Spells t w rest → Viable before t.terminal →
    (∀ {t' w' rest'}, Token.Spells t' w' rest' → Viable before t'.terminal → w ++ rest = w' ++ rest' →
      w'.length ≤ w.length) →
    Lexes (before ++ [t]) rest ts → Lexes before (gap ++ (w ++ rest)) (t :: ts)

namespace Token

theorem scan_eq (slot : Slot) (s : List Mark) :
    scan slot s = if s.dropWhile (Mark.is isSeparator) = [] then ([], none) else
      match next? slot (s.dropWhile (Mark.is isSeparator)) with
      | none => ([], some (s.dropWhile (Mark.is isSeparator)).length)
      | some (t, left) => (((s.dropWhile (Mark.is isSeparator)).length, t) :: (scan t.slotAfter left).1,
          (scan t.slotAfter left).2) := by
  rw [scan]
  split
  · rfl
  · split
    · next hnone => rw [hnone]
    · next hsome => rw [hsome]

theorem scan_gap (hgap : Separators gap) {slot : Slot} : scan slot gap = ([], none) := by
  have hdrop : gap.dropWhile (Mark.is isSeparator) = [] := List.dropWhile_eq_nil_iff.mpr hgap
  rw [scan_eq, if_pos hdrop]

/-- Separators in front of a text change nothing. -/
theorem scan_append (hgap : Separators gap) {slot : Slot} : scan slot (gap ++ s) = scan slot s := by
  rw [scan_eq, scan_eq slot s, List.dropWhile_append_of_pos hgap]

/-- What a scan makes of the text after some separators. -/
theorem scan_token {slot : Slot} (hgap : Separators gap) (h : Longest slot t w rest) :
    scan slot (gap ++ (w ++ rest)) =
      (((w ++ rest).length, t) :: (scan t.slotAfter rest).1, (scan t.slotAfter rest).2) := by
  obtain ⟨m, v, rfl, -⟩ := h.spells.start
  have hdrop : (gap ++ (m :: v ++ rest)).dropWhile (Mark.is isSeparator) = m :: v ++ rest := by
    rw [List.dropWhile_append_of_pos hgap, List.cons_append, List.dropWhile_cons_of_neg]
    simp [h.spells.not_separator]
  rw [scan_eq, hdrop, if_neg (by simp), next?_eq_some.mpr h]

/-- A scan ends, is stuck, or goes on after a longest spelling. -/
theorem scan_cases (slot : Slot) (s : List Mark) :
    Separators s ∨ (∃ left, scan slot s = ([], some left)) ∨
      ∃ gap w rest t, s = gap ++ (w ++ rest) ∧ Separators gap ∧ Longest slot t w rest := by
  have hsplit := List.takeWhile_append_dropWhile (p := Mark.is isSeparator) (l := s)
  by_cases hdrop : s.dropWhile (Mark.is isSeparator) = []
  · exact .inl (List.dropWhile_eq_nil_iff.mp hdrop)
  · right
    cases hnext : next? slot (s.dropWhile (Mark.is isSeparator)) with
    | none =>
      refine .inl ⟨(s.dropWhile (Mark.is isSeparator)).length, ?_⟩
      rw [scan_eq, if_neg hdrop, hnext]
    | some found =>
      obtain ⟨w, hw, hlong⟩ := next?_sound hnext
      refine .inr ⟨s.takeWhile (Mark.is isSeparator), w, found.2, found.1, ?_, ?_, hlong⟩
      · rw [← hw, hsplit]
      · exact fun m hm => List.mem_takeWhile_imp hm

end Token

/-- Two tokens that compete for a place are viable or not together, so a longest spelling among the viable
terminals is one in the slot that is waited for. -/
theorem longest_iff (hr : Reading.run {} before = some r) (hv : Viable before t.terminal) :
    Token.Longest r.pending.slot t w rest ↔ Token.Spells t w rest ∧
      ∀ {t' w' rest'}, Token.Spells t' w' rest' → Viable before t'.terminal → w ++ rest = w' ++ rest' →
        w'.length ≤ w.length := by
  have hslot {t' : Token} (hv' : Viable before t'.terminal) : t'.terminal.slot = r.pending.slot := by
    obtain ⟨_, hstep⟩ := (viable_iff hr).mp hv'
    exact (Reading.step_slot hstep).1
  constructor
  · intro h
    exact ⟨h.spells, fun h' hv' hw => h.longest h' (hslot hv') hw⟩
  · rintro ⟨hs, hmax⟩
    refine ⟨hs, hslot hv, fun h' hslot' hw => hmax h' ?_ hw⟩
    rwa [h'.terminal_eq hs hw.symm (hslot'.trans (hslot hv).symm)]

/-- A text that splits is scanned into these tokens, and a reading takes them. -/
theorem Lexes.scan (h : Lexes before s ts) (hr : Reading.run {} before = some r) :
    (Token.scan r.pending.slot s).2 = none ∧ (Token.scan r.pending.slot s).1.map Prod.snd = ts ∧
      ∃ r', r.run ts = some r' := by
  induction h generalizing r with
  | done hgap =>
    rw [Token.scan_gap hgap]
    exact ⟨rfl, rfl, r, rfl⟩
  | token hgap hs hv hmax _ ih =>
    obtain ⟨r', hstep⟩ := (viable_iff hr).mp hv
    obtain ⟨hstuck, hts, r'', hrun⟩ := ih (Reading.run_of_step hr hstep)
    rw [(Reading.step_slot hstep).2] at hstuck hts
    rw [Token.scan_token hgap ((longest_iff hr hv).mpr ⟨hs, hmax⟩)]
    refine ⟨hstuck, by rw [List.map_cons, hts], r'', ?_⟩
    rw [Reading.run_cons, hstep]
    exact hrun

/-- A text whose tokens a reading takes splits into them. -/
theorem lexes_of_scan (hr : Reading.run {} before = some r) (hstuck : (Token.scan r.pending.slot s).2 = none)
    (hrun : r.run ((Token.scan r.pending.slot s).1.map Prod.snd) = some r') :
    Lexes before s ((Token.scan r.pending.slot s).1.map Prod.snd) := by
  induction hlen : s.length using Nat.strong_induction_on generalizing s before r with
  | _ len ih =>
  rcases Token.scan_cases r.pending.slot s with hsep | ⟨left, hleft⟩ | ⟨gap, w, rest, t, rfl, hgap, hlong⟩
  · rw [Token.scan_gap hsep]
    exact .done hsep
  · rw [hleft] at hstuck
    cases hstuck
  · rw [Token.scan_token hgap hlong] at hstuck hrun ⊢
    rw [List.map_cons, Reading.run_cons] at hrun
    obtain ⟨mid, hstep, hrun⟩ := Option.bind_eq_some_iff.mp hrun
    have hv : Viable before t.terminal := (viable_iff hr).mpr ⟨mid, hstep⟩
    have hmid : Reading.run {} (before ++ [t]) = some mid := Reading.run_of_step hr hstep
    have hshort : rest.length < len := by
      obtain ⟨m, v, rfl, -⟩ := hlong.spells.start
      simp only [List.length_append, List.length_cons] at hlen
      omega
    rw [← (Reading.step_slot hstep).2] at hstuck hrun ⊢
    obtain ⟨hs, hmax⟩ := (longest_iff hr hv).mp hlong
    exact .token hgap hs hv hmax (ih rest.length hshort hmid hstuck hrun rfl)

/-- The splitting of a text is unique. -/
theorem Lexes.unique {us : List Token} (h : Lexes [] s ts) (h' : Lexes [] s us) : ts = us := by
  have hscan := (h.scan (r := {}) rfl).2.1
  exact hscan.symm.trans (h'.scan (r := {}) rfl).2.1

/-! ### Reading a text -/

/-- Taking numbered tokens is taking the tokens. -/
theorem Reading.steps_eq_ok {tokens : List (Nat × Token)} :
    r.steps tokens = .ok r' ↔ r.run (tokens.map Prod.snd) = some r' := by
  induction tokens generalizing r with
  | nil => simp [Reading.steps]
  | cons first tokens ih =>
    obtain ⟨left, t⟩ := first
    rw [Reading.steps, List.map_cons, Reading.run_cons]
    cases r.step t with
    | none => simp
    | some mid => exact ih

theorem Expression.read_of_scan (hstuck : (Token.scan .operand s).2 = none)
    (hts : (Token.scan .operand s).1.map Prod.snd = ts) (hsent : Sentence ts n) :
    Expression.read s = .ok n := by
  obtain ⟨r, hrun, hfin⟩ := sentence_iff.mp hsent
  have hsteps : Reading.steps {} (Token.scan .operand s).1 = .ok r := by
    rw [Reading.steps_eq_ok, hts]
    exact hrun
  simp only [Expression.read, hsteps, hstuck, hfin]

theorem Expression.read_eq_ok : Expression.read s = .ok n ↔ ∃ ts, Lexes [] s ts ∧ Sentence ts n := by
  constructor
  · intro h
    simp only [Expression.read] at h
    cases hsteps : Reading.steps {} (Token.scan .operand s).1 with
    | error left =>
      rw [hsteps] at h
      cases h
    | ok r =>
      rw [hsteps] at h
      have hrun := Reading.steps_eq_ok.mp hsteps
      cases hstuck : (Token.scan .operand s).2 with
      | some left =>
        rw [hstuck] at h
        cases h
      | none =>
        cases hfin : r.finish? with
        | none =>
          simp only [hstuck, hfin] at h
          cases h
        | some m =>
          simp only [hstuck, hfin] at h
          cases h
          exact ⟨_, lexes_of_scan (r := {}) rfl hstuck hrun, sentence_iff.mpr ⟨r, hrun, hfin⟩⟩
  · rintro ⟨ts, hlex, hsent⟩
    obtain ⟨hstuck, hts, -⟩ := hlex.scan (r := {}) rfl
    exact read_of_scan hstuck hts hsent

namespace Expression

theorem parse_of_blank {text : LooseText} (h : text.strip.marks = []) : parse text = .ok .everything := by
  simp [parse, LooseText.isEmpty, h]

theorem parse_of_not_blank {text : LooseText} (h : text.strip.marks ≠ []) :
    parse text = ((read text.strip.marks).mapError (.unreadable text.strip)).map rooted := by
  cases hread : read text.strip.marks <;> simp [parse, LooseText.isEmpty, h, hread, Except.mapError, Except.map]

/-- The text is an expression and this is its filter: the tree of its tokens, which is put into a group if it is
a lone condition. -/
inductive Reads (s : List Mark) : Node → Prop
  | condition {ts : List Token} {c : Condition} : Lexes [] s ts → Sentence ts (.condition c) →
    Reads s (.group Combinator.and.word [.condition c])
  | group {ts : List Token} {word : LooseText} {members : List Node} : Lexes [] s ts →
    Sentence ts (.group word members) → Reads s (.group word members)

theorem reads_iff : Reads s n ↔ ∃ m, read s = .ok m ∧ n = rooted m := by
  constructor
  · rintro (⟨hlex, hsent⟩ | ⟨hlex, hsent⟩)
    · exact ⟨_, read_eq_ok.mpr ⟨_, hlex, hsent⟩, rfl⟩
    · exact ⟨_, read_eq_ok.mpr ⟨_, hlex, hsent⟩, rfl⟩
  · rintro ⟨m, hread, rfl⟩
    obtain ⟨ts, hlex, hsent⟩ := read_eq_ok.mp hread
    cases m with
    | everything => exact absurd rfl hsent.ne_everything
    | condition c => exact .condition hlex hsent
    | group word members => exact .group hlex hsent

/-- **The parser accepts exactly the grammar, with one reading for each text.**  A blank text asks for
nothing, any other text gives the filter that it reads as, in one splitting and as one tree, and where there
is none the text is reported as unreadable. -/
theorem parse_iff_reads (text : LooseText) :
    (parse text = .ok .everything ↔ text.strip.marks = []) ∧
      (text.strip.marks ≠ [] → ∀ n, parse text = .ok n ↔ Reads text.strip.marks n) ∧
      (∀ ts us, Lexes [] text.strip.marks ts → Lexes [] text.strip.marks us → ts = us) ∧
      (∀ n m, Reads text.strip.marks n → Reads text.strip.marks m → n = m) ∧
      ((∃ stop, parse text = .error (.unreadable text.strip stop)) ↔
        text.strip.marks ≠ [] ∧ ∀ n, ¬ Reads text.strip.marks n) := by
  have hunique (n m : Node) (hn : Reads text.strip.marks n) (hm : Reads text.strip.marks m) : n = m := by
    obtain ⟨n', hread, rfl⟩ := reads_iff.mp hn
    obtain ⟨m', hread', rfl⟩ := reads_iff.mp hm
    rw [Except.ok.inj (hread.symm.trans hread')]
  have htokens (ts us : List Token) (h : Lexes [] text.strip.marks ts) (h' : Lexes [] text.strip.marks us) :
      ts = us := h.unique h'
  by_cases hempty : text.strip.marks = []
  · have hparse : parse text = .ok .everything := by simp [parse, LooseText.isEmpty, hempty]
    rw [hparse]
    exact ⟨by simp [hempty], by simp [hempty], htokens, hunique, by simp [hempty]⟩
  · cases hread : read text.strip.marks with
    | ok m =>
      have hok : parse text = .ok (rooted m) := by simp [parse, LooseText.isEmpty, hempty, hread]
      have hreads : Reads text.strip.marks (rooted m) := reads_iff.mpr ⟨m, hread, rfl⟩
      have hne : rooted m ≠ .everything := by
        intro hm
        rw [hm] at hreads
        cases hreads
      rw [hok]
      refine ⟨by simp [hempty, hne], fun _ n => ⟨?_, fun hn => ?_⟩, htokens, hunique, ?_⟩
      · rintro ⟨⟩
        exact hreads
      · rw [hunique _ _ hreads hn]
      · exact iff_of_false (by simp) fun h => h.2 _ hreads
    | error stop =>
      have herr : parse text = .error (.unreadable text.strip stop) := by
        simp [parse, LooseText.isEmpty, hempty, hread]
      have hnone (n : Node) : ¬ Reads text.strip.marks n := by
        intro hn
        obtain ⟨m, hm, -⟩ := reads_iff.mp hn
        rw [hread] at hm
        cases hm
      rw [herr]
      exact ⟨by simp [hempty], fun _ n => by simp [hnone], htokens, hunique,
        by simp [hempty, hnone]⟩

end Expression
end FieldFilter
