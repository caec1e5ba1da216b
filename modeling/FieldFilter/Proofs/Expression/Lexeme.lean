import FieldFilter.Filter.Token
import Mathlib.Data.List.Forall2
import Mathlib.Data.List.TakeWhile

/-!
# FieldFilter.Proofs.Expression.Lexeme — how tokens are spelled

`Token.Spells t w rest` says that the marks `w` spell the token `t` where `rest` follows; what follows matters
for words only, which have to end there.  `Token.next?` gives the token of a slot with the longest spelling at
the front of a text: it finds one if there is one (`next?_complete`), and what it finds is a longest one
(`next?_sound`).
-/

namespace FieldFilter

/-- The terminals of the grammar.  The two ways to write a value are allowed at the same places. -/
inductive Terminal where
  | opening
  | closing
  | field
  | operator
  | value
  | and
  | or
  deriving DecidableEq

/-- The places where a terminal may stand. -/
def Terminal.slot : Terminal → Slot
  | opening | field => .operand
  | operator => .operator
  | value => .value
  | closing | and | or => .joint

/-- The number of marks of a terminal that is always spelled with as many. -/
def Terminal.width? : Terminal → Option Nat
  | opening | closing => some 1
  | and => some 3
  | or => some 2
  | _ => none

variable {s rest rest' left w w' raw text text' : List Mark} {m : Mark} {t t' : Token} {slot : Slot}

namespace Token

def terminal : Token → Terminal
  | opening => .opening
  | closing => .closing
  | field _ => .field
  | operator _ => .operator
  | value _ => .value
  | and => .and
  | or => .or

/-- The characters are these letters in any case. -/
def Caseless (letters w : List Char) : Prop :=
  List.Forall₂ (fun letter c => sameLetter letter c = true) letters w

/-- The operators that are no words. -/
def symbols : List (List Char) := [['>', '='], ['<', '='], ['!', '='], ['='], ['>'], ['<']]

/-- What stands between quotes, and the text that is meant by it: a backslash stands before a mark that is
meant as it is. -/
inductive Unescapes : List Mark → List Mark → Prop
  | nil : Unescapes [] []
  | plain {m : Mark} {raw text : List Mark} : m ≠ '"' → m ≠ '\\' → Unescapes raw text →
    Unescapes (m :: raw) (m :: text)
  | escaped {m : Mark} {raw text : List Mark} : m ≠ '\n' → Unescapes raw text →
    Unescapes ('\\' :: m :: raw) (m :: text)

/-- The marks spell the token where these marks follow. -/
inductive Spells : Token → List Mark → List Mark → Prop
  | opening {rest : List Mark} : Spells .opening ['('] rest
  | closing {rest : List Mark} : Spells .closing [')'] rest
  | field {m : Mark} {w rest : List Mark} : m.is isFieldStart = true →
    (∀ x ∈ w, x.is isFieldChar = true) → Spells (.field ⟨m :: w⟩) (m :: w) rest
  | symbol {w : List Char} {rest : List Mark} : w ∈ symbols →
    Spells (.operator (Text.lower (String.ofList w))) (w.map .char) rest
  | contains {w : List Char} {rest : List Mark} :
    Caseless ['c', 'o', 'n', 't', 'a', 'i', 'n', 's'] w → endsWord rest = true →
    Spells (.operator (Text.lower (String.ofList w))) (w.map .char) rest
  | quoted {raw text rest : List Mark} : Unescapes raw text →
    Spells (.value ⟨text⟩) (.char '"' :: raw ++ [.char '"']) rest
  | bare {w rest : List Mark} : w ≠ [] → (∀ x ∈ w, isBare x = true) → Spells (.value ⟨w⟩) w rest
  | and {w : List Char} {rest : List Mark} : Caseless ['a', 'n', 'd'] w → endsWord rest = true →
    Spells .and (w.map .char) rest
  | or {w : List Char} {rest : List Mark} : Caseless ['o', 'r'] w → endsWord rest = true →
    Spells .or (w.map .char) rest

/-! ### Words and quoted values -/

theorem keyword?_eq_some {letters typed : List Char} :
    keyword? letters s = some (typed, left) ↔
      s = typed.map .char ++ left ∧ Caseless letters typed ∧ endsWord left = true := by
  fun_induction keyword? letters s generalizing typed left with
  | case1 rest h =>
    constructor
    · rintro ⟨⟩
      exact ⟨rfl, .nil, h⟩
    · rintro ⟨rfl, hw, -⟩
      cases hw
      rfl
  | case2 rest h =>
    refine iff_of_false (by simp) ?_
    rintro ⟨rfl, hw, hleft⟩
    cases hw
    exact h hleft
  | case3 letter letters c rest h ih =>
    simp only [Option.map_eq_some_iff, Prod.exists, Prod.mk.injEq]
    constructor
    · rintro ⟨typed', left', hk, rfl, rfl⟩
      obtain ⟨rfl, hw, hleft⟩ := ih.mp hk
      exact ⟨rfl, .cons h hw, hleft⟩
    · rintro ⟨hs, hw, hleft⟩
      cases hw with
      | cons hc hw =>
        simp only [List.map_cons, List.cons_append, List.cons.injEq, Mark.char.injEq] at hs
        obtain ⟨rfl, hs⟩ := hs
        exact ⟨_, left, ih.mpr ⟨hs, hw, hleft⟩, rfl, rfl⟩
  | case4 letter letters c rest h =>
    refine iff_of_false (by simp) ?_
    rintro ⟨hs, hw, -⟩
    cases hw with
    | cons hc hw =>
      simp only [List.map_cons, List.cons_append, List.cons.injEq, Mark.char.injEq] at hs
      obtain ⟨rfl, -⟩ := hs
      exact h hc
  | case5 letter letters s hne =>
    refine iff_of_false (by simp) ?_
    rintro ⟨hs, hw, -⟩
    cases hw with
    | cons hc hw => exact hne _ _ hs

theorem quoted?_eq_some :
    quoted? s = some (text, left) ↔ ∃ raw, s = raw ++ .char '"' :: left ∧ Unescapes raw text := by
  fun_induction quoted? s generalizing text left with
  | case1 =>
    refine iff_of_false (by simp) ?_
    rintro ⟨raw, hs, -⟩
    simp at hs
  | case2 rest =>
    constructor
    · rintro ⟨⟩
      exact ⟨[], rfl, .nil⟩
    · rintro ⟨raw, hs, hu⟩
      cases hu with
      | nil =>
        cases hs
        rfl
      | plain hq _ _ => exact absurd (List.cons.inj hs).1.symm hq
      | escaped _ _ => simp at hs
  | case3 rest =>
    refine iff_of_false (by simp) ?_
    rintro ⟨raw, hs, hu⟩
    cases hu with
    | nil => simp at hs
    | plain _ hb _ => exact absurd (List.cons.inj hs).1.symm hb
    | escaped hm _ => exact absurd (List.cons.inj (List.cons.inj hs).2).1.symm hm
  | case4 m rest hm ih =>
    simp only [Option.map_eq_some_iff, Prod.exists, Prod.mk.injEq]
    constructor
    · rintro ⟨text', left', hq, rfl, rfl⟩
      obtain ⟨raw, rfl, hu⟩ := ih.mp hq
      exact ⟨_, rfl, .escaped hm hu⟩
    · rintro ⟨raw, hs, hu⟩
      cases hu with
      | nil => simp at hs
      | plain _ hb _ => exact absurd (List.cons.inj hs).1.symm hb
      | @escaped m' raw text' hm' hu =>
        simp only [List.cons_append, List.cons.injEq, true_and] at hs
        obtain ⟨rfl, hs⟩ := hs
        exact ⟨_, _, ih.mpr ⟨raw, hs, hu⟩, rfl, rfl⟩
  | case5 rest hq hb =>
    refine iff_of_false (by simp) ?_
    rintro ⟨raw, hs, hu⟩
    cases hu with
    | nil => simp at hs
    | plain _ hb' _ => exact absurd (List.cons.inj hs).1.symm hb'
    | escaped hm _ => exact hb _ _ rfl (List.cons.inj hs).2
  | case6 m rest hq hb hm ih =>
    simp only [Option.map_eq_some_iff, Prod.exists, Prod.mk.injEq]
    constructor
    · rintro ⟨text', left', hk, rfl, rfl⟩
      obtain ⟨raw, rfl, hu⟩ := ih.mp hk
      exact ⟨_, rfl, .plain hq hm hu⟩
    · rintro ⟨raw, hs, hu⟩
      cases hu with
      | nil => exact absurd (List.cons.inj hs).1 hq
      | plain hq' hb' hu =>
        simp only [List.cons_append, List.cons.injEq] at hs
        obtain ⟨rfl, hs⟩ := hs
        exact ⟨_, _, ih.mpr ⟨_, hs, hu⟩, rfl, rfl⟩
      | escaped _ _ => exact absurd (List.cons.inj hs).1 hm

/-! ### What a spelling starts with -/

end Token

/-- The marks that a terminal can start with. -/
def Terminal.startsWith : Terminal → Mark → Bool
  | opening, m => m = '('
  | closing, m => m = ')'
  | field, m => m.is Token.isFieldStart
  | operator, m => m.is fun c => ['>', '<', '!', '='].contains c || Token.sameLetter 'c' c
  | value, m => m = '"' || Token.isBare m
  | and, m => m.is (Token.sameLetter 'a')
  | or, m => m.is (Token.sameLetter 'o')

/-- No mark starts both combinators. -/
theorem Token.not_and_or {m : Mark} (ha : m.is (sameLetter 'a') = true) :
    m.is (sameLetter 'o') ≠ true := by
  intro ho
  cases m with
  | half => cases ha
  | char c =>
    have ha : c.toLower = 'a' := by simpa [Mark.is, sameLetter] using ha
    have ho : c.toLower = 'o' := by simpa [Mark.is, sameLetter] using ho
    exact absurd (ha.symm.trans ho) (by decide)

/-- No two terminals that are allowed at one place start alike. -/
theorem Terminal.eq_of_startsWith {k k' : Terminal} {m : Mark} (hk : k.startsWith m = true)
    (hk' : k'.startsWith m = true) (hslot : k.slot = k'.slot) : k = k' := by
  cases k <;> cases k' <;> simp only [Terminal.slot, reduceCtorEq] at hslot <;> try rfl
  all_goals
    simp only [startsWith, decide_eq_true_eq] at hk hk'
    exfalso
  case opening.field => exact absurd (hk ▸ hk') (by decide)
  case field.opening => exact absurd (hk' ▸ hk) (by decide)
  case closing.and | closing.or => exact absurd (hk ▸ hk') (by decide)
  case and.closing | or.closing => exact absurd (hk' ▸ hk) (by decide)
  case and.or => exact Token.not_and_or hk hk'
  case or.and => exact Token.not_and_or hk' hk

namespace Token

theorem Spells.start (h : Spells t w rest) : ∃ m v, w = m :: v ∧ t.terminal.startsWith m = true := by
  cases h with
  | opening => exact ⟨_, _, rfl, rfl⟩
  | closing => exact ⟨_, _, rfl, rfl⟩
  | field hm _ => exact ⟨_, _, rfl, hm⟩
  | symbol hw =>
    simp only [symbols, List.mem_cons, List.not_mem_nil, or_false] at hw
    rcases hw with rfl | rfl | rfl | rfl | rfl | rfl <;> exact ⟨_, _, rfl, rfl⟩
  | contains hw _ =>
    cases hw with
    | cons hc _ => exact ⟨_, _, rfl, by simp [terminal, Terminal.startsWith, Mark.is, hc]⟩
  | quoted _ => exact ⟨_, _, rfl, rfl⟩
  | @bare w _ hne hw =>
    obtain ⟨m, v, rfl⟩ := List.exists_cons_of_ne_nil hne
    exact ⟨m, v, rfl, by simp [terminal, Terminal.startsWith, hw m]⟩
  | and hw _ =>
    cases hw with
    | cons hc _ => exact ⟨_, _, rfl, hc⟩
  | or hw _ =>
    cases hw with
    | cons hc _ => exact ⟨_, _, rfl, hc⟩

theorem Spells.length_eq {n : Nat} (h : Spells t w rest) (hn : t.terminal.width? = some n) : w.length = n := by
  cases h with
  | opening | closing => exact Option.some.inj hn
  | and hv _ | or hv _ =>
    rw [List.length_map, ← hv.length_eq]
    exact Option.some.inj hn
  | field | symbol | contains | quoted | bare => cases hn

/-- No spelling starts with a separator. -/
theorem Spells.not_separator (h : Spells t (m :: w) rest) : m.is isSeparator = false := by
  obtain ⟨_, _, ⟨⟩, hm⟩ := h.start
  cases m with
  | half => rfl
  | char c =>
    by_contra hc
    have hc : isSeparator c = true := by simpa [Mark.is] using hc
    simp only [isSeparator, Bool.or_eq_true, beq_iff_eq] at hc
    generalize t.terminal = k at hm
    rcases hc with (((rfl | rfl) | rfl) | rfl) | rfl <;> cases k <;> exact absurd hm (by decide)

/-- Two tokens that are allowed at one place and are spelled at the front of one text have one terminal. -/
theorem Spells.terminal_eq (h : Spells t w rest) (h' : Spells t' w' rest') (hw : w ++ rest = w' ++ rest')
    (hslot : t.terminal.slot = t'.terminal.slot) : t.terminal = t'.terminal := by
  obtain ⟨m, v, rfl, hm⟩ := h.start
  obtain ⟨m', v', rfl, hm'⟩ := h'.start
  obtain ⟨rfl, -⟩ := List.cons.inj hw
  exact Terminal.eq_of_startsWith hm hm' hslot

theorem Unescapes.unique (h : Unescapes raw text) (h' : Unescapes raw text') : text = text' := by
  have hq : quoted? (raw ++ [.char '"']) = some (text, []) := quoted?_eq_some.mpr ⟨raw, rfl, h⟩
  have hq' : quoted? (raw ++ [.char '"']) = some (text', []) := quoted?_eq_some.mpr ⟨raw, rfl, h'⟩
  exact congrArg Prod.fst (Option.some.inj (hq.symm.trans hq'))

/-- What is spelled in one way, with one terminal, is one token. -/
theorem Spells.unique (h : Spells t w rest) (h' : Spells t' w' rest') (hw : w = w')
    (hk : t.terminal = t'.terminal) : t = t' := by
  have hmap : Function.Injective (List.map Mark.char) := List.map_injective_iff.mpr fun _ _ => Mark.char.inj
  cases h <;> cases h' <;> simp only [terminal, reduceCtorEq] at hk
  case opening.opening | closing.closing | and.and | or.or => rfl
  case field.field => rw [hw]
  case symbol.symbol | symbol.contains | contains.symbol | contains.contains => rw [hmap hw]
  case bare.bare => rw [hw]
  case quoted.quoted raw text hu raw' text' hu' =>
    have hraw : raw = raw' := by simpa using hw
    rw [hu.unique (hraw ▸ hu')]
  case quoted.bare hbare =>
    exact absurd (hbare (.char '"') (by simp [← hw])) (by decide)
  case bare.quoted hbare _ _ _ =>
    exact absurd (hbare (.char '"') (by simp [hw])) (by decide)

/-! ### The longest spelling -/

/-- The token has the longest spelling in the slot at the front of the text. -/
structure Longest (slot : Slot) (t : Token) (w rest : List Mark) : Prop where
  spells : Spells t w rest
  slot_eq : t.terminal.slot = slot
  longest : ∀ {t' : Token} {w' rest' : List Mark}, Spells t' w' rest' → t'.terminal.slot = slot →
    w ++ rest = w' ++ rest' → w'.length ≤ w.length

/-- Only spellings of one terminal compete. -/
theorem Spells.toLongest (h : Spells t w rest)
    (hmax : ∀ {t' : Token} {w' rest' : List Mark}, Spells t' w' rest' → t'.terminal = t.terminal →
      w ++ rest = w' ++ rest' → w'.length ≤ w.length) : Longest t.terminal.slot t w rest :=
  ⟨h, rfl, fun h' hslot hw => hmax h' (h'.terminal_eq h hw.symm hslot) hw⟩

/-- Where a slot has a longest spelling, it has one. -/
theorem Longest.unique (h : Longest slot t w rest) (h' : Longest slot t' w' rest')
    (hw : w ++ rest = w' ++ rest') : t = t' ∧ w = w' ∧ rest = rest' := by
  have hlen : w.length = w'.length :=
    Nat.le_antisymm (h'.longest h.spells h.slot_eq hw.symm) (h.longest h'.spells h'.slot_eq hw)
  obtain ⟨rfl, rfl⟩ := List.append_inj hw hlen
  refine ⟨h.spells.unique h'.spells rfl ?_, rfl, rfl⟩
  exact h.spells.terminal_eq h'.spells rfl (h.slot_eq.trans h'.slot_eq.symm)

theorem length_le_takeWhile {p : Mark → Bool} (hw : ∀ x ∈ w, p x = true) (hs : s = w ++ rest) :
    w.length ≤ (s.takeWhile p).length := by
  rw [hs, List.takeWhile_append_of_pos hw, List.length_append]
  exact Nat.le_add_right _ _

/-- Spellings that are all equally long are longest. -/
theorem Spells.longest_of_width {n : Nat} (h : Spells t w rest) (hn : t.terminal.width? = some n) :
    Longest t.terminal.slot t w rest :=
  h.toLongest fun h' hk _ => Nat.le_of_eq ((h'.length_eq (hk ▸ hn)).trans (h.length_eq hn).symm)

theorem longest_field (hm : m.is isFieldStart = true) :
    Longest .operand (.field ⟨m :: s.takeWhile (Mark.is isFieldChar)⟩) (m :: s.takeWhile (Mark.is isFieldChar))
      (s.dropWhile (Mark.is isFieldChar)) := by
  refine (Spells.field hm fun x hx => List.mem_takeWhile_imp hx).toLongest fun h' hk hw => ?_
  cases h' <;> simp only [terminal, reduceCtorEq] at hk
  case field hall =>
    rw [List.cons_append, List.takeWhile_append_dropWhile] at hw
    exact Nat.succ_le_succ (length_le_takeWhile hall (List.cons.inj hw).2)

theorem longest_bare (hm : isBare m = true) :
    Longest .value (.value ⟨m :: s.takeWhile isBare⟩) (m :: s.takeWhile isBare) (s.dropWhile isBare) := by
  have hall : ∀ x ∈ m :: s.takeWhile isBare, isBare x = true := by
    intro x hx
    rcases List.mem_cons.mp hx with rfl | hx
    · exact hm
    · exact List.mem_takeWhile_imp hx
  refine (Spells.bare (List.cons_ne_nil _ _) hall).toLongest fun h' hk hw => ?_
  rw [List.cons_append, List.takeWhile_append_dropWhile] at hw
  cases h' <;> simp only [terminal, reduceCtorEq] at hk
  case quoted =>
    obtain ⟨rfl, -⟩ := List.cons.inj hw
    exact absurd hm (by decide)
  case bare hall' =>
    simpa [List.takeWhile_cons, hm] using length_le_takeWhile hall' hw

theorem longest_quoted (hu : Unescapes raw text) :
    Longest .value (.value ⟨text⟩) (.char '"' :: raw ++ [.char '"']) rest := by
  refine (Spells.quoted hu).toLongest fun h' hk hw => ?_
  cases h' <;> simp only [terminal, reduceCtorEq] at hk
  case quoted raw' text' hu' =>
    simp only [List.cons_append, List.append_assoc, List.nil_append, List.cons.injEq, true_and] at hw
    have hq : quoted? (raw ++ .char '"' :: rest) = some (text, rest) := quoted?_eq_some.mpr ⟨raw, rfl, hu⟩
    have hq' := quoted?_eq_some.mpr ⟨raw', hw, hu'⟩
    obtain ⟨-, rfl⟩ := Prod.mk.inj (Option.some.inj (hq.symm.trans hq'))
    rw [List.append_cancel_right hw]
  case bare hne hall =>
    obtain ⟨x, v, rfl⟩ := List.exists_cons_of_ne_nil hne
    obtain ⟨rfl, -⟩ := List.cons.inj hw
    exact absurd (hall _ List.mem_cons_self) (by decide)

/-! ### Operators -/

/-- A letter starts no symbol. -/
theorem operator?_of_sameLetter {c : Char} (hc : sameLetter 'c' c = true) :
    operator? (.char c :: rest) = keyword? ['c', 'o', 'n', 't', 'a', 'i', 'n', 's'] (.char c :: rest) := by
  have hc : c.toLower = 'c' := by simpa [sameLetter] using hc
  unfold operator?
  split <;> first | rfl | (cases ‹_ :: _ = _›; exact absurd hc (by decide))

theorem operator?_contains {v : List Char} (hv : Caseless ['c', 'o', 'n', 't', 'a', 'i', 'n', 's'] v)
    (hrest : endsWord rest = true) : operator? (v.map .char ++ rest) = some (v, rest) := by
  have hk := keyword?_eq_some.mpr ⟨rfl, hv, hrest⟩
  cases hv with
  | cons hc _ => exact (operator?_of_sameLetter hc).trans hk

/-- Where a symbol stands, an operator no shorter than it is found. -/
theorem operator?_symbol {v : List Char} (hv : v ∈ symbols) (rest : List Mark) :
    ∃ v' left, operator? (v.map .char ++ rest) = some (v', left) ∧ v.length ≤ v'.length := by
  simp only [symbols, List.mem_cons, List.not_mem_nil, or_false] at hv
  rcases hv with rfl | rfl | rfl | rfl | rfl | rfl
  iterate 4 exact ⟨_, _, rfl, Nat.le_refl _⟩
  -- what follows decides whether the symbol is one of two characters
  all_goals
    simp only [List.map_cons, List.map_nil, List.cons_append, List.nil_append]
    unfold operator?
    split <;> simp_all

theorem operator?_spells {v : List Char} (h : operator? s = some (v, left)) :
    s = v.map .char ++ left ∧ Spells (.operator (Text.lower (String.ofList v))) (v.map .char) left := by
  unfold operator? at h
  split at h
  case h_7 =>
    obtain ⟨hs, hv, hleft⟩ := keyword?_eq_some.mp h
    exact ⟨hs, .contains hv hleft⟩
  all_goals
    cases h
    exact ⟨rfl, .symbol (by decide)⟩

theorem longest_operator {v : List Char} (h : operator? s = some (v, left)) :
    Longest .operator (.operator (Text.lower (String.ofList v))) (v.map .char) left := by
  obtain ⟨rfl, hv⟩ := operator?_spells h
  refine hv.toLongest fun h' hk hw => ?_
  rw [hw] at h
  cases h' <;> simp only [terminal, reduceCtorEq] at hk
  case symbol v' hv' =>
    obtain ⟨_, _, hs, hlen⟩ := operator?_symbol hv' _
    obtain ⟨rfl, -⟩ := Prod.mk.inj (Option.some.inj (h.symm.trans hs))
    simpa using hlen
  case contains v' hv' hrest =>
    obtain ⟨rfl, -⟩ := Prod.mk.inj (Option.some.inj (h.symm.trans (operator?_contains hv' hrest)))
    exact Nat.le_refl _

/-! ### The token at the front of a text -/

/-- **What is found is a longest spelling.** -/
theorem next?_sound (h : next? slot s = some (t, left)) : ∃ w, s = w ++ left ∧ Longest slot t w left := by
  cases s with
  | nil => cases slot <;> cases h
  | cons m s =>
    cases slot with
    | operand =>
      simp only [next?] at h
      split at h
      · next hm =>
        cases h
        exact ⟨_, by rw [hm]; rfl, Spells.opening.longest_of_width rfl⟩
      · split at h
        · next hm =>
          cases h
          exact ⟨_, by simp [List.takeWhile_append_dropWhile], longest_field hm⟩
        · cases h
    | operator =>
      simp only [next?] at h
      obtain ⟨⟨v, left⟩, hv, ⟨⟩⟩ := Option.map_eq_some_iff.mp h
      exact ⟨_, (operator?_spells hv).1, longest_operator hv⟩
    | value =>
      simp only [next?] at h
      split at h
      · next hm =>
        obtain ⟨⟨text, left⟩, hq, ⟨⟩⟩ := Option.map_eq_some_iff.mp h
        obtain ⟨raw, rfl, hu⟩ := quoted?_eq_some.mp hq
        exact ⟨_, by simp [hm], longest_quoted hu⟩
      · split at h
        · next hm =>
          cases h
          exact ⟨_, by simp [List.takeWhile_append_dropWhile], longest_bare hm⟩
        · cases h
    | joint =>
      simp only [next?] at h
      split at h
      · next hm =>
        cases h
        exact ⟨_, by rw [hm]; rfl, Spells.closing.longest_of_width rfl⟩
      · split at h
        · next hk =>
          cases h
          obtain ⟨hs, hv, hleft⟩ := keyword?_eq_some.mp hk
          exact ⟨_, hs, (Spells.and hv hleft).longest_of_width rfl⟩
        · obtain ⟨⟨v, left⟩, hk, ⟨⟩⟩ := Option.map_eq_some_iff.mp h
          obtain ⟨hs, hv, hleft⟩ := keyword?_eq_some.mp hk
          exact ⟨_, hs, (Spells.or hv hleft).longest_of_width rfl⟩

theorem next?_operator {v : List Char} (h : operator? s = some (v, left)) :
    next? .operator s = some (.operator (Text.lower (String.ofList v)), left) := by
  cases s with
  | nil => cases h
  | cons m s => simp [next?, h]

theorem next?_and {v : List Char} (h : keyword? ['a', 'n', 'd'] s = some (v, left)) :
    next? .joint s = some (.and, left) := by
  obtain ⟨rfl, hv, -⟩ := keyword?_eq_some.mp h
  cases hv with
  | @cons _ c _ v hc _ =>
    have hne : c ≠ ')' := by
      rintro rfl
      exact absurd hc (by decide)
    rw [List.map_cons, List.cons_append] at h ⊢
    simp [next?, h, hne]

/-- **Where a token is spelled, one of its slot is found.** -/
theorem next?_complete (h : Spells t w rest) : ∃ r, next? t.terminal.slot (w ++ rest) = some r := by
  cases h with
  | opening => exact ⟨_, rfl⟩
  | closing => exact ⟨_, rfl⟩
  | @field m w _ hm hw =>
    have hne : m ≠ '(' := by
      rintro rfl
      exact absurd hm (by decide)
    exact ⟨_, by simp only [terminal, Terminal.slot, List.cons_append, next?, if_neg hne, if_pos hm]; rfl⟩
  | symbol hv =>
    obtain ⟨v', left, hs, -⟩ := operator?_symbol hv rest
    exact ⟨_, next?_operator hs⟩
  | contains hv hrest => exact ⟨_, next?_operator (operator?_contains hv hrest)⟩
  | @quoted raw text _ hu =>
    have hq : quoted? (raw ++ [.char '"'] ++ rest) = some (text, rest) :=
      quoted?_eq_some.mpr ⟨raw, by simp, hu⟩
    exact ⟨_, by simp only [terminal, Terminal.slot, List.cons_append, next?, if_true, hq]; rfl⟩
  | bare hne hw =>
    obtain ⟨m, v, rfl⟩ := List.exists_cons_of_ne_nil hne
    have hm : isBare m = true := hw m List.mem_cons_self
    have hq : m ≠ '"' := by
      rintro rfl
      exact absurd hm (by decide)
    exact ⟨_, by simp only [terminal, Terminal.slot, List.cons_append, next?, if_neg hq, if_pos hm]; rfl⟩
  | and hv hrest => exact ⟨_, next?_and (keyword?_eq_some.mpr ⟨rfl, hv, hrest⟩)⟩
  | or hv hrest =>
    have hk := keyword?_eq_some.mpr ⟨rfl, hv, hrest⟩
    cases hv with
    | @cons _ c _ v hc _ =>
      have hne : c ≠ ')' := by
        rintro rfl
        exact absurd hc (by decide)
      have hand : keyword? ['a', 'n', 'd'] (.char c :: (v.map .char ++ rest)) = none := by
        have hc' : sameLetter 'a' c ≠ true := fun ha => not_and_or (m := c) ha hc
        simp [keyword?, hc']
      rw [List.map_cons, List.cons_append] at hk ⊢
      exact ⟨_, by simp [terminal, Terminal.slot, next?, hne, hand, hk]; rfl⟩

/-- The token that is found at the front of a text is the one with the longest spelling in its slot. -/
theorem next?_eq_some : next? slot (w ++ rest) = some (t, rest) ↔ Longest slot t w rest := by
  constructor
  · intro h
    obtain ⟨w', hw, hlong⟩ := next?_sound h
    rwa [List.append_cancel_right hw]
  · intro h
    obtain ⟨⟨t', left⟩, hn⟩ := next?_complete h.spells
    rw [h.slot_eq] at hn
    obtain ⟨w', hw, hlong⟩ := next?_sound hn
    obtain ⟨rfl, -, rfl⟩ := h.unique hlong hw
    exact hn

end Token
end FieldFilter
