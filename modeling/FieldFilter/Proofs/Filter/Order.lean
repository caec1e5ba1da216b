import Mathlib.Data.Prod.Lex
import FieldFilter.Proofs.Filter.Contains
import FieldFilter.Proofs.Filter.Total
import FieldFilter.Proofs.Value.NumberText

/-!
# FieldFilter.Proofs.Filter.Order — the order tests on texts

A text has a place among days if it has the form of an existing date, a place among numbers if it is one, and no
place else (`LooseText.place?`).  The order tests ask how two places on one scale are related
(`Condition.holds_order`), so that they are coherent on all texts (`order_tests_coherent`).
-/

namespace FieldFilter

/-- Places of doubles: regions first, and then units. -/
abbrev Place := ℤ ×ₗ ℤ

/-! ### Doubles -/

namespace Binary64

variable {x y : Binary64} {n : Int}

/-- The place of a double in the order of values, if it is not `nan`. -/
def place? (x : Binary64) : Option Place := x.rank?.map toLex

theorem place?_eq_none_iff : x.place? = none ↔ x = .nan := by
  cases x <;> simp [place?, rank?]

theorem lt_iff : x.lt y = true ↔ ∃ p q, x.place? = some p ∧ y.place? = some q ∧ p < q := by
  simp only [lt, place?]
  cases x.rank? <;> cases y.rank? <;> simp [Prod.Lex.toLex_lt_toLex]

theorem le_iff : x.le y = true ↔ ∃ p q, x.place? = some p ∧ y.place? = some q ∧ p ≤ q := by
  simp only [le, place?]
  cases x.rank? <;> cases y.rank? <;> simp [Prod.Lex.toLex_le_toLex]

theorem place?_of_toInt? (h : x.toInt? = some n) : x.place? = some (toLex (0, n * unitsPerOne)) := by
  cases x with
  | nan => nomatch h
  | infinity negative => nomatch h
  | finite negative units =>
    have hmod : units % unitsPerOne = 0 := by
      by_contra hne
      simp only [toInt?, hne, if_false, reduceCtorEq] at h
    obtain ⟨count, hcount⟩ := Nat.dvd_of_mod_eq_zero hmod
    rw [Nat.mul_comm] at hcount
    rw [hcount, toInt?_finite, Option.some.injEq] at h
    rw [hcount, ← h, place?, rank?, Option.map_some, Int.natCast_mul]
    cases negative
    · rfl
    · simp only [if_true, Int.neg_mul]

end Binary64

/-! ### Order tests -/

/-- The word is a test on the places of two doubles, never true of `nan`. -/
def OrderTest (word : LooseText) (rel : Place → Place → Prop) : Prop :=
  ∃ test : Binary64 → Binary64 → Bool, (∀ a b, compare word a b = Operator.numeric test a b) ∧
    ∀ x y, test x y = true ↔ ∃ p q, x.place? = some p ∧ y.place? = some q ∧ rel p q

/-- The same two places, named the other way round. -/
theorem exists_places_swap {x y : Binary64} {rel : Place → Place → Prop} :
    (∃ p q, x.place? = some p ∧ y.place? = some q ∧ rel p q) ↔
      ∃ p q, y.place? = some p ∧ x.place? = some q ∧ rel q p :=
  ⟨fun ⟨p, q, hp, hq, h⟩ => ⟨q, p, hq, hp, h⟩, fun ⟨p, q, hp, hq, h⟩ => ⟨q, p, hq, hp, h⟩⟩

theorem orderTest_greater : OrderTest ">" (· > ·) :=
  ⟨fun x y => y.lt x, fun _ _ => rfl, fun _ _ => Binary64.lt_iff.trans exists_places_swap⟩

theorem orderTest_atLeast : OrderTest ">=" (· ≥ ·) :=
  ⟨fun x y => y.le x, fun _ _ => rfl, fun _ _ => Binary64.le_iff.trans exists_places_swap⟩

theorem orderTest_less : OrderTest "<" (· < ·) :=
  ⟨Binary64.lt, fun _ _ => rfl, fun _ _ => Binary64.lt_iff⟩

theorem orderTest_atMost : OrderTest "<=" (· ≤ ·) :=
  ⟨Binary64.le, fun _ _ => rfl, fun _ _ => Binary64.le_iff⟩

/-! ### Places of texts -/

/-- The place of an existing date among the days. -/
def Date.place (d : Date) : Place := toLex (0, d.millis * Binary64.unitsPerOne)

/-- Days and numbers are ordered apart from each other. -/
inductive Scale where
  | days
  | numbers
  deriving DecidableEq

namespace LooseText

variable {a b c t : LooseText} {d : Date} {x : Binary64} {p : Place} {rel : Place → Place → Prop}

/-- The place of a text: that of its day if it has the form of a date, and else that of its number. -/
def place? (t : LooseText) : Option (Scale × Place) :=
  match (Value.text t).day? with
  | some x => x.place?.map (Scale.days, ·)
  | none => t.number.place?.map (Scale.numbers, ·)

theorem place?_of_day (h : (Value.text t).day? = some x) : t.place? = x.place?.map (Scale.days, ·) := by
  rw [place?, h]

theorem place?_of_not_day (h : (Value.text t).day? = none) :
    t.place? = t.number.place?.map (Scale.numbers, ·) := by
  rw [place?, h]

theorem Names.place? (h : t.Names d) : t.place? = some (.days, d.place) := by
  obtain ⟨x, hx, hmillis⟩ := h.day?
  rw [place?_of_day hx, Binary64.place?_of_toInt? hmillis]
  rfl

theorem NamesNoDay.place? (h : t.NamesNoDay) : t.place? = none := by
  rw [place?_of_day h.day?]
  rfl

theorem IsNumber.exists_place (h : t.IsNumber) : ∃ p, t.place? = some (.numbers, p) := by
  obtain ⟨p, hp⟩ := Option.ne_none_iff_exists'.mp (mt Binary64.place?_eq_none_iff.mp (number_ne_nan_iff.mpr h))
  exact ⟨p, by rw [place?_of_not_day h.day?, hp]; rfl⟩

theorem place?_of_not_number (hday : (Value.text t).day? = none) (h : ¬ t.IsNumber) : t.place? = none := by
  rw [place?_of_not_day hday, Binary64.place?_eq_none_iff.mpr (not_not.mp (mt number_ne_nan_iff.mp h))]
  rfl

/-- **The place of a text** tells whether it is an existing date, a number, or neither. -/
theorem place?_cases (t : LooseText) : (t.IsDay ∧ ¬ t.IsNumber ∧ ∃ p, t.place? = some (.days, p)) ∨
    (¬ t.IsDay ∧ t.IsNumber ∧ ∃ p, t.place? = some (.numbers, p)) ∨
    (¬ t.IsDay ∧ ¬ t.IsNumber ∧ t.place? = none) := by
  rw [isDay_iff]
  rcases t.day_trichotomy with hnone | ⟨d, hd⟩ | hnoDay
  · have hday : ¬ ∃ d, t.Names d := fun ⟨d, hd⟩ => hd.isDate hnone
    by_cases hnumber : t.IsNumber
    · exact .inr (.inl ⟨hday, hnumber, hnumber.exists_place⟩)
    · exact .inr (.inr ⟨hday, hnumber, place?_of_not_number hnone hnumber⟩)
  · exact .inl ⟨⟨d, hd⟩, fun h => hd.isDate h.day?, d.place, hd.place?⟩
  · refine .inr (.inr ⟨fun ⟨d, hd⟩ => ?_, fun h => hnoDay.isDate h.day?, hnoDay.place?⟩)
    exact nomatch hnoDay.place?.symm.trans hd.place?

/-- The texts have places on one scale, which are so related. -/
def Related (rel : Place → Place → Prop) (a b : LooseText) : Prop :=
  ∃ scale p q, a.place? = some (scale, p) ∧ b.place? = some (scale, q) ∧ rel p q

theorem related_of_days {y : Binary64} (hx : (Value.text a).day? = some x) (hy : (Value.text b).day? = some y) :
    Related rel a b ↔ ∃ p q, x.place? = some p ∧ y.place? = some q ∧ rel p q := by
  rw [Related, place?_of_day hx, place?_of_day hy]
  simp

theorem number_place?_of_day (h : (Value.text t).day? = some x) : t.number.place? = none := by
  rw [Binary64.place?_eq_none_iff]
  by_contra hne
  exact nomatch h.symm.trans (number_ne_nan_iff.mp hne).day?

/-- Texts that are not both dates are related as their numbers are, and a date has none. -/
theorem related_of_notBothDates (h : NotBothDates (.text a) b) :
    Related rel a b ↔ ∃ p q, a.number.place? = some p ∧ b.number.place? = some q ∧ rel p q := by
  cases ha : (Value.text a).day? with
  | none =>
    cases hb : (Value.text b).day? with
    | none =>
      rw [Related, place?_of_not_day ha, place?_of_not_day hb]
      simp
    | some y =>
      -- a date and another text have no scale in common, and only the other one may be a number
      rw [Related, place?_of_not_day ha, place?_of_day hb, number_place?_of_day hb]
      simp
  | some x =>
    have hb : (Value.text b).day? = none := h.resolve_left fun hnone => nomatch ha.symm.trans hnone
    rw [Related, place?_of_day ha, place?_of_not_day hb, number_place?_of_day ha]
    simp

/-! ### Orders on texts -/

theorem related_swap : Related rel a b ↔ Related (fun p q => rel q p) b a :=
  ⟨fun ⟨scale, p, q, hp, hq, h⟩ => ⟨scale, q, p, hq, hp, h⟩, fun ⟨scale, p, q, hp, hq, h⟩ => ⟨scale, q, p, hq, hp, h⟩⟩

/-- What follows for places follows for texts. -/
theorem Related.trans {rel' rel'' : Place → Place → Prop} (htrans : ∀ p q r, rel p q → rel' q r → rel'' p r)
    (h : Related rel a b) (h' : Related rel' b c) : Related rel'' a c := by
  obtain ⟨scale, p, q, hp, hq, hrel⟩ := h
  obtain ⟨scale', q', r, hq', hr, hrel'⟩ := h'
  obtain ⟨rfl, rfl⟩ := Prod.mk.inj (Option.some.inj (hq.symm.trans hq'))
  exact ⟨scale, p, r, hp, hr, htrans p q r hrel hrel'⟩

theorem not_related_self (hirrefl : ∀ p, ¬ rel p p) : ¬ Related rel a a := by
  rintro ⟨scale, p, q, hp, hq, h⟩
  obtain ⟨-, rfl⟩ := Prod.mk.inj (Option.some.inj (hp.symm.trans hq))
  exact hirrefl p h

/-- The texts have places on one scale. -/
def SameScale (a b : LooseText) : Prop := ∃ scale p q, a.place? = some (scale, p) ∧ b.place? = some (scale, q)

theorem sameScale_iff : SameScale a b ↔ a.IsDay ∧ b.IsDay ∨ a.IsNumber ∧ b.IsNumber := by
  rcases a.place?_cases with ⟨hday, hnumber, p, hp⟩ | ⟨hday, hnumber, p, hp⟩ | ⟨hday, hnumber, hp⟩ <;>
    rcases b.place?_cases with ⟨hday', hnumber', q, hq⟩ | ⟨hday', hnumber', q, hq⟩ | ⟨hday', hnumber', hq⟩ <;>
    simp [SameScale, hday, hnumber, hp, hday', hnumber', hq]

/-- Texts compare just if they have places on one scale. -/
theorem related_or_iff : Related (· ≥ ·) a b ∨ Related (· ≥ ·) b a ↔ SameScale a b := by
  constructor
  · rintro (⟨scale, p, q, hp, hq, -⟩ | ⟨scale, q, p, hq, hp, -⟩) <;> exact ⟨scale, p, q, hp, hq⟩
  · rintro ⟨scale, p, q, hp, hq⟩
    rcases le_total q p with hle | hle
    · exact .inl ⟨scale, p, q, hp, hq, hle⟩
    · exact .inr ⟨scale, q, p, hq, hp, hle⟩

theorem related_iff {scale : Scale} {q : Place} (hp : a.place? = some (scale, p)) (hq : b.place? = some (scale, q)) :
    Related rel a b ↔ rel p q := by
  refine ⟨fun ⟨_, p', q', hp', hq', h⟩ => ?_, fun h => ⟨scale, p, q, hp, hq, h⟩⟩
  obtain ⟨-, rfl⟩ := Prod.mk.inj (Option.some.inj (hp.symm.trans hp'))
  obtain ⟨-, rfl⟩ := Prod.mk.inj (Option.some.inj (hq.symm.trans hq'))
  exact h

end LooseText

/-- Just one of the three holds. -/
def ExactlyOne (p q r : Prop) : Prop := p ∧ ¬ q ∧ ¬ r ∨ ¬ p ∧ q ∧ ¬ r ∨ ¬ p ∧ ¬ q ∧ r

theorem LooseText.SameScale.exactlyOne {a b : LooseText} (h : SameScale a b) :
    ExactlyOne (Related (· > ·) a b) (Related (· > ·) b a) (Related (· ≥ ·) a b ∧ Related (· ≥ ·) b a) := by
  obtain ⟨scale, p, q, hp, hq⟩ := h
  simp only [related_iff hp hq, related_iff hq hp, ExactlyOne]
  rcases lt_trichotomy p q with hlt | rfl | hgt
  · exact .inr (.inl ⟨hlt.not_gt, hlt, fun h => hlt.not_ge h.1⟩)
  · exact .inr (.inr ⟨lt_irrefl p, lt_irrefl p, le_refl p, le_refl p⟩)
  · exact .inl ⟨hgt, hgt.not_gt, fun h => hgt.not_ge h.2⟩

/-- A text is an existing date, or a number, or on one scale with no text. -/
theorem LooseText.exactlyOne_class (a : LooseText) : ExactlyOne a.IsDay a.IsNumber (∀ b, ¬ SameScale a b) := by
  simp only [sameScale_iff]
  rcases a.place?_cases with ⟨hday, hnumber, -⟩ | ⟨hday, hnumber, -⟩ | ⟨hday, hnumber, -⟩
  · exact .inl ⟨hday, hnumber, fun h => h a (.inl ⟨hday, hday⟩)⟩
  · exact .inr (.inl ⟨hday, hnumber, fun h => h a (.inr ⟨hnumber, hnumber⟩)⟩)
  · exact .inr (.inr ⟨hday, hnumber, fun b h => h.elim (fun h => hday h.1) fun h => hnumber h.1⟩)

/-! ### Order tests on texts -/

variable {r : Record} {field word a b : LooseText} {rel : Place → Place → Prop}

/-- **An order test on two texts** asks how their places are related. -/
theorem Condition.holds_order (hword : OrderTest word rel) (hraw : r.get field = .text a) :
    ∃ found, (Condition.mk field word b).holds r = .ok found ∧ (found = true ↔ LooseText.Related rel a b) := by
  obtain ⟨test, hcompare, htest⟩ := hword
  -- two dates are tested as days and all other texts as numbers, and the scales say the same
  by_cases hdates : NotBothDates (.text a) b
  · refine ⟨test a.number b.number, ?_, (htest _ _).trans (LooseText.related_of_notBothDates hdates).symm⟩
    rw [holds_settled (hraw ▸ hdates), hraw]
    exact hcompare _ _
  · obtain ⟨hleft, hright⟩ := not_or.mp hdates
    obtain ⟨x, hx⟩ := Option.ne_none_iff_exists'.mp hleft
    obtain ⟨y, hy⟩ := Option.ne_none_iff_exists'.mp hright
    refine ⟨test x y, ?_, (htest x y).trans (LooseText.related_of_days hx hy).symm⟩
    rw [holds_days hraw hx hy]
    exact hcompare _ _

/-- The record that holds the first text under the field passes the test against the second one. -/
def Passes (field word a b : LooseText) : Prop :=
  (Node.condition ⟨field, word, b⟩).holds [(field, .text a)] = .ok true

theorem passes_iff (hword : OrderTest word rel) : Passes field word a b ↔ LooseText.Related rel a b := by
  have hraw : Record.get [(field, .text a)] field = .text a := by simp [Record.get]
  obtain ⟨found, hholds, hfound⟩ := Condition.holds_order (b := b) hword hraw
  rw [Passes, Node.holds, hholds, Except.ok.injEq, hfound]

theorem exists_holds_text (field word a b : LooseText) :
    ∃ found, (Node.condition ⟨field, word, b⟩).holds [(field, .text a)] = .ok found := by
  cases h : (Node.condition ⟨field, word, b⟩).holds [(field, .text a)] with
  | ok found => exact ⟨found, rfl⟩
  | error e =>
    have hraw : Record.get [(field, .text a)] field = .text a := by simp [Record.get]
    rw [Node.holds, Condition.holds_eq_error_iff, hraw] at h
    exact absurd h (Value.isComparable_iff.mp rfl e)

/-- **The order tests are coherent on all texts.**  Every test of two texts has an answer.  The tests for less are
those for greater with the sides exchanged, and being greater is irreflexive and transitive, also together with
being at least.  A text is an existing date, or a number, or it compares with no text at all; two texts compare
just if both are existing dates or both are numbers, and then one is greater than the other, or they are at least
as great as each other. -/
theorem order_tests_coherent (field : LooseText) :
    (∀ word a b, ∃ found, (Node.condition ⟨field, word, b⟩).holds [(field, .text a)] = .ok found) ∧
    (∀ a b, (Passes field ">" a b ↔ Passes field "<" b a) ∧ (Passes field ">=" a b ↔ Passes field "<=" b a)) ∧
    (∀ a, ¬ Passes field ">" a a) ∧
    (∀ a b c, (Passes field ">" a b → Passes field ">" b c → Passes field ">" a c) ∧
      (Passes field ">" a b → Passes field ">=" b c → Passes field ">" a c) ∧
      (Passes field ">=" a b → Passes field ">" b c → Passes field ">" a c)) ∧
    (∀ a, ExactlyOne a.IsDay a.IsNumber (∀ b, ¬ Passes field ">=" a b ∧ ¬ Passes field ">=" b a)) ∧
    ∀ a b, (Passes field ">=" a b ∨ Passes field ">=" b a ↔ a.IsDay ∧ b.IsDay ∨ a.IsNumber ∧ b.IsNumber) ∧
      (Passes field ">=" a b ∨ Passes field ">=" b a → ExactlyOne (Passes field ">" a b) (Passes field ">" b a)
        (Passes field ">=" a b ∧ Passes field ">=" b a)) := by
  simp only [passes_iff orderTest_greater, passes_iff orderTest_atLeast, passes_iff orderTest_less,
    passes_iff orderTest_atMost]
  refine ⟨exists_holds_text field, fun a b => ⟨LooseText.related_swap, LooseText.related_swap⟩,
    fun a => LooseText.not_related_self lt_irrefl, fun a b c => ⟨?_, ?_, ?_⟩, fun a => ?_, fun a b => ⟨?_, ?_⟩⟩
  · exact LooseText.Related.trans fun p q r => gt_trans
  · exact LooseText.Related.trans fun p q r hpq hqr => lt_of_le_of_lt hqr hpq
  · exact LooseText.Related.trans fun p q r hpq hqr => lt_of_lt_of_le hqr hpq
  · simp only [← not_or, LooseText.related_or_iff]
    exact a.exactlyOne_class
  · rw [LooseText.related_or_iff, LooseText.sameScale_iff]
  · exact fun h => (LooseText.related_or_iff.mp h).exactlyOne

/-- A thousand, written with an exponent and spaces, is greater than whatever 999 is at least. -/
theorem order_tests_coherent_thousand : Passes "n" ">" " 1e3 " "999" ∧ Passes "n" ">=" "999" "-Infinity" ∧
    Passes "n" ">" " 1e3 " "-Infinity" := by
  have hgreater : Passes "n" ">" " 1e3 " "999" := by
    unfold Passes
    decide +kernel
  have hatLeast : Passes "n" ">=" "999" "-Infinity" := by
    unfold Passes
    decide +kernel
  obtain ⟨-, -, -, htrans, -⟩ := order_tests_coherent "n"
  exact ⟨hgreater, hatLeast, (htrans _ _ _).2.1 hgreater hatLeast⟩

end FieldFilter
