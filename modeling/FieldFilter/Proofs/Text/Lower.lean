import Mathlib.Data.List.Infix
import FieldFilter.Proofs.Text.Occurrence

/-!
# FieldFilter.Proofs.Text.Lower — lower case of a part of a text

`lowerBetween before after part` is the lower case of a part that stands between two others.  Only a capital
sigma looks at these, and only at the nearest mark of each that counts (`neighbour?`).  A part is `Settled` if
its own marks decide the form of every capital sigma in it.  Just such a text is found in lower case wherever
it stands (`settled_iff`).
-/

namespace FieldFilter.LooseText

variable {before before' after after' s t x y : List Mark} {m : Mark} {c : Char}

/-! ### Lower case in one pass -/

/-- Whether the first mark that counts as a neighbour is a letter with a case; nothing if none counts. -/
def neighbour? : List Mark → Option Bool
  | [] => none
  | .half _ :: _ => some false
  | .char c :: rest =>
    if Text.within Text.caseIgnorableRanges c then neighbour? rest else some (Text.within Text.casedRanges c)

/-- A capital sigma between these marks, the nearest ones first, stands at the end of a word. -/
def atWordEnd (before after : List Mark) : Bool := neighbour? before == some true && neighbour? after != some true

/-- The lower case of one mark between others, the nearest ones first. -/
def lowerMark (before after : List Mark) : Mark → List Mark
  | .half h => [.half h]
  | .char c =>
    if c = 'Σ' then [.char (if atWordEnd before after then 'ς' else 'σ')] else (Text.lowerChar c).map .char

/-- The lower case of a part between others, the nearest marks of both first. -/
def lowerBetween (before after : List Mark) : List Mark → List Mark
  | [] => []
  | m :: rest => lowerMark before (rest ++ after) m ++ lowerBetween (m :: before) after rest

theorem neighbour?_append : neighbour? (s ++ t) = (neighbour? s).or (neighbour? t) := by
  induction s with
  | nil => simp [neighbour?]
  | cons m s ih =>
    cases m with
    | half h => rfl
    | char c =>
      rw [List.cons_append, neighbour?, neighbour?, ih]
      split <;> rfl

theorem neighbour?_cons_congr (h : neighbour? s = neighbour? t) : neighbour? (m :: s) = neighbour? (m :: t) := by
  rw [← List.singleton_append, ← List.singleton_append (l := t), neighbour?_append, neighbour?_append, h]

/-- A run of characters ends at a half as at the end of a text. -/
theorem nextIsCased_runs : Text.nextIsCased (runs s).1 = (neighbour? s == some true) := by
  induction s with
  | nil => rfl
  | cons m s ih =>
    cases m with
    | half h => rfl
    | char c =>
      simp only [runs, Text.nextIsCased, neighbour?, ih]
      split <;> simp

theorem nextIsCased_passed {cs : List Char} (h : neighbour? s ≠ some true) :
    Text.nextIsCased cs = (neighbour? (cs.map .char ++ s) == some true) := by
  induction cs with
  | nil => simpa [Text.nextIsCased] using h
  | cons c cs ih =>
    simp only [Text.nextIsCased, List.map_cons, List.cons_append, neighbour?, ih]
    split <;> simp

/-- The runs of a text in lower case, of which the first has been passed in part. -/
theorem lowerBetween_runs (cs : List Char) (h : neighbour? before ≠ some true) :
    lowerBetween (cs.map .char ++ before) [] s = ofRuns (Text.lowerFrom cs (runs s).1)
      ((runs s).2.map fun (half, run) => (half, Text.lowerChars run)) := by
  induction s generalizing cs before with
  | nil => rfl
  | cons m s ih =>
    cases m with
    | half half =>
      have hhalf : neighbour? (.half half :: (cs.map .char ++ before)) ≠ some true := by simp [neighbour?]
      have hrest := ih [] hhalf
      rw [List.map_nil, List.nil_append] at hrest
      rw [lowerBetween, hrest]
      simp [lowerMark, runs, ofRuns, Text.lowerFrom, Text.lowerChars]
    | char c =>
      have hrest := ih (c :: cs) h
      rw [List.map_cons, List.cons_append] at hrest
      have hpassed : Text.nextIsCased cs = _ := nextIsCased_passed h
      have hnext : Text.nextIsCased (runs s).1 = _ := nextIsCased_runs
      rw [lowerBetween, hrest]
      simp only [lowerMark, atWordEnd, List.append_nil, runs, Text.lowerFrom, hpassed, hnext]
      split <;> simp [ofRuns, bne]

/-- **Lower case in one pass** over the marks. -/
theorem marks_lower (t : LooseText) : t.lower.marks = lowerBetween [] [] t.marks :=
  (lowerBetween_runs [] (show neighbour? [] ≠ some true by simp [neighbour?])).symm

theorem lowerBetween_append :
    lowerBetween before after (s ++ t) =
      lowerBetween before (t ++ after) s ++ lowerBetween (s.reverse ++ before) after t := by
  induction s generalizing before with
  | nil => rfl
  | cons m s ih => simp [lowerBetween, ih]

/-- Of what stands around a part only the nearest marks matter. -/
theorem lowerBetween_congr (hbefore : neighbour? before = neighbour? before')
    (hafter : neighbour? after = neighbour? after') :
    lowerBetween before after s = lowerBetween before' after' s := by
  induction s generalizing before before' with
  | nil => rfl
  | cons m s ih =>
    have hend : atWordEnd before (s ++ after) = atWordEnd before' (s ++ after') := by
      rw [atWordEnd, atWordEnd, neighbour?_append, neighbour?_append, hbefore, hafter]
    rw [lowerBetween, lowerBetween, ih (neighbour?_cons_congr hbefore)]
    congr 1
    cases m with
    | half h => rfl
    | char c => simp only [lowerMark, hend]

/-- Without a capital sigma nothing around a part matters. -/
theorem lowerBetween_of_not_mem (h : .char 'Σ' ∉ s) :
    lowerBetween before after s = lowerBetween before' after' s := by
  induction s generalizing before before' with
  | nil => rfl
  | cons m s ih =>
    obtain ⟨hm, hs⟩ := not_or.mp (mt List.mem_cons.mpr h)
    rw [lowerBetween, lowerBetween, ih hs]
    congr 1
    cases m with
    | half h => rfl
    | char c =>
      have hc : c ≠ 'Σ' := fun e => hm (congrArg Mark.char e.symm)
      simp only [lowerMark, if_neg hc]

/-- Marks without a case stay as they are. -/
theorem lowerBetween_eq_self (h : ∀ m ∈ s, ∀ before after, lowerMark before after m = [m]) :
    lowerBetween before after s = s := by
  induction s generalizing before with
  | nil => rfl
  | cons m s ih =>
    obtain ⟨hm, hs⟩ := List.forall_mem_cons.mp h
    rw [lowerBetween, hm, ih hs, List.singleton_append]

/-! ### Settled texts -/

/-- These marks around a capital sigma decide its form, whatever follows them on either side: a letter comes
after it, or something without a case before it, or a letter before it and something without a case after it. -/
def Decides (before after : List Mark) : Prop :=
  neighbour? after = some true ∨ neighbour? before = some false ∨
    neighbour? before = some true ∧ neighbour? after = some false

instance : Decidable (Decides before after) := by unfold Decides; infer_instance

/-- The marks decide the form of every capital sigma among them, with those that have been passed. -/
def SettledFrom (before : List Mark) : List Mark → Prop
  | [] => True
  | m :: rest => (m = .char 'Σ' → Decides before rest) ∧ SettledFrom (m :: before) rest

instance SettledFrom.decidable : ∀ before s, Decidable (SettledFrom before s)
  | _, [] => isTrue trivial
  | before, m :: rest =>
    have := SettledFrom.decidable (m :: before) rest
    inferInstanceAs (Decidable ((m = .char 'Σ' → Decides before rest) ∧ SettledFrom (m :: before) rest))

/-- The text decides the form that its capital sigmas take in lower case, wherever it stands. -/
def Settled (t : LooseText) : Prop := SettledFrom [] t.marks

instance (t : LooseText) : Decidable t.Settled := SettledFrom.decidable [] t.marks

theorem SettledFrom.of_not_mem (h : .char 'Σ' ∉ s) : SettledFrom before s := by
  induction s generalizing before with
  | nil => trivial
  | cons m s ih =>
    obtain ⟨hm, hs⟩ := not_or.mp (mt List.mem_cons.mpr h)
    exact ⟨fun e => absurd e.symm hm, ih hs⟩

theorem exists_of_not_settledFrom (h : ¬ SettledFrom before s) :
    ∃ x y, s = x ++ .char 'Σ' :: y ∧ ¬ Decides (x.reverse ++ before) y := by
  induction s generalizing before with
  | nil => exact absurd trivial h
  | cons m s ih =>
    by_cases hhead : m = .char 'Σ' → Decides before s
    · obtain ⟨x, y, rfl, hundecided⟩ := ih fun hrest => h ⟨hhead, hrest⟩
      exact ⟨m :: x, y, rfl, by simpa using hundecided⟩
    · obtain ⟨rfl, hundecided⟩ := Classical.not_imp.mp hhead
      exact ⟨[], s, rfl, hundecided⟩

theorem Decides.atWordEnd_append (h : Decides before after) (x y : List Mark) :
    atWordEnd (before ++ x) (after ++ y) = atWordEnd before after := by
  simp only [atWordEnd, neighbour?_append]
  rcases h with hafter | hbefore | ⟨hbefore, hafter⟩
  · simp [hafter]
  · simp [hbefore]
  · simp [hbefore, hafter]

/-- A settled part has one lower case, whatever stands around it. -/
theorem SettledFrom.lowerBetween_eq (h : SettledFrom before s) (x y : List Mark) :
    lowerBetween (before ++ x) y s = lowerBetween before [] s := by
  induction s generalizing before with
  | nil => rfl
  | cons m s ih =>
    obtain ⟨hhead, hrest⟩ := h
    have hmark : lowerMark (before ++ x) (s ++ y) m = lowerMark before (s ++ []) m := by
      cases m with
      | half half => rfl
      | char c =>
        by_cases hc : c = 'Σ'
        · have hdecides := hhead (congrArg Mark.char hc)
          simp only [lowerMark, if_pos hc, List.append_nil, hdecides.atWordEnd_append]
        · simp only [lowerMark, if_neg hc]
    rw [lowerBetween, lowerBetween, hmark, ← List.cons_append, ih hrest]

/-! ### Texts that are not settled -/

theorem neighbour?_sigma : neighbour? (.char 'Σ' :: s) = some true := by
  have hcounts : Text.within Text.caseIgnorableRanges 'Σ' = false := by decide +kernel
  have hcased : Text.within Text.casedRanges 'Σ' = true := by decide
  simp [neighbour?, hcounts, hcased]

/-- Marks of which none counts hold no capital sigma. -/
theorem not_mem_of_neighbour?_eq_none (h : neighbour? s = none) : .char 'Σ' ∉ s := by
  intro hmem
  obtain ⟨x, y, rfl⟩ := List.append_of_mem hmem
  rw [neighbour?_append, neighbour?_sigma] at h
  simp at h

theorem neighbour?_a : neighbour? [.char 'a'] = some true := by decide +kernel

theorem lowerBetween_a : lowerBetween before after [.char 'a'] = [.char 'a'] := by
  have hlower : Text.lowerChar 'a' = ['a'] := by decide
  simp [lowerBetween, lowerMark, hlower]

/-- Lower case around a capital sigma. -/
theorem lowerBetween_sigma : lowerBetween before after (x ++ .char 'Σ' :: y) =
    lowerBetween before (.char 'Σ' :: (y ++ after)) x ++
      .char (if atWordEnd (x.reverse ++ before) (y ++ after) then 'ς' else 'σ') ::
        lowerBetween (.char 'Σ' :: (x.reverse ++ before)) after y := by
  rw [lowerBetween_append, List.cons_append, lowerBetween, lowerMark, if_pos rfl, List.singleton_append]

/-- A capital sigma before which nothing counts takes its final form where a letter comes to stand there. -/
theorem not_infix_of_start (hx : neighbour? x.reverse = none) (hy : neighbour? y ≠ some true) :
    ¬ lowerBetween [] [] (x ++ .char 'Σ' :: y) <:+: lowerBetween [] [] (.char 'a' :: (x ++ .char 'Σ' :: y)) := by
  have hmem : .char 'Σ' ∉ x := fun hmem => not_mem_of_neighbour?_eq_none hx (List.mem_reverse.mpr hmem)
  have hpart : lowerBetween [.char 'a'] (.char 'Σ' :: y) x = lowerBetween [] (.char 'Σ' :: y) x :=
    lowerBetween_of_not_mem hmem
  have hrest : lowerBetween (.char 'Σ' :: (x.reverse ++ [.char 'a'])) [] y =
      lowerBetween (.char 'Σ' :: x.reverse) [] y :=
    lowerBetween_congr (by rw [neighbour?_sigma, neighbour?_sigma]) rfl
  have halone : atWordEnd x.reverse y = false := by simp [atWordEnd, hx]
  have hled : atWordEnd (x.reverse ++ [.char 'a']) y = true := by
    simp [atWordEnd, neighbour?_append, hx, neighbour?_a, hy]
  -- the text alone has one sigma in the middle of a word more
  refine fun hstands => absurd (hstands.count_le (.char 'σ')) (Nat.not_le.mpr ?_)
  rw [← List.singleton_append, lowerBetween_append, lowerBetween_a, lowerBetween_sigma, lowerBetween_sigma]
  simp only [List.append_nil, List.reverse_singleton, halone, hled, hpart, hrest]
  simp

/-- A capital sigma that ends a word loses its final form where a letter comes to stand after it. -/
theorem not_infix_of_end (hx : neighbour? x.reverse = some true) (hy : neighbour? y = none) :
    ¬ lowerBetween [] [] (x ++ .char 'Σ' :: y) <:+: lowerBetween [] [] (x ++ .char 'Σ' :: y ++ [.char 'a']) := by
  have hmem : .char 'Σ' ∉ y := not_mem_of_neighbour?_eq_none hy
  have hpart : lowerBetween [] (.char 'Σ' :: (y ++ [.char 'a'])) x = lowerBetween [] (.char 'Σ' :: y) x :=
    lowerBetween_congr rfl (by rw [neighbour?_sigma, neighbour?_sigma])
  have hrest : lowerBetween (.char 'Σ' :: x.reverse) [.char 'a'] y =
      lowerBetween (.char 'Σ' :: x.reverse) [] y := lowerBetween_of_not_mem hmem
  have halone : atWordEnd x.reverse y = true := by simp [atWordEnd, hx, hy]
  have hfollowed : atWordEnd x.reverse (y ++ [.char 'a']) = false := by
    simp [atWordEnd, neighbour?_append, hy, neighbour?_a]
  -- the text alone has one final sigma more
  refine fun hstands => absurd (hstands.count_le (.char 'ς')) (Nat.not_le.mpr ?_)
  rw [lowerBetween_append, lowerBetween_a, lowerBetween_sigma, lowerBetween_sigma]
  simp only [List.append_nil, halone, hfollowed, hpart, hrest]
  simp

/-! ### Literal occurrences -/

variable {q : LooseText}

/-- A settled text that occurs in another one is found there in any case. -/
theorem Settled.occursInAnyCase (h : q.Settled) {hay : LooseText} (hstands : q.marks <:+: hay.marks) :
    q.occursInAnyCase hay = true := by
  obtain ⟨x, y, hhay⟩ := hstands
  have hsame : lowerBetween x.reverse y q.marks = lowerBetween [] [] q.marks := h.lowerBetween_eq x.reverse y
  rw [occursInAnyCase_iff, marks_lower, marks_lower, ← hhay, lowerBetween_append, lowerBetween_append,
    List.append_nil, List.append_nil, hsame]
  exact List.infix_append _ _ _

/-- A text that is not settled stands in some text where it is not found. -/
theorem exists_not_occursInAnyCase (h : ¬ q.Settled) :
    ∃ hay : LooseText, q.marks <:+: hay.marks ∧ q.occursInAnyCase hay = false := by
  obtain ⟨x, y, hq, hundecided⟩ := exists_of_not_settledFrom h
  simp only [Decides, List.append_nil, not_or, not_and] at hundecided
  obtain ⟨hafter, hbefore, hboth⟩ := hundecided
  simp only [← Bool.not_eq_true, occursInAnyCase_iff, marks_lower, hq]
  cases hx : neighbour? x.reverse with
  | none => exact ⟨⟨.char 'a' :: (x ++ .char 'Σ' :: y)⟩, (List.suffix_cons _ _).isInfix, not_infix_of_start hx hafter⟩
  | some cased =>
    obtain rfl : cased = true := by simpa [hx] using hbefore
    have hy : neighbour? y = none := by
      cases hy : neighbour? y with
      | none => rfl
      | some cased => cases cased <;> simp_all
    exact ⟨⟨x ++ .char 'Σ' :: y ++ [.char 'a']⟩, (List.prefix_append _ _).isInfix, not_infix_of_end hx hy⟩

/-- **A text is found wherever it stands** just if it is settled. -/
theorem settled_iff : q.Settled ↔ ∀ hay : LooseText, q.marks <:+: hay.marks → q.occursInAnyCase hay = true := by
  refine ⟨fun h _ hstands => h.occursInAnyCase hstands, fun hfound => ?_⟩
  by_contra h
  obtain ⟨hay, hstands, hlost⟩ := exists_not_occursInAnyCase h
  exact absurd (hfound hay hstands) (Bool.not_eq_true _ ▸ hlost)

end FieldFilter.LooseText
