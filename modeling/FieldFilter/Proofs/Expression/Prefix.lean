import FieldFilter.Proofs.Expression.Canonical

/-!
# FieldFilter.Proofs.Expression.Prefix — the start of a text, token by token

`Starts before s ts rest` says that in front of `rest` the marks `s` are complete tokens `ts` with separators
between them.  Which tokens these are hangs on the first mark of `rest` alone (`Token.Longest.follows`), and not even
on that if a space, a closing parenthesis or nothing comes next; so a text that starts with `s` can be gone on
with from there as an expression needs it (`Starts.completes`).
-/

namespace FieldFilter

variable {s u w gap rest rest' : List Mark} {m : Mark} {t : Token} {before ts us : List Token} {slot : Slot}
  {r r' : Reading} {n : Node}

/-! ### What comes after a token -/

namespace Token

/-- A longest spelling does not go on with a mark by which it would be longer. -/
theorem Longest.stops {p : Mark → Bool} (h : Longest slot t w rest)
    (hlonger : ∀ m after, p m = true → ∃ t', Spells t' (w ++ [m]) after ∧ t'.terminal = t.terminal) :
    ∀ m ∈ rest.head?, p m = false := by
  intro m hm
  obtain ⟨after, rfl⟩ := List.head?_eq_some_iff.mp hm
  by_contra hp
  obtain ⟨t', hs, hk⟩ := hlonger m after (by simpa using hp)
  have hlen := h.longest hs (hk ▸ h.slot_eq) (by simp)
  rw [List.length_append, List.length_singleton] at hlen
  exact absurd hlen (Nat.not_succ_le_self _)

/-- What does not hold of the first mark does not hold of a closing one in its place either. -/
theorem stops_follow {p : Mark → Bool} (h : ∀ m ∈ rest.head?, p m = false)
    (hrest : rest'.head? = rest.head? ∨ Closed rest') (hspace : p ' ' = false) (hclose : p ')' = false) :
    ∀ m ∈ rest'.head?, p m = false := by
  rcases hrest with hrest | hrest
  · rwa [hrest]
  · exact hrest.stops hspace hclose

theorem endsWord_iff : endsWord rest = true ↔ ∀ m ∈ rest.head?, m.is Text.isWordChar = false := by
  cases rest <;> simp [endsWord]

/-- The mark makes a longer symbol of the characters. -/
def lengthens (v : List Char) (m : Mark) : Bool := decide (v ++ ['='] ∈ symbols ∧ m = '=')

theorem spells_lengthens {v : List Char} (h : lengthens v m = true) (after : List Mark) :
    ∃ t, Spells t (v.map .char ++ [m]) after ∧ t.terminal = .operator := by
  obtain ⟨hlong, rfl⟩ := of_decide_eq_true h
  have hspells : Spells (.operator _) ((v ++ ['=']).map .char) after := .symbol hlong
  rw [List.map_append] at hspells
  exact ⟨.operator _, hspells, rfl⟩

/-- A symbol that does not go on to a longer one is the operator that stands there. -/
theorem operator?_of_symbol {v : List Char} (hv : v ∈ symbols) (hrest : ∀ m ∈ rest.head?, lengthens v m = false) :
    operator? (v.map .char ++ rest) = some (v, rest) := by
  simp only [symbols, List.mem_cons, List.not_mem_nil, or_false] at hv
  rcases hv with rfl | rfl | rfl | rfl | rfl | rfl
  iterate 4 rfl
  all_goals
    have hrest : ∀ m ∈ rest.head?, m ≠ '=' := by simpa [lengthens, symbols] using hrest
    unfold operator?
    split <;> simp_all

/-- **A longest spelling hangs on the first mark that follows it**, and stays one if it is closed. -/
theorem Longest.follows (h : Longest slot t w rest) (hrest : rest'.head? = rest.head? ∨ Closed rest') :
    Longest slot t w rest' := by
  have hslot := h.slot_eq
  subst hslot
  have hends (hend : endsWord rest = true) : endsWord rest' = true :=
    endsWord_iff.mpr (stops_follow (endsWord_iff.mp hend) hrest (by decide) (by decide))
  cases h.spells with
  | opening => exact Spells.opening.longest_of_width rfl
  | closing => exact Spells.closing.longest_of_width rfl
  | @field m w _ hm hw =>
    have hstop := h.stops (p := Mark.is isFieldChar) fun x _ hx =>
      ⟨_, .field (w := w ++ [x]) hm (by simpa [or_imp, forall_and] using ⟨hw, hx⟩), rfl⟩
    obtain ⟨htake, hdrop⟩ := takeWhile_of_stop hw (stops_follow hstop hrest (by decide) (by decide))
    have hlong := longest_field (s := w ++ rest') hm
    rwa [htake, hdrop] at hlong
  | @symbol v _ hv =>
    have hstop := h.stops (p := lengthens v) fun _ after hx => spells_lengthens hx after
    have hfollow := stops_follow hstop hrest (by simp [lengthens]) (by simp [lengthens])
    exact longest_operator (operator?_of_symbol hv hfollow)
  | contains hv hend => exact longest_operator (operator?_contains hv (hends hend))
  | quoted hu => exact longest_quoted hu
  | @bare w _ hne hw =>
    have hstop := h.stops (p := isBare) fun x _ hx =>
      ⟨_, .bare (w := w ++ [x]) (by simp) (by simpa [or_imp, forall_and] using ⟨hw, hx⟩), rfl⟩
    obtain ⟨m, v, rfl⟩ := List.exists_cons_of_ne_nil hne
    rw [List.forall_mem_cons] at hw
    obtain ⟨htake, hdrop⟩ := takeWhile_of_stop hw.2 (stops_follow hstop hrest (by decide) (by decide))
    have hlong := longest_bare (s := v ++ rest') hw.1
    rwa [htake, hdrop] at hlong
  | and hv hend => exact (Spells.and hv (hends hend)).longest_of_width rfl
  | or hv hend => exact (Spells.or hv (hends hend)).longest_of_width rfl

end Token

/-! ### The start of a text -/

/-- After the tokens `before`, in front of `rest`, these marks are complete tokens with separators between them. -/
inductive Starts : List Token → List Mark → List Token → List Mark → Prop
  | gap {before : List Token} {gap rest : List Mark} : Separators gap → Starts before gap [] rest
  | token {before ts : List Token} {gap w s rest : List Mark} {t : Token} :
    Separators gap → Token.Spells t w (s ++ rest) → Viable before t.terminal →
    (∀ {t' w' rest'}, Token.Spells t' w' rest' → Viable before t'.terminal → w ++ (s ++ rest) = w' ++ rest' →
      w'.length ≤ w.length) →
    Starts (before ++ [t]) s ts rest → Starts before (gap ++ (w ++ s)) (t :: ts) rest

/-- A whole text that splits into tokens is one that starts with them in front of nothing. -/
theorem starts_iff_lexes : Starts before s ts [] ↔ Lexes before s ts := by
  constructor
  · intro h
    generalize hrest : ([] : List Mark) = rest at h
    induction h with
    | gap hgap => exact .done hgap
    | token hgap hs hv hmax _ ih =>
      subst hrest
      rw [List.append_nil] at hs hmax
      exact .token hgap hs hv hmax (ih rfl)
  · intro h
    induction h with
    | done hgap => exact .gap hgap
    | token hgap hs hv hmax _ ih =>
      exact .token hgap (by rwa [List.append_nil]) hv (by rwa [List.append_nil]) ih

/-- A start is scanned into its tokens, whatever comes of the rest, and a reading takes them. -/
theorem Starts.scan (h : Starts before s ts rest) (hr : Reading.run {} before = some r) :
    ∃ r' tokens, r.run ts = some r' ∧ tokens.map Prod.snd = ts ∧
      Token.scan r.pending.slot (s ++ rest) =
        (tokens ++ (Token.scan r'.pending.slot rest).1, (Token.scan r'.pending.slot rest).2) := by
  induction h generalizing r with
  | gap hgap => exact ⟨r, [], rfl, rfl, Token.scan_append hgap⟩
  | @token _ ts gap w s rest t hgap hs hv hmax _ ih =>
    obtain ⟨mid, hstep⟩ := (viable_iff hr).mp hv
    obtain ⟨r', tokens, hrun, rfl, hscan⟩ := ih (Reading.run_of_step hr hstep)
    rw [(Reading.step_slot hstep).2] at hscan
    refine ⟨r', ((w ++ (s ++ rest)).length, t) :: tokens, ?_, rfl, ?_⟩
    · rw [Reading.run_cons, hstep]
      exact hrun
    · rw [List.append_assoc, List.append_assoc, Token.scan_token hgap ((longest_iff hr hv).mpr ⟨hs, hmax⟩), hscan]
      rfl

/-- What a text starts with is written as well in front of a space, a closing parenthesis or nothing. -/
theorem Starts.written (h : Starts before s ts rest) (hr : Reading.run {} before = some r) :
    ∃ r', Reading.run {} (before ++ ts) = some r' ∧ Written r.pending.slot s ts r'.pending.slot := by
  induction h generalizing r with
  | @gap before gap rest hgap =>
    refine ⟨r, by rwa [List.append_nil], fun rest' _ => ?_⟩
    rw [Token.split, Token.scan_append hgap]
    rfl
  | @token before ts gap w s rest t hgap hs hv hmax _ ih =>
    obtain ⟨mid, hstep⟩ := (viable_iff hr).mp hv
    obtain ⟨r', hrun, hwritten⟩ := ih (Reading.run_of_step hr hstep)
    rw [(Reading.step_slot hstep).2] at hwritten
    refine ⟨r', by simpa using hrun, fun rest' hrest => ?_⟩
    -- what follows the token is the rest of the start, or the end of it and then what is closed
    have hfollow : (s ++ rest').head? = (s ++ rest).head? ∨ Closed (s ++ rest') := by
      cases s with
      | nil => exact .inr hrest
      | cons m s => exact .inl rfl
    have hlong := ((longest_iff hr hv).mpr ⟨hs, hmax⟩).follows hfollow
    rw [List.append_assoc, List.append_assoc, Token.split, Token.scan_append hgap]
    have hsplit := Token.split_token hlong
    rw [hwritten rest' hrest] at hsplit
    exact hsplit

/-! ### Going on to a whole expression -/

/-- What a reading waits for can be written. -/
theorem Reading.supplies (r : Reading) : ∃ u us chain, Solid u ∧ Written r.pending.slot u us .joint ∧
    r.run us = some { r with chain, pending := .joint } := by
  have hvalue : Written .value (Render.value "1").marks [.value "1"] .joint := written_value "1"
  have hcondition := Written.condition (show isFieldName "a" = true by decide) (written_operator .equal) "1"
  obtain ⟨outer, chain, pending⟩ := r
  cases pending with
  | operand => exact ⟨_, _, _, ⟨⟨'a', rfl, by decide⟩, '1', rfl, by decide⟩, hcondition, rfl⟩
  | operator name =>
    exact ⟨_, _, _, ⟨⟨'=', rfl, by decide⟩, '1', rfl, by decide⟩,
      (written_operator .equal).append hvalue.space (.inl rfl), rfl⟩
  | value name word => exact ⟨_, _, _, ⟨⟨'1', rfl, by decide⟩, '1', rfl, by decide⟩, hvalue, rfl⟩
  | joint =>
    exact ⟨_, _, _, ⟨⟨'a', rfl, by decide⟩, '1', rfl, by decide⟩,
      (written_combinator .and).append hcondition.space (.inl rfl), rfl⟩

theorem written_closings (k : Nat) :
    Written .joint (List.replicate k (.char ')')) (List.replicate k .closing) .joint := by
  induction k with
  | zero => exact fun rest _ => rfl
  | succ k ih =>
    exact .before (w := [.char ')']) (fun _ => Token.Spells.closing.longest_of_width rfl) ih

/-- What a reading waits for can be written, and then its parentheses can be closed. -/
theorem Reading.completes_written (r : Reading) : ∃ u us r' n, Solid u ∧ Written r.pending.slot u us .joint ∧
    r.run us = some r' ∧ r'.finish? = some n := by
  obtain ⟨u, us, chain, hsolid, hwritten, hrun⟩ := r.supplies
  obtain ⟨r', n, hclose, hfin⟩ := Reading.closes r.outer chain
  have hclosings := written_closings r.outer.length
  generalize r.outer.length = k at hclose hclosings
  refine ⟨u ++ List.replicate k (.char ')'), us ++ List.replicate k .closing, r', n, ?_, ?_, ?_, hfin⟩
  · obtain ⟨⟨m, hm, hfirst⟩, z, hz, hlast⟩ := hsolid
    cases k with
    | zero => exact ⟨⟨m, by simpa using hm, hfirst⟩, z, by simpa using hz, hlast⟩
    | succ k =>
      simp only [Option.mem_def] at hm
      exact ⟨⟨m, by simp [List.head?_append, hm], hfirst⟩, .char ')', by simp [List.getLast?_replicate], by decide⟩
  · refine hwritten.append_closed hclosings fun m hm => .inr ?_
    cases k with
    | zero => cases hm
    | succ k => exact (Option.some.inj hm).symm
  · rw [Reading.run_append, hrun]
    exact hclose

/-- A text without white space at its ends that is written as a whole expression is read. -/
theorem Expression.parse_of_written (hsolid : Solid s) (hwritten : Written .operand s ts .joint)
    (hrun : Reading.run {} ts = some r) (hfin : r.finish? = some n) :
    Lexes [] s ts ∧ parse ⟨s⟩ = .ok (rooted n) := by
  have hsplit := hwritten.split_eq
  have hstuck : (Token.scan .operand s).2 = none := congrArg Prod.snd hsplit
  obtain rfl : (Token.scan .operand s).1.map Prod.snd = ts := congrArg Prod.fst hsplit
  exact ⟨lexes_of_scan (r := {}) rfl hstuck hrun, parse_of_whole ⟨hsolid, _, hwritten, sentence_iff.mpr ⟨r, hrun, hfin⟩⟩⟩

/-- **Complete tokens that can be gone on with start an expression**, in which they are the same tokens. -/
theorem Starts.completes (h : Starts [] s ts rest) (hfirst : ∀ m ∈ s.head?, m.is Text.isBlank = false) :
    ∃ u us n, Lexes [] (s ++ u) (ts ++ us) ∧ Expression.parse ⟨s ++ u⟩ = .ok n := by
  obtain ⟨r, hrun, hwritten⟩ := h.written (r := {}) rfl
  obtain ⟨u, us, r', n, hsolid, hgoes, hrun', hfin⟩ := r.completes_written
  have hall : Reading.run {} (ts ++ us) = some r' := by
    rw [Reading.run_append, show Reading.run {} ts = some r from hrun]
    exact hrun'
  cases s with
  | nil =>
    -- nothing has to be kept apart from the completion by a space
    obtain rfl : [] = ts := congrArg Prod.fst (Token.split_nil.symm.trans hwritten.split_eq)
    cases hrun
    exact ⟨u, us, _, Expression.parse_of_written hsolid hgoes hall hfin⟩
  | cons m s =>
    obtain ⟨-, z, hz, hlast⟩ := hsolid
    simp only [Option.mem_def] at hz
    have hends : Solid (m :: s ++ .char ' ' :: u) :=
      ⟨⟨m, rfl, hfirst m rfl⟩, z, by simp [List.getLast?_append, List.getLast?_cons, hz], hlast⟩
    exact ⟨.char ' ' :: u, us, _,
      Expression.parse_of_written hends (hwritten.append hgoes.space (.inl rfl)) hall hfin⟩

end FieldFilter
