import FieldFilter.Proofs.Expression.Prefix
import FieldFilter.Proofs.Text.Loose

/-!
# FieldFilter.Proofs.Expression.Stop — where an expression that makes no sense stops

Every text starts with complete tokens up to its end or up to a place that is `Blocked`: something else than a
separator stands there, and no viable token is spelled by it (`exists_starts`).  The first such place is the one that
is reported (`read_eq_offset_iff`), and where there is none, tokens that are no sentence are reported at the end
of the text (`read_eq_textEnd_iff`).  Up to either of them the text can be gone on with (`stop_viable`).
-/

namespace FieldFilter

variable {s rest : List Mark} {t : Token} {before ts : List Token} {slot : Slot} {r r' : Reading} {n : Node}
  {k : Nat}

/-- After these tokens something stands that is no separator, and it spells no token that could stand there. -/
def Blocked (before : List Token) (rest : List Mark) : Prop :=
  (∃ m ∈ rest.head?, m.is Token.isSeparator = false) ∧
    ∀ t w after, rest = w ++ after → Token.Spells t w after → ¬ Viable before t.terminal

/-- What cannot be gone on with is blocked. -/
theorem blocked_of_next? (hr : Reading.run {} before = some r)
    (hm : ∃ m ∈ rest.head?, m.is Token.isSeparator = false)
    (hnext : ∀ t left, Token.next? r.pending.slot rest = some (t, left) → ¬ Viable before t.terminal) :
    Blocked before rest := by
  refine ⟨hm, fun t w after hw hs hv => ?_⟩
  subst hw
  obtain ⟨_, hstep⟩ := (viable_iff hr).mp hv
  obtain ⟨⟨t', left⟩, hfound⟩ := Token.next?_complete hs
  rw [(Reading.step_slot hstep).1] at hfound
  obtain ⟨w', hw', hlong⟩ := Token.next?_sound hfound
  have hk : t'.terminal = t.terminal :=
    hlong.spells.terminal_eq hs hw'.symm (hlong.slot_eq.trans (Reading.step_slot hstep).1.symm)
  exact hnext t' left hfound (hk ▸ hv)

/-- Complete tokens stand in front of every text up to its end or up to a place that is blocked. -/
theorem exists_starts (hr : Reading.run {} before = some r) (s : List Mark) :
    ∃ p ts rest, s = p ++ rest ∧ Starts before p ts rest ∧ (rest = [] ∨ Blocked (before ++ ts) rest) := by
  induction hlen : s.length using Nat.strong_induction_on generalizing s before r with
  | _ len ih =>
  have hsplit := List.takeWhile_append_dropWhile (p := Mark.is Token.isSeparator) (l := s)
  have hgap : Separators (s.takeWhile (Mark.is Token.isSeparator)) := fun m hm => List.mem_takeWhile_imp hm
  have hhead := List.head?_dropWhile_not (Mark.is Token.isSeparator) s
  generalize s.takeWhile (Mark.is Token.isSeparator) = gap at hsplit hgap
  generalize s.dropWhile (Mark.is Token.isSeparator) = rest at hsplit hhead
  subst hsplit
  cases rest with
  | nil => exact ⟨gap, [], [], rfl, .gap hgap, .inl rfl⟩
  | cons m rest =>
    have hm : ∃ x ∈ (m :: rest).head?, x.is Token.isSeparator = false := ⟨m, rfl, hhead⟩
    by_cases hgoes : ∃ t left, Token.next? r.pending.slot (m :: rest) = some (t, left) ∧ Viable before t.terminal
    · obtain ⟨t, left, hnext, hv⟩ := hgoes
      obtain ⟨mid, hstep⟩ := (viable_iff hr).mp hv
      obtain ⟨w, hw, hlong⟩ := Token.next?_sound hnext
      have hshort : left.length < len := by
        have hless := Token.next?_length hnext
        rw [List.length_append] at hlen
        omega
      obtain ⟨p, ts, after, rfl, hstarts, hend⟩ := ih _ hshort (Reading.run_of_step hr hstep) left rfl
      obtain ⟨hs, hmax⟩ := (longest_iff hr hv).mp hlong
      refine ⟨gap ++ (w ++ p), t :: ts, after, ?_, .token hgap hs hv hmax hstarts, ?_⟩
      · rw [hw]
        simp
      · simpa using hend
    · simp only [not_exists, not_and] at hgoes
      refine ⟨gap, [], m :: rest, rfl, .gap hgap, .inr ?_⟩
      rw [List.append_nil]
      exact blocked_of_next? hr hm hgoes

/-! ### What is reported -/

/-- Tokens that a reading takes come first. -/
theorem Reading.steps_append {tokens more : List (Nat × Token)} (h : r.run (tokens.map Prod.snd) = some r') :
    r.steps (tokens ++ more) = r'.steps more := by
  induction tokens generalizing r with
  | nil =>
    cases h
    rfl
  | cons first tokens ih =>
    obtain ⟨left, t⟩ := first
    obtain ⟨mid, hstep, hrun⟩ := Option.bind_eq_some_iff.mp h
    rw [List.cons_append, Reading.steps, hstep]
    exact ih hrun

/-- At a place that is blocked a scan is stuck, or finds a token that the reading does not take. -/
theorem Blocked.scan (h : Blocked before rest) (hr : Reading.run {} before = some r) :
    Token.scan r.pending.slot rest = ([], some rest.length) ∨
      ∃ t more stuck, Token.scan r.pending.slot rest = ((rest.length, t) :: more, stuck) ∧ r.step t = none := by
  obtain ⟨⟨m, hm, hsep⟩, hblocked⟩ := h
  obtain ⟨rest, rfl⟩ := List.head?_eq_some_iff.mp hm
  have hdrop : (m :: rest).dropWhile (Mark.is Token.isSeparator) = m :: rest :=
    List.dropWhile_cons_of_neg (by simp [hsep])
  rw [Token.scan_eq, hdrop, if_neg (List.cons_ne_nil m rest)]
  cases hnext : Token.next? r.pending.slot (m :: rest) with
  | none => exact .inl rfl
  | some found =>
    obtain ⟨t, left⟩ := found
    obtain ⟨w, hw, hlong⟩ := Token.next?_sound hnext
    refine .inr ⟨t, _, _, rfl, Option.eq_none_iff_forall_ne_some.mpr fun r' hstep => ?_⟩
    exact hblocked t w left hw hlong.spells ((viable_iff hr).mpr ⟨r', hstep⟩)

namespace Expression

/-- A place that is blocked after complete tokens is reported. -/
theorem read_of_blocked (h : Starts [] s ts rest) (hblocked : Blocked ts rest) :
    read (s ++ rest) = .error (.offset s.length) := by
  obtain ⟨r, tokens, hrun, rfl, hscan⟩ := h.scan (r := {}) rfl
  have hscan : Token.scan .operand (s ++ rest) = _ := hscan
  have hoffset : (s ++ rest).length - rest.length = s.length := by simp
  rcases hblocked.scan hrun with hstuck | ⟨t, more, stuck, hfound, hstep⟩
  · rw [hstuck, List.append_nil] at hscan
    have hsteps := Reading.steps_eq_ok.mpr hrun
    simp only [read, hscan, hsteps, hoffset]
  · rw [hfound] at hscan
    have hsteps : Reading.steps {} (tokens ++ (rest.length, t) :: more) = .error rest.length := by
      rw [Reading.steps_append hrun, Reading.steps, hstep]
    simp only [read, hscan, hsteps, hoffset]

/-- Complete tokens that are no sentence are reported at the end. -/
theorem read_of_not_sentence (h : Lexes [] s ts) (hnone : ∀ n, ¬ Sentence ts n) : read s = .error .textEnd := by
  obtain ⟨hstuck, hts, r, hrun⟩ := h.scan (r := {}) rfl
  have hstuck : (Token.scan .operand s).2 = none := hstuck
  have hsteps : Reading.steps {} (Token.scan .operand s).1 = .ok r := by
    rw [Reading.steps_eq_ok]
    exact hts ▸ hrun
  have hfin : r.finish? = none :=
    Option.eq_none_iff_forall_ne_some.mpr fun n hn => hnone n (sentence_iff.mpr ⟨r, hrun, hn⟩)
  simp only [read, hsteps, hstuck, hfin]

/-- What becomes of a text: it is a sentence, or tokens that are none, or it has a first place that is blocked. -/
theorem read_cases (s : List Mark) : (∃ n, read s = .ok n) ∨
    (∃ ts, Lexes [] s ts ∧ (∀ n, ¬ Sentence ts n) ∧ read s = .error .textEnd) ∨
    ∃ p ts rest, s = p ++ rest ∧ Starts [] p ts rest ∧ Blocked ts rest ∧ read s = .error (.offset p.length) := by
  have hstart : Reading.run {} [] = some {} := rfl
  obtain ⟨p, ts, rest, rfl, hstarts, rfl | hblocked⟩ := exists_starts hstart s
  · rw [List.append_nil]
    have hlex := starts_iff_lexes.mp hstarts
    by_cases hsent : ∃ n, Sentence ts n
    · obtain ⟨n, hn⟩ := hsent
      exact .inl ⟨n, read_eq_ok.mpr ⟨ts, hlex, hn⟩⟩
    · rw [not_exists] at hsent
      exact .inr (.inl ⟨ts, hlex, hsent, read_of_not_sentence hlex hsent⟩)
  · exact .inr (.inr ⟨p, ts, rest, rfl, hstarts, hblocked, read_of_blocked hstarts hblocked⟩)

theorem read_eq_offset_iff : read s = .error (.offset k) ↔
    ∃ ts, k < s.length ∧ Starts [] (s.take k) ts (s.drop k) ∧ Blocked ts (s.drop k) := by
  constructor
  · intro h
    rcases read_cases s with ⟨n, hok⟩ | ⟨ts, -, -, hend⟩ | ⟨p, ts, rest, rfl, hstarts, hblocked, hstop⟩
    · exact nomatch h.symm.trans hok
    · exact nomatch h.symm.trans hend
    · cases h.symm.trans hstop
      obtain ⟨m, hm, -⟩ := hblocked.1
      obtain ⟨rest, rfl⟩ := List.head?_eq_some_iff.mp hm
      exact ⟨ts, by simp, by simpa using hstarts, by simpa using hblocked⟩
  · rintro ⟨ts, hk, hstarts, hblocked⟩
    have hread := read_of_blocked hstarts hblocked
    rwa [List.take_append_drop, List.length_take_of_le hk.le] at hread

theorem read_eq_textEnd_iff : read s = .error .textEnd ↔ ∃ ts, Lexes [] s ts ∧ ∀ n, ¬ Sentence ts n := by
  constructor
  · intro h
    rcases read_cases s with ⟨n, hok⟩ | ⟨ts, hlex, hnone, -⟩ | ⟨p, ts, rest, -, -, -, hstop⟩
    · exact nomatch h.symm.trans hok
    · exact ⟨ts, hlex, hnone⟩
    · exact nomatch h.symm.trans hstop
  · rintro ⟨ts, hlex, hnone⟩
    exact read_of_not_sentence hlex hnone

variable {text : LooseText} {stop : Stop}

theorem parse_eq_error {e : Fault} : parse text = .error e ↔
    text.strip.marks ≠ [] ∧ ∃ stop, read text.strip.marks = .error stop ∧ e = .unreadable text.strip stop := by
  by_cases hblank : text.strip.marks = []
  · rw [parse_of_blank hblank]
    simp [hblank]
  · rw [parse_of_not_blank hblank]
    cases read text.strip.marks <;> simp [Except.mapError, Except.map, hblank, eq_comm]

theorem parse_eq_unreadable : parse text = .error (.unreadable text.strip stop) ↔
    text.strip.marks ≠ [] ∧ read text.strip.marks = .error stop := by
  rw [parse_eq_error]
  simp

/-- What a stripped text starts with can be gone on with. -/
theorem viable_of_starts {rest' : List Mark} (h : Starts [] s ts rest) (hs : text.strip.marks = s ++ rest') :
    ∃ u us n, Lexes [] (s ++ u) (ts ++ us) ∧ parse ⟨s ++ u⟩ = .ok n := by
  refine h.completes fun m hm => ?_
  obtain ⟨tail, rfl⟩ := List.head?_eq_some_iff.mp hm
  exact LooseText.not_blank_of_strip hs

/-- **A text that is no expression is good up to the place that is reported.**  Every error names a place in
the stripped text.  It is an offset just if complete tokens and separators stand before it and none that could
follow stands there, and the end just if complete tokens that are no expression are all there is.  What stands
before the place is the start of a text that is read, with the same tokens. -/
theorem stop_viable (text : LooseText) :
    ((∃ e, parse text = .error e) ↔ ∃ stop, parse text = .error (.unreadable text.strip stop)) ∧
    (∀ k, parse text = .error (.unreadable text.strip (.offset k)) ↔ k < text.strip.marks.length ∧
      ∃ ts, Starts [] (text.strip.marks.take k) ts (text.strip.marks.drop k) ∧
        Blocked ts (text.strip.marks.drop k) ∧
        ∃ u us n, Lexes [] (text.strip.marks.take k ++ u) (ts ++ us) ∧
          parse ⟨text.strip.marks.take k ++ u⟩ = .ok n) ∧
    (parse text = .error (.unreadable text.strip .textEnd) ↔ text.strip.marks ≠ [] ∧
      ∃ ts, Lexes [] text.strip.marks ts ∧ (∀ n, ¬ Sentence ts n) ∧
        ∃ u us n, Lexes [] (text.strip.marks ++ u) (ts ++ us) ∧ parse ⟨text.strip.marks ++ u⟩ = .ok n) := by
  refine ⟨?_, fun k => ?_, ?_⟩
  · constructor
    · rintro ⟨e, he⟩
      obtain ⟨-, stop, -, rfl⟩ := parse_eq_error.mp he
      exact ⟨stop, he⟩
    · rintro ⟨stop, hstop⟩
      exact ⟨_, hstop⟩
  · rw [parse_eq_unreadable, read_eq_offset_iff]
    constructor
    · rintro ⟨-, ts, hk, hstarts, hblocked⟩
      exact ⟨hk, ts, hstarts, hblocked, viable_of_starts hstarts (List.take_append_drop k _).symm⟩
    · rintro ⟨hk, ts, hstarts, hblocked, -⟩
      exact ⟨List.ne_nil_of_length_pos (by omega), ts, hk, hstarts, hblocked⟩
  · rw [parse_eq_unreadable, read_eq_textEnd_iff]
    constructor
    · rintro ⟨hne, ts, hlex, hnone⟩
      exact ⟨hne, ts, hlex, hnone, viable_of_starts (starts_iff_lexes.mpr hlex) (List.append_nil _).symm⟩
    · rintro ⟨hne, ts, hlex, hnone, -⟩
      exact ⟨hne, ts, hlex, hnone⟩

/-- A parenthesis that closes nothing is where the text goes wrong. -/
example : parse " a = 1 or b < 2)" = .error (.unreadable "a = 1 or b < 2)" (.offset 14)) := by cbv

end Expression
end FieldFilter
