import FieldFilter.Text.Loose
import Mathlib.Data.List.DropRight
import Mathlib.Data.List.Induction

/-!
# FieldFilter.Proofs.Text.Loose — pieces and characters of a text

* What a text is split into stands in it (`mem_of_mem_piece`), and pieces are got back from the text that is
  made of them (`splitOn_intercalate`).
* Marks before the first place to split at belong to the first piece (`splitOn_front`), and stay where they
  are when later pieces change (`intercalate_front`).
* The characters of a text that is whole are its marks (`toList_of_whole`).
* A text that is stripped starts with no white space (`not_blank_of_strip`), and to strip it again changes
  nothing.
-/

namespace FieldFilter.Text

/-- Nothing is left to take away at the start of what is trimmed. -/
theorem dropWhile_trim {α : Type} (p : α → Bool) (l : List α) : (trim p l).dropWhile p = trim p l := by
  rw [List.dropWhile_eq_self_iff]
  intro hpos
  have hstart : trim p l <+: l.dropWhile p := List.rdropWhile_prefix p _
  rw [hstart.getElem hpos]
  exact List.dropWhile_get_zero_not p l (hstart.length_le.trans_lt' hpos)

theorem trim_trim {α : Type} (p : α → Bool) (l : List α) : trim p (trim p l) = trim p l :=
  calc trim p (trim p l) = (trim p l).rdropWhile p := by rw [trim, dropWhile_trim, List.rdropWhile]
    _ = trim p l := List.rdropWhile_idempotent p _

end FieldFilter.Text

namespace FieldFilter.LooseText

variable {c : Char} {m : Mark} {t piece : LooseText} {texts rest : List LooseText} {front : List Mark}

/-! ### Stripped texts -/

@[simp] theorem strip_strip (t : LooseText) : t.strip.strip = t.strip :=
  congrArg LooseText.mk (Text.trim_trim _ t.marks)

theorem not_blank_of_strip {ms : List Mark} (h : t.strip.marks = m :: ms) : m.is Text.isBlank = false := by
  have hself : (m :: ms).dropWhile (Mark.is Text.isBlank) = m :: ms := h ▸ Text.dropWhile_trim _ t.marks
  simpa using List.dropWhile_eq_self_iff.mp hself (Nat.succ_pos _)

/-! ### Pieces -/

private theorem mem_of_mem_splitOn {a x : Mark} {xs l : List Mark} (hl : l ∈ xs.splitOn a) (hx : x ∈ l) :
    x ∈ xs ∧ x ≠ a := by
  induction xs generalizing l with
  | nil => simp_all
  | cons y ys ih =>
    rw [List.splitOn_cons_eq_if_modifyHead] at hl
    obtain ⟨first, others, hsplit⟩ := List.exists_cons_of_ne_nil (List.splitOn_ne_nil a ys)
    rw [hsplit] at hl ih
    by_cases hy : y = a
    · grind
    · simp only [beq_iff_eq, hy, if_false, List.modifyHead_cons, List.mem_cons] at hl
      grind

/-- What stands in a piece of a text stands in the text, and is not what the text was split at. -/
theorem mem_of_mem_piece (hpiece : piece ∈ t.splitOn c) (hm : m ∈ piece.marks) :
    m ∈ t.marks ∧ m ≠ .char c := by
  obtain ⟨l, hl, rfl⟩ := List.mem_map.mp hpiece
  exact mem_of_mem_splitOn hl hm

/-- Texts that do not hold a character are the pieces of the text made of them with that character between
them. -/
theorem splitOn_intercalate (h : ∀ t ∈ texts, .char c ∉ t.marks) (hne : texts ≠ []) :
    (⟨[.char c].intercalate (texts.map marks)⟩ : LooseText).splitOn c = texts := by
  have hmarks : ∀ l ∈ texts.map LooseText.marks, Mark.char c ∉ l := by simpa using h
  simp [splitOn, List.splitOn_intercalate _ hmarks (by simpa using hne), Function.comp_def]

/-- The first piece of a text starts with what stands before the first place to split at. -/
theorem splitOn_front {a : Mark} (hfront : a ∉ front) (marks : List Mark) : ∃ piece more,
    marks.splitOn a = piece :: more ∧ (front ++ marks).splitOn a = (front ++ piece) :: more := by
  obtain ⟨piece, more, hmarks⟩ := List.exists_cons_of_ne_nil (List.splitOn_ne_nil a marks)
  refine ⟨piece, more, hmarks, ?_⟩
  induction front with
  | nil => exact hmarks
  | cons m front ih =>
    obtain ⟨hm, hrest⟩ := not_or.mp (mt List.mem_cons.mpr hfront)
    have hne : ¬ (m == a) = true := by simpa using fun e => hm e.symm
    rw [List.cons_append, List.splitOn_cons_eq_if_modifyHead, ih hrest, if_neg hne]
    rfl

/-- Where the first piece is made longer at its front and pieces remain, the mark after that front stays. -/
theorem intercalate_front {a : Mark} (front : List Mark) {piece back : List Mark}
    {more more' : List (List Mark)}
    (h : [a].intercalate (piece :: more) = m :: back) (hmore : more' = [] → more = []) :
    ∃ back', [a].intercalate ((front ++ piece) :: more') = front ++ m :: back' := by
  cases piece with
  | nil =>
    obtain ⟨next, others, rfl⟩ : ∃ next others, more = next :: others := by
      refine List.exists_cons_of_ne_nil ?_
      rintro rfl
      simp at h
    obtain ⟨next', others', rfl⟩ := List.exists_cons_of_ne_nil (l := more') (by simpa using hmore)
    simp only [List.intercalate_cons_cons, List.nil_append, List.singleton_append, List.cons.injEq] at h
    obtain ⟨rfl, -⟩ := h
    exact ⟨[a].intercalate (next' :: others'), by simp [List.intercalate_cons_cons]⟩
  | cons m' piece =>
    obtain rfl : m' = m := by cases more <;> simp_all [List.intercalate_cons_cons]
    cases more' with
    | nil => exact ⟨piece, by simp⟩
    | cons next' others' =>
      exact ⟨piece ++ a :: [a].intercalate (next' :: others'), by simp [List.intercalate_cons_cons]⟩

/-! ### Texts between others -/

/-- What stands in a text between others. -/
theorem mem_intercalate (between : LooseText) :
    m ∈ (intercalate between texts).marks → m ∈ between.marks ∨ ∃ t ∈ texts, m ∈ t.marks := by
  intro h
  induction texts with
  | nil => simp [intercalate] at h
  | cons t rest ih =>
    cases rest with
    | nil => simp_all [intercalate]
    | cons t' rest =>
      simp only [intercalate, List.map_cons, List.intercalate_cons_cons, List.mem_append] at h ih
      grind

theorem mem_intercalate_of_mem (between : LooseText) (ht : t ∈ texts) (hm : m ∈ t.marks) :
    m ∈ (intercalate between texts).marks := by
  induction texts with
  | nil => simp at ht
  | cons t' rest ih =>
    cases rest with
    | nil => simp_all [intercalate]
    | cons t'' rest =>
      simp only [intercalate, List.map_cons, List.intercalate_cons_cons, List.mem_append] at ih ⊢
      grind

theorem marks_intercalate_cons (between line : LooseText) (hrest : rest ≠ []) :
    (intercalate between (line :: rest)).marks =
      line.marks ++ between.marks ++ (intercalate between rest).marks := by
  obtain ⟨next, others, rfl⟩ := List.exists_cons_of_ne_nil hrest
  simp [intercalate, List.intercalate_cons_cons]

theorem marks_concat (texts : List LooseText) : (intercalate "" texts).marks = texts.flatMap marks := by
  induction texts with
  | nil => rfl
  | cons t rest ih =>
    cases rest with
    | nil => simp [intercalate]
    | cons t' rest => rw [marks_intercalate_cons _ _ (by simp), ih]; simp

/-- A text made of others starts with the first of them. -/
theorem exists_intercalate_cons (between line : LooseText) (rest : List LooseText) :
    ∃ more, (intercalate between (line :: rest)).marks = line.marks ++ more := by
  by_cases hrest : rest = []
  · exact ⟨[], by simp [hrest, intercalate]⟩
  · exact ⟨_, by rw [marks_intercalate_cons between line hrest, List.append_assoc]⟩

private theorem map_intercalate {α β : Type} (f : α → β) (between : List α) (pieces : List (List α)) :
    (between.intercalate pieces).map f = (between.map f).intercalate (pieces.map (List.map f)) := by
  induction pieces with
  | nil => rfl
  | cons piece rest ih => cases rest <;> simp_all [List.intercalate_cons_cons]

theorem ofString_intercalate (between : String) (lines : List String) :
    ofString (between.intercalate lines) = intercalate between (lines.map ofString) := by
  simp [ofString, intercalate, map_intercalate, Function.comp_def]

/-! ### Whole texts -/

private theorem mapM_char?_eq_some {marks : List Mark} {chars : List Char}
    (h : marks.mapM Mark.char? = some chars) :
    marks = chars.map .char := by
  induction marks generalizing chars with
  | nil => simpa using h.symm
  | cons m marks ih =>
    rw [List.mapM_cons] at h
    cases m with
    | half _ => simp [Mark.char?] at h
    | char c =>
      cases hrest : marks.mapM Mark.char? with
      | none => simp [Mark.char?, hrest] at h
      | some rest =>
        obtain rfl : c :: rest = chars := by simpa [Mark.char?, hrest] using h
        rw [ih hrest]
        rfl

theorem escaped_ofString (s : String) : (ofString s).escaped = s := by
  simp [escaped, List.flatMap_map]

theorem whole?_eq_some {s : String} : t.whole? = some s ↔ t = ofString s := by
  constructor
  · intro h
    obtain ⟨chars, hchars, rfl⟩ := Option.map_eq_some_iff.mp h
    obtain ⟨marks⟩ := t
    obtain rfl : marks = chars.map .char := mapM_char?_eq_some hchars
    simp [ofString]
  · rintro rfl
    exact whole?_ofString s

theorem ofString_inj {s s' : String} : ofString s = ofString s' ↔ s = s' := by
  rw [← whole?_eq_some, whole?_ofString, Option.some.injEq]

/-- The text is made of characters alone. -/
def Whole (t : LooseText) : Prop := ∃ s, t = ofString s

theorem whole_iff : t.Whole ↔ ∀ m ∈ t.marks, ∃ c, m = .char c := by
  constructor
  · rintro ⟨s, rfl⟩ m hm
    obtain ⟨c, -, rfl⟩ := List.mem_map.mp hm
    exact ⟨c, rfl⟩
  · intro h
    obtain ⟨marks⟩ := t
    induction marks with
    | nil => exact ⟨"", rfl⟩
    | cons m marks ih =>
      obtain ⟨⟨c, rfl⟩, hmarks⟩ := List.forall_mem_cons.mp h
      obtain ⟨s, hs⟩ := ih hmarks
      exact ⟨String.ofList (c :: s.toList), by simp_all [ofString]⟩

theorem exists_map_ofString (h : ∀ t ∈ texts, t.Whole) : ∃ ss : List String, texts = ss.map ofString := by
  induction texts with
  | nil => exact ⟨[], rfl⟩
  | cons t texts ih =>
    obtain ⟨⟨s, rfl⟩, hrest⟩ := List.forall_mem_cons.mp h
    obtain ⟨ss, rfl⟩ := ih hrest
    exact ⟨s :: ss, rfl⟩

/-- The characters of a whole text, the first of which are known. -/
theorem toList_of_whole {text : String} {cs : List Char} {marks : List Mark} (h : t.whole? = some text)
    (ht : t.marks = cs.map .char ++ marks) : ∃ rest, text.toList = cs ++ rest ∧ marks = rest.map .char := by
  obtain ⟨chars, hchars, rfl⟩ := Option.map_eq_some_iff.mp h
  have hmarks : t.marks = chars.map .char := mapM_char?_eq_some hchars
  obtain ⟨front, rest, rfl, hfront, rfl⟩ := List.map_eq_append_iff.mp (hmarks.symm.trans ht)
  have hcs : front = cs := (List.map_inj_right fun _ _ => Mark.char.inj).mp hfront
  exact ⟨rest, by simp [hcs], rfl⟩

end FieldFilter.LooseText
