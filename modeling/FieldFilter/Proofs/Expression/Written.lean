import FieldFilter.Filter.Render
import FieldFilter.Proofs.Expression.Parse

/-!
# FieldFilter.Proofs.Expression.Written — texts that scan alike wherever they stand

`Written slot s ts slot'` says that the text `s` has the tokens `ts` whatever follows it, as long as a space,
a closing parenthesis or nothing follows.  Such texts can be put together (`Written.append`), and every piece
that a rendering is made of is one: names, operators, values with or without quotes, combinators and
parentheses.
-/

namespace FieldFilter

namespace Token

/-- The tokens of a text without their places, and where a scan is stuck. -/
def split (slot : Slot) (s : List Mark) : List Token × Option Nat :=
  ((scan slot s).1.map Prod.snd, (scan slot s).2)

variable {s w rest : List Mark} {m : Mark} {t : Token} {slot : Slot}

theorem split_nil : split slot [] = ([], none) := by
  have hempty : Separators [] := by simp [Separators]
  rw [split, scan_gap hempty]
  rfl

theorem split_token (h : Longest slot t w rest) :
    split slot (w ++ rest) = (t :: (split t.slotAfter rest).1, (split t.slotAfter rest).2) := by
  have hempty : Separators [] := by simp [Separators]
  have hscan := scan_token hempty h
  rw [List.nil_append] at hscan
  rw [split, hscan]
  rfl

theorem split_separator (hm : m.is isSeparator = true) : split slot (m :: s) = split slot s := by
  have hscan : scan slot (m :: s) = scan slot s := by
    rw [scan_eq, scan_eq slot s, List.dropWhile_cons_of_pos hm]
  rw [split, split, hscan]

end Token

/-- A space, a closing parenthesis or nothing follows. -/
def Closed (rest : List Mark) : Prop := ∀ m ∈ rest.head?, m = ' ' ∨ m = ')'

/-- In this slot the text has these tokens, and the other slot comes after them. -/
def Written (slot : Slot) (s : List Mark) (ts : List Token) (slot' : Slot) : Prop :=
  ∀ rest, Closed rest →
    Token.split slot (s ++ rest) = (ts ++ (Token.split slot' rest).1, (Token.split slot' rest).2)

variable {s u w rest : List Mark} {m : Mark} {t : Token} {ts us : List Token} {slot slot' mid : Slot}

theorem closed_nil : Closed [] := by simp [Closed]

theorem closed_cons (hm : m = ' ' ∨ m = ')') : Closed (m :: rest) := by simpa [Closed] using hm

theorem Closed.append (hu : Closed u) (hrest : Closed rest) : Closed (u ++ rest) := by
  cases u with
  | nil => exact hrest
  | cons m u => exact closed_cons (hu m rfl)

namespace Written

theorem token (h : ∀ rest, Closed rest → Token.Longest slot t w rest) : Written slot w [t] t.slotAfter :=
  fun rest hrest => Token.split_token (h rest hrest)

theorem append_closed (h : Written slot s ts mid) (h' : Written mid u us slot') (hu : Closed u) :
    Written slot (s ++ u) (ts ++ us) slot' := by
  intro rest hrest
  rw [List.append_assoc, h _ (hu.append hrest), h' rest hrest, List.append_assoc]

theorem append (h : Written slot s ts mid) (h' : Written mid (m :: u) us slot') (hm : m = ' ' ∨ m = ')') :
    Written slot (s ++ m :: u) (ts ++ us) slot' :=
  h.append_closed h' (closed_cons hm)

/-- A space before a text changes nothing. -/
theorem space (h : Written slot s ts slot') : Written slot (' ' :: s) ts slot' := by
  intro rest hrest
  rw [List.cons_append, Token.split_separator (by decide)]
  exact h rest hrest

/-- A token that is complete whatever follows it. -/
theorem before (h : ∀ rest, Token.Longest slot t w rest) (h' : Written t.slotAfter s ts slot') :
    Written slot (w ++ s) (t :: ts) slot' := by
  intro rest hrest
  rw [List.append_assoc, Token.split_token (h _), h' rest hrest]
  rfl

theorem parentheses (h : Written .operand s ts .joint) :
    Written .operand (.char '(' :: s ++ [.char ')']) (.opening :: ts ++ [.closing]) .joint := by
  have hclose : Written .joint [.char ')'] [.closing] .joint :=
    token fun _ _ => Token.Spells.closing.longest_of_width rfl
  exact before (w := [.char '(']) (fun _ => Token.Spells.opening.longest_of_width rfl) (h.append hclose (.inr rfl))

/-- A text that is written ends where it ends. -/
theorem split_eq (h : Written slot s ts slot') : Token.split slot s = (ts, none) := by
  have hend := h [] closed_nil
  rwa [List.append_nil, Token.split_nil, List.append_nil] at hend

end Written

/-! ### The pieces of a rendering -/

theorem takeWhile_of_stop {p : Mark → Bool} (hw : ∀ x ∈ w, p x = true) (hrest : ∀ m ∈ rest.head?, p m = false) :
    (w ++ rest).takeWhile p = w ∧ (w ++ rest).dropWhile p = rest := by
  rw [List.takeWhile_append_of_pos hw, List.dropWhile_append_of_pos hw]
  cases rest with
  | nil => exact ⟨List.append_nil w, rfl⟩
  | cons m rest => simp [hrest m rfl]

theorem Closed.stops {p : Mark → Bool} (hspace : p ' ' = false) (hclose : p ')' = false) (hrest : Closed rest) :
    ∀ m ∈ rest.head?, p m = false := by
  intro m hm
  rcases hrest m hm with rfl | rfl
  · exact hspace
  · exact hclose

theorem takeWhile_of_closed {p : Mark → Bool} (hw : ∀ x ∈ w, p x = true) (hspace : p ' ' = false)
    (hclose : p ')' = false) (hrest : Closed rest) :
    (w ++ rest).takeWhile p = w ∧ (w ++ rest).dropWhile p = rest :=
  takeWhile_of_stop hw (hrest.stops hspace hclose)

/-- The name can be typed as a field. -/
def isFieldName (name : LooseText) : Bool :=
  match name.marks with
  | [] => false
  | m :: w => m.is Token.isFieldStart && w.all (Mark.is Token.isFieldChar)

theorem isFieldName_iff {name : LooseText} : isFieldName name = true ↔
    ∃ m w, name.marks = m :: w ∧ m.is Token.isFieldStart = true ∧ ∀ x ∈ w, x.is Token.isFieldChar = true := by
  unfold isFieldName
  split
  · next hnil => simp [hnil]
  · next hcons => simp [hcons]

theorem written_field {name : LooseText} (h : isFieldName name = true) :
    Written .operand name.marks [.field name] .operator := by
  obtain ⟨m, w, hname, hm, hw⟩ := isFieldName_iff.mp h
  obtain ⟨marks⟩ := name
  cases hname
  refine Written.token fun rest hrest => ?_
  obtain ⟨htake, hdrop⟩ := takeWhile_of_closed hw (by decide) (by decide) hrest
  have hlong := Token.longest_field (s := w ++ rest) hm
  rwa [htake, hdrop] at hlong

theorem operator?_word (op : Operator) (hrest : Closed rest) :
    Token.operator? (op.word.toList.map .char ++ rest) = some (op.word.toList, rest) := by
  cases rest with
  | nil => cases op <;> rfl
  | cons m rest =>
    rcases hrest m rfl with rfl | rfl <;> cases op <;> rfl

theorem lower_word (op : Operator) : Text.lower op.word = op.word := by
  cases op <;> rfl

theorem written_operator (op : Operator) :
    Written .operator (op.word : LooseText).marks [.operator op.word] .value := by
  refine Written.token fun rest hrest => ?_
  have hlong := Token.longest_operator (operator?_word op hrest)
  rwa [String.ofList_toList, lower_word] at hlong

/-- The marks of a value with escapes stand for the value. -/
theorem unescapes_escape (v : List Mark) : Token.Unescapes (Render.escape v) v := by
  induction v with
  | nil => exact .nil
  | cons m v ih =>
    rw [Render.escape]
    split
    · next hm =>
      refine .escaped ?_ ih
      rcases hm with rfl | rfl <;> decide
    · next hm =>
      rw [not_or] at hm
      exact .plain hm.2 hm.1 ih

/-- A value that is rendered without quotes is one that can be typed without them. -/
theorem isBare_of_render {v : LooseText} (h : Render.isBare v = true) :
    v.marks ≠ [] ∧ ∀ x ∈ v.marks, Token.isBare x = true := by
  simp only [Render.isBare, LooseText.isEmpty, Bool.and_eq_true, Bool.not_eq_true', List.isEmpty_eq_false_iff,
    List.any_eq_false] at h
  obtain ⟨⟨hne, -⟩, hall⟩ := h
  refine ⟨hne, fun x hx => ?_⟩
  have hx := hall x hx
  cases x with
  | half => rfl
  | char c =>
    simp only [Mark.is, Render.isDelimiter, Bool.or_eq_true, not_or, Bool.not_eq_true] at hx
    simp [Token.isBare, Mark.is, Token.endsBare, hx]

theorem written_value (v : LooseText) : Written .value (Render.value v).marks [.value v] .joint := by
  refine Written.token fun rest hrest => ?_
  rw [Render.value]
  split
  · next hbare =>
    obtain ⟨hne, hall⟩ := isBare_of_render hbare
    obtain ⟨marks⟩ := v
    obtain ⟨m, w, rfl⟩ := List.exists_cons_of_ne_nil hne
    have hw : ∀ x ∈ w, Token.isBare x = true := fun x hx => hall x (List.mem_cons_of_mem _ hx)
    obtain ⟨htake, hdrop⟩ := takeWhile_of_closed hw (by decide) (by decide) hrest
    have hlong := Token.longest_bare (s := w ++ rest) (hall m List.mem_cons_self)
    rwa [htake, hdrop] at hlong
  · exact Token.longest_quoted (unescapes_escape v.marks)

/-- The token of a combinator. -/
def Combinator.token : Combinator → Token
  | and => .and
  | or => .or

theorem endsWord_of_closed (hrest : Closed rest) : Token.endsWord rest = true := by
  cases rest with
  | nil => rfl
  | cons m rest => rcases hrest m rfl with rfl | rfl <;> rfl

theorem written_combinator (c : Combinator) :
    Written .joint (c.word : LooseText).marks [c.token] .operand := by
  cases c with
  | and =>
    have hword : Token.Caseless ['a', 'n', 'd'] ['a', 'n', 'd'] :=
      .cons (by decide) (.cons (by decide) (.cons (by decide) .nil))
    exact Written.token fun rest hrest =>
      (Token.Spells.and hword (endsWord_of_closed hrest)).longest_of_width rfl
  | or =>
    have hword : Token.Caseless ['o', 'r'] ['o', 'r'] := .cons (by decide) (.cons (by decide) .nil)
    exact Written.token fun rest hrest =>
      (Token.Spells.or hword (endsWord_of_closed hrest)).longest_of_width rfl

/-- A name, an operator and a value with spaces between them are a condition. -/
theorem Written.condition {name word : LooseText} (hfield : isFieldName name = true)
    (hoperator : Written .operator w [.operator word] .value) (v : LooseText) :
    Written .operand (name.marks ++ .char ' ' :: (w ++ .char ' ' :: (Render.value v).marks))
      [.field name, .operator word, .value v] .joint :=
  (written_field hfield).append (hoperator.append (written_value v).space (.inl rfl)).space (.inl rfl)

theorem written_condition {c : Condition} {op : Operator} (hfield : isFieldName c.field = true)
    (hop : c.operator = op.word) :
    Written .operand c.render.marks [.field c.field, .operator c.operator, .value c.value] .joint := by
  have hall := Written.condition hfield (written_operator op) c.value
  rw [hop]
  simpa [Condition.render, hop] using hall

end FieldFilter
