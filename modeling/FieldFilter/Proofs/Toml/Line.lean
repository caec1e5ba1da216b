import FieldFilter.Proofs.Attempt
import FieldFilter.Toml.Document

/-!
# FieldFilter.Proofs.Toml.Line — documents line by line

One equation for each kind of line: lines that say nothing, headers, and assignments to a bare key.  What
spells a datum does so whatever follows it (`Spells`).  A text between single quotes is read as it stands if
it is `Literal`; where a control character comes before the closing quote, nothing is read (`plain_control`).

From the front of a document (`Opens`), which is put together line by line, one learns the first statements of the
whole: what is read is the front if there is no more (`Opens.read`), and where a literal ends early what stands before
its end is read all the same (`Opens.ofStatements_of_read`).
-/

namespace FieldFilter.Toml

variable {c : Char} {cs body line rest : List Char} {lines : List (List Char)} {k : String}

/-! ### Strings -/

/-- The characters can stand between single quotes on one line. -/
def Literal (cs : List Char) : Prop := ∀ c ∈ cs, c ≠ '\'' ∧ isControl c = false

-- Characters are finite, so instances found by themselves may try them all.
instance (cs : List Char) : Decidable (Literal cs) :=
  decidable_of_iff (cs.all (fun c => c != '\'' && !isControl c) = true) (by simp [Literal])

theorem literal?_quote (h : Literal cs) (rest : List Char) :
    literal? (cs ++ '\'' :: rest) = some (cs, rest) := by
  induction cs with
  | nil => simp [literal?]
  | cons c cs ih =>
    obtain ⟨⟨hquote, hcontrol⟩, hcs⟩ := List.forall_mem_cons.mp h
    simp [literal?, hquote, hcontrol, ih hcs, prepend]

theorem literal?_control (h : Literal cs) (hc : isControl c = true) (rest : List Char) :
    literal? (cs ++ c :: rest) = none := by
  induction cs with
  | nil =>
    have hquote : c ≠ '\'' := fun e => absurd hc (by rw [e]; decide)
    simp [literal?, hquote, hc]
  | cons c' cs ih =>
    obtain ⟨⟨hquote, hcontrol⟩, hcs⟩ := List.forall_mem_cons.mp h
    simp [literal?, hquote, hcontrol, ih hcs, prepend]

/-- The characters can stand between double quotes on one line without escapes. -/
def Plain (cs : List Char) : Prop := ∀ c ∈ cs, c ≠ '"' ∧ c ≠ '\\' ∧ isControl c = false

instance (cs : List Char) : Decidable (Plain cs) :=
  decidable_of_iff (cs.all (fun c => c != '"' && (c != '\\' && !isControl c)) = true) (by simp [Plain])

theorem basic?_quote (h : Plain cs) (rest : List Char) :
    basic? false .off (cs ++ '"' :: rest) = some (cs, rest) := by
  induction cs with
  | nil =>
    rw [List.nil_append, basic?.eq_def]
    simp
  | cons c cs ih =>
    obtain ⟨⟨hquote, hescape, hcontrol⟩, hcs⟩ := List.forall_mem_cons.mp h
    rw [List.cons_append, basic?.eq_def]
    simp [hquote, hescape, hcontrol, ih hcs, prepend]

/-! ### Keys -/

/-- The key stands without quotes. -/
def Bare (k : String) : Prop := k.toList ≠ [] ∧ ∀ c ∈ k.toList, isBareKeyChar c = true

instance (k : String) : Decidable (Bare k) :=
  decidable_of_iff ((!k.toList.isEmpty && k.toList.all isBareKeyChar) = true) (by simp [Bare])

/-- The characters of a key decide on it; those of a literal need not be decoded first. -/
theorem bare_ofList {cs : List Char} (hne : cs ≠ []) (h : cs.all isBareKeyChar = true) : Bare (String.ofList cs) := by
  rw [Bare, String.toList_ofList]
  exact ⟨hne, List.all_eq_true.mp h⟩

namespace Bare

variable (hk : Bare k)
include hk

/-- The first character of a bare key. -/
theorem exists_cons : ∃ c cs, k.toList = c :: cs ∧ isBareKeyChar c = true := by
  obtain ⟨c, cs, hcons⟩ := List.exists_cons_of_ne_nil hk.1
  exact ⟨c, cs, hcons, hk.2 c (by simp [hcons])⟩

theorem keyPart (hrest : ∀ c ∈ rest.head?, isBareKeyChar c = false) :
    Toml.keyPart (k.toList ++ rest) = .ok (k, rest) := by
  have htake : (k.toList ++ rest).takeWhile isBareKeyChar = k.toList := by
    rw [List.takeWhile_append_of_pos hk.2]
    cases rest <;> simp_all
  have hdrop : (k.toList ++ rest).dropWhile isBareKeyChar = rest := by
    rw [List.dropWhile_append_of_pos hk.2]
    cases rest <;> simp_all
  obtain ⟨c, cs, hcons, hc⟩ := hk.exists_cons
  have hquote : c ≠ '\'' ∧ c ≠ '"' := by constructor <;> rintro rfl <;> exact absurd hc (by decide)
  have hkey : String.ofList (c :: cs) = k := by rw [← hcons, String.ofList_toList]
  rw [hcons] at htake hdrop ⊢
  simp only [List.cons_append] at htake hdrop ⊢
  unfold Toml.keyPart
  split
  · simp_all
  · simp_all
  · rw [htake, hdrop]
    simp only [hkey]

theorem key (hrest : ∀ c ∈ rest.head?, isBareKeyChar c = false)
    (hpoint : ∀ c ∈ (skipSpace rest).head?, c ≠ '.') :
    Toml.key (k.toList ++ rest) = .ok ([k], skipSpace rest) := by
  rw [Toml.key, keyParts, hk.keyPart hrest]
  simp only [bind, Except.bind]
  split
  · simp_all
  · rfl

end Bare

theorem Document.read_eq_ok {text : String} {t : Table} : Document.read text = .ok t ↔
    ∃ statements, Statement.read text = (statements, none) ∧ Document.ofStatements statements = .ok t := by
  rw [Document.read]
  obtain ⟨statements, fault⟩ := Statement.read text
  constructor
  · intro h
    obtain ⟨table, htable, h⟩ := bind_eq_ok.mp h
    cases fault with
    | none =>
      cases h
      exact ⟨statements, rfl, htable⟩
    | some e => cases h
  · rintro ⟨_, hread, htable⟩
    cases hread
    exact bind_eq_ok.mpr ⟨t, htable, rfl⟩

namespace Statement

variable {fuel : Nat} {s v : List Char} {statement : Statement} {e : DecodeFault} {d : Datum}

/-! ### Values -/

/-- A single quote that is not the first of three opens a text without escapes. -/
theorem plain_single (hopen : ∀ left, s ≠ '\'' :: '\'' :: left) :
    plain ('\'' :: s) = ofChars? (literal? s) >>= fun part => .ok (.text part.1, part.2) := by
  unfold plain
  split
  · simp_all
  · simp_all
  · next left heq => exact absurd (List.cons.inj heq).2 (hopen left)
  · next heq =>
    obtain rfl := (List.cons.inj heq).2
    rfl
  all_goals simp_all

/-- A double quote that is not the first of three opens a text with escapes. -/
theorem plain_double (hopen : ∀ left, s ≠ '"' :: '"' :: left) :
    plain ('"' :: s) = ofChars? (basic? false .off s) >>= fun part => .ok (.text part.1, part.2) := by
  unfold plain
  split
  · next left heq => exact absurd (List.cons.inj heq).2 (hopen left)
  · next heq =>
    obtain rfl := (List.cons.inj heq).2
    rfl
  all_goals simp_all

theorem plain_literal (h : Literal cs) (hne : cs ≠ []) (rest : List Char) :
    plain ('\'' :: (cs ++ '\'' :: rest)) = .ok (.text (String.ofList cs), rest) := by
  obtain ⟨c, cs, rfl⟩ := List.exists_cons_of_ne_nil hne
  have hc : c ≠ '\'' := (h c List.mem_cons_self).1
  rw [plain_single (by simp [hc]), literal?_quote h rest]
  rfl

theorem plain_control (h : Literal cs) (hne : cs ≠ []) (hc : isControl c = true) (rest : List Char) :
    plain ('\'' :: (cs ++ c :: rest)) = .error .malformed := by
  obtain ⟨c', cs, rfl⟩ := List.exists_cons_of_ne_nil hne
  have hc' : c' ≠ '\'' := (h c' List.mem_cons_self).1
  rw [plain_single (by simp [hc']), literal?_control h hc rest]
  rfl

theorem plain_basic (h : Plain cs) (hne : cs ≠ []) (rest : List Char) :
    plain ('"' :: (cs ++ '"' :: rest)) = .ok (.text (String.ofList cs), rest) := by
  obtain ⟨c, cs, rfl⟩ := List.exists_cons_of_ne_nil hne
  have hc : c ≠ '"' := (h c List.mem_cons_self).1
  rw [plain_double (by simp [hc]), basic?_quote h rest]
  rfl

/-- The characters spell a datum, whatever follows them. -/
structure Spells (v : List Char) (d : Datum) : Prop where
  value : ∀ fuel rest, v.length ≤ fuel → value maxNesting (fuel + 1) (v ++ rest) = .ok (d, rest)
  start : ∀ rest, skipSpace (v ++ rest) = v ++ rest
  noReturn : '\r' ∉ v

theorem spells_literal (h : Literal cs) (hne : cs ≠ []) :
    Spells ('\'' :: (cs ++ ['\''])) (.text (String.ofList cs)) where
  value fuel rest _ := by simpa [Statement.value] using plain_literal h hne rest
  start rest := by simp [skipSpace, isSpace]
  noReturn := by simpa using fun hm => absurd (h _ hm).2 (by decide)

theorem spells_basic (h : Plain cs) (hne : cs ≠ []) :
    Spells ('"' :: (cs ++ ['"'])) (.text (String.ofList cs)) where
  value fuel rest _ := by simpa [Statement.value] using plain_basic h hne rest
  start rest := by simp [skipSpace, isSpace]
  noReturn := by simpa using fun hm => absurd (h _ hm).2.2 (by decide)

theorem spells_true : Spells ['t', 'r', 'u', 'e'] (.boolean true) where
  value _ _ _ := rfl
  start _ := rfl
  noReturn := by decide

theorem spells_empty : Spells ['[', ']'] (.array []) where
  value _ _ _ := rfl
  start _ := rfl
  noReturn := by decide

/-! ### Statements -/

/-- Where a statement starts: neither a space nor the end of a line nor a comment. -/
def isStart (c : Char) : Bool := !isSpace c && c != '\n' && c != '#'

theorem isStart_iff : isStart c = true ↔ isSpace c = false ∧ c ≠ '\n' ∧ c ≠ '#' := by
  simp [isStart, and_assoc]

theorem isStart_of_bare (h : isBareKeyChar c = true) : isStart c = true := by
  refine isStart_iff.mpr ⟨?_, ?_, ?_⟩
  · rw [isSpace, Bool.or_eq_false_iff]
    constructor <;> refine beq_false_of_ne ?_ <;> rintro rfl <;> exact absurd h (by decide)
  · rintro rfl
    exact absurd h (by decide)
  · rintro rfl
    exact absurd h (by decide)

theorem next_header (hk : Bare k) (rest : List Char) :
    next ('[' :: (k.toList ++ ']' :: rest)) = .ok (.header [k], rest) := by
  have hread : key (k.toList ++ ']' :: rest) = .ok ([k], ']' :: rest) := by
    have hsign : isBareKeyChar ']' = false := by decide
    exact hk.key (by simp [hsign]) (by simp [skipSpace, isSpace])
  obtain ⟨c, cs, hcons, hc⟩ := hk.exists_cons
  have hbracket : c ≠ '[' := by
    rintro rfl
    exact absurd hc (by decide)
  have hskip : skipSpace (c :: (cs ++ ']' :: rest)) = c :: (cs ++ ']' :: rest) := by
    simp [skipSpace, (isStart_iff.mp (isStart_of_bare hc)).1]
  rw [hcons] at hread ⊢
  simp only [List.cons_append] at hread ⊢
  unfold next
  split
  · simp_all
  · next rest' _ heq =>
    cases heq
    rw [hskip, hread]
    rfl
  · simp_all

/-- What is assigned to a bare key is what follows the sign. -/
theorem next_assignment (hk : Bare k) (hs : skipSpace s = s) :
    next (k.toList ++ ' ' :: '=' :: ' ' :: s) =
      (value maxNesting (2 * (s.length + 1) + 2) s).map fun (d, rest) => (.assignment [k] d, rest) := by
  have hread : key (k.toList ++ ' ' :: '=' :: ' ' :: s) = .ok ([k], '=' :: ' ' :: s) := by
    have hsign : isBareKeyChar ' ' = false := by decide
    exact hk.key (by simp [hsign]) (by simp [skipSpace, isSpace])
  have hskip : skipSpace (' ' :: s) = s := by simpa [skipSpace, isSpace] using hs
  obtain ⟨c, cs, hcons, hc⟩ := hk.exists_cons
  have hbracket : c ≠ '[' := by
    rintro rfl
    exact absurd hc (by decide)
  rw [hcons] at hread ⊢
  simp only [List.cons_append] at hread ⊢
  unfold next
  split
  · simp_all
  · simp_all
  · rw [hread]
    simp only [bind, Except.bind, hskip, List.length_cons]
    cases value maxNesting (2 * (s.length + 1) + 2) s <;> rfl

theorem next_spelled (hk : Bare k) (hv : Spells v d) (rest : List Char) :
    next (k.toList ++ ' ' :: '=' :: ' ' :: (v ++ rest)) = .ok (.assignment [k] d, rest) := by
  rw [next_assignment hk (hv.start rest), hv.value _ _ (by simp; omega)]
  rfl

/-- A control character before the closing quote is the end of reading. -/
theorem next_control (hk : Bare k) (h : Literal cs) (hne : cs ≠ []) (hc : isControl c = true)
    (rest : List Char) :
    next (k.toList ++ ' ' :: '=' :: ' ' :: '\'' :: (cs ++ c :: rest)) = .error .malformed := by
  have hvalue : ∀ fuel, value maxNesting (fuel + 1) ('\'' :: (cs ++ c :: rest)) = .error .malformed := by
    intro fuel
    simpa [value] using plain_control h hne hc rest
  rw [next_assignment hk (by simp [skipSpace, isSpace]), hvalue]
  rfl

/-! ### Lines -/

/-- The text of some lines, each with the break at its end. -/
def ofLines (lines : List (List Char)) : List Char := lines.flatMap (· ++ ['\n'])

theorem ofLines_cons (line : List Char) (lines : List (List Char)) (rest : List Char) :
    ofLines (line :: lines) ++ rest = line ++ '\n' :: (ofLines lines ++ rest) := by
  simp [ofLines]

theorem length_le_ofLines (lines : List (List Char)) : lines.length ≤ (ofLines lines).length := by
  induction lines with
  | nil => simp
  | cons line lines ih => simp [ofLines] at ih ⊢; omega

/-- A line that says nothing: an empty one or a comment. -/
def isIdle : List Char → Bool
  | [] => true
  | '#' :: body => !body.any isControl
  | _ => false

theorem isIdle_cons : isIdle (c :: body) = true ↔ c = '#' ∧ body.any isControl = false := by
  by_cases hc : c = '#'
  · subst hc
    simp [isIdle]
  · simp [isIdle, hc]

theorem isControl_of_mem_idle (h : isIdle line = true) (hc : c ∈ line) : isControl c = false := by
  cases line with
  | nil => simp at hc
  | cons d body =>
    obtain ⟨rfl, hbody⟩ := isIdle_cons.mp h
    obtain rfl | hc := List.mem_cons.mp hc
    · decide
    · simpa using List.any_eq_false.mp hbody c hc

theorem endLine_comment (h : body.any isControl = false) (rest : List Char) :
    endLine ('#' :: (body ++ '\n' :: rest)) = .ok rest := by
  have hline : ∀ c ∈ body, (c != '\n') = true := by
    intro c hc
    refine bne_iff_ne.mpr ?_
    rintro rfl
    have hbreak : isControl '\n' = true := by decide
    exact absurd (List.any_eq_true.mpr ⟨_, hc, hbreak⟩) (by simp [h])
  have htake : (body ++ '\n' :: rest).takeWhile (· != '\n') = body := by
    rw [List.takeWhile_append_of_pos hline]
    simp
  have hdrop : (body ++ '\n' :: rest).dropWhile (· != '\n') = '\n' :: rest := by
    rw [List.dropWhile_append_of_pos hline]
    simp
  have hskip : skipComment ('#' :: (body ++ '\n' :: rest)) = .ok ('\n' :: rest) := by
    simp only [skipComment, htake, h, hdrop]
    rfl
  have hspace : skipSpace ('#' :: (body ++ '\n' :: rest)) = '#' :: (body ++ '\n' :: rest) := by
    simp [skipSpace, isSpace]
  rw [endLine, hspace, hskip]
  rfl

theorem readFrom_idle (h : isIdle line = true) :
    readFrom (fuel + 1) (line ++ '\n' :: rest) = readFrom fuel rest := by
  cases line with
  | nil => simp [readFrom, skipSpace, isSpace]
  | cons c body =>
    obtain ⟨rfl, hbody⟩ := isIdle_cons.mp h
    simp [readFrom, skipSpace, isSpace, endLine_comment hbody rest]

/-- Lines that say nothing are skipped. -/
theorem readFrom_idleLines (h : ∀ line ∈ lines, isIdle line = true) (fuel : Nat) (rest : List Char) :
    readFrom (fuel + lines.length) (ofLines lines ++ rest) = readFrom fuel rest := by
  induction lines with
  | nil => rfl
  | cons line lines ih =>
    obtain ⟨hline, hlines⟩ := List.forall_mem_cons.mp h
    rw [ofLines_cons, List.length_cons, ← Nat.add_assoc, readFrom_idle hline, ih hlines]

theorem endLine_start (hc : isStart c = true) (rest : List Char) :
    endLine (c :: rest) = .error .malformed := by
  obtain ⟨hspace, hbreak, hcomment⟩ := isStart_iff.mp hc
  have hskip : skipSpace (c :: rest) = c :: rest := by simp [skipSpace, hspace]
  have hnone : skipComment (c :: rest) = .ok (c :: rest) := by
    unfold skipComment
    split <;> simp_all
  rw [endLine, hskip, hnone]
  simp only [bind, Except.bind]
  split <;> simp_all [throw, throwThe, MonadExceptOf.throw]

/-- What is read where a statement starts. -/
theorem readFrom_next (hc : isStart c = true) : readFrom (fuel + 1) (c :: s) =
    match next (c :: s) with
    | .error e => ([], some e)
    | .ok (statement, rest) =>
      match endLine rest with
      | .error e => ([statement], some e)
      | .ok rest => (statement :: (readFrom fuel rest).1, (readFrom fuel rest).2) := by
  obtain ⟨hspace, hbreak, hcomment⟩ := isStart_iff.mp hc
  have hskip : skipSpace (c :: s) = c :: s := by simp [skipSpace, hspace]
  rw [readFrom, hskip]
  split
  · simp_all
  · simp_all
  · simp_all
  · rfl

/-- A statement on a line of its own. -/
theorem readFrom_line (hc : isStart c = true) (h : next (c :: s) = .ok (statement, '\n' :: rest)) :
    readFrom (fuel + 1) (c :: s) = (statement :: (readFrom fuel rest).1, (readFrom fuel rest).2) := by
  have hend : endLine ('\n' :: rest) = .ok rest := rfl
  simp only [readFrom_next hc, h, hend]

/-- A statement, whatever comes after it. -/
theorem readFrom_front (hc : isStart c = true) (h : next (c :: s) = .ok (statement, rest)) (fuel : Nat) :
    ∃ more fault, readFrom (fuel + 1) (c :: s) = (statement :: more, fault) := by
  simp only [readFrom_next hc, h]
  cases endLine rest <;> simp

theorem readFrom_broken (hc : isStart c = true) (h : next (c :: s) = .error e) (fuel : Nat) :
    readFrom (fuel + 1) (c :: s) = ([], some e) := by
  simp only [readFrom_next hc, h]

theorem readFrom_header (hk : Bare k) (fuel : Nat) (rest : List Char) :
    readFrom (fuel + 1) ('[' :: (k.toList ++ ']' :: '\n' :: rest)) =
      (.header [k] :: (readFrom fuel rest).1, (readFrom fuel rest).2) :=
  readFrom_line (by decide) (next_header hk _)

theorem readFrom_assignment (hk : Bare k) (hv : Spells v d) (fuel : Nat) (rest : List Char) :
    readFrom (fuel + 1) (k.toList ++ ' ' :: '=' :: ' ' :: (v ++ '\n' :: rest)) =
      (.assignment [k] d :: (readFrom fuel rest).1, (readFrom fuel rest).2) := by
  have hnext := next_spelled hk hv ('\n' :: rest)
  obtain ⟨c, cs, hcons, hc⟩ := hk.exists_cons
  rw [hcons] at hnext ⊢
  exact readFrom_line (isStart_of_bare hc) hnext

/-! ### Carriage returns -/

theorem unifyBreaks_append (h : '\r' ∉ cs) (rest : List Char) :
    unifyBreaks (cs ++ rest) = cs ++ unifyBreaks rest := by
  induction cs with
  | nil => rfl
  | cons c cs ih =>
    obtain ⟨hc, hcs⟩ := not_or.mp (mt List.mem_cons.mpr h)
    rw [List.cons_append, unifyBreaks.eq_def]
    split <;> simp_all

/-- A control character remains one where carriage returns are left out. -/
theorem unifyBreaks_control (hc : isControl c = true) (rest : List Char) :
    ∃ c' rest', unifyBreaks (c :: rest) = c' :: rest' ∧ isControl c' = true := by
  by_cases hbreak : ∃ rest', c = '\r' ∧ rest = '\n' :: rest'
  · obtain ⟨rest', rfl, rfl⟩ := hbreak
    exact ⟨'\n', unifyBreaks rest', rfl, by decide⟩
  · refine ⟨c, unifyBreaks rest, ?_, hc⟩
    rw [unifyBreaks.eq_def]
    split <;> simp_all

/-! ### Fronts of documents -/

/-- The characters at the front of a text are some first statements, whatever follows. -/
structure Opens (front : List Char) (first : List Statement) : Prop where
  noReturn : '\r' ∉ front
  reads : ∃ n ≤ front.length, ∀ fuel rest, readFrom (fuel + n) (front ++ rest) =
    (first ++ (readFrom fuel rest).1, (readFrom fuel rest).2)

namespace Opens

variable {front front' : List Char} {first first' : List Statement} {text : String}

theorem append (h : Opens front first) (h' : Opens front' first') :
    Opens (front ++ front') (first ++ first') := by
  obtain ⟨n, hn, hreads⟩ := h.reads
  obtain ⟨n', hn', hreads'⟩ := h'.reads
  refine ⟨by simp [h.noReturn, h'.noReturn], n' + n, by simp; omega, fun fuel rest => ?_⟩
  rw [List.append_assoc, ← Nat.add_assoc, hreads, hreads']
  simp

theorem idleLines (h : ∀ line ∈ lines, isIdle line = true) : Opens (ofLines lines) [] where
  noReturn := by
    simp only [ofLines, List.mem_flatMap, not_exists, not_and, List.mem_append, not_or]
    exact fun line hline => ⟨fun hm => absurd (isControl_of_mem_idle (h line hline) hm) (by decide), by decide⟩
  reads := ⟨lines.length, length_le_ofLines lines,
    fun fuel rest => by simp [readFrom_idleLines h fuel rest]⟩

theorem nil : Opens [] [] := (idleLines (by simp) : Opens (ofLines []) [])

theorem blank : Opens ['\n'] [] := (idleLines (by simp [isIdle]) : Opens (ofLines [[]]) [])

theorem header (hk : Bare k) : Opens ('[' :: (k.toList ++ [']', '\n'])) [.header [k]] where
  noReturn := by simpa using fun hm => absurd (hk.2 _ hm) (by decide)
  reads := ⟨1, by simp, fun fuel rest => by simpa using readFrom_header hk fuel rest⟩

theorem assignment (hk : Bare k) (hv : Spells v d) :
    Opens (k.toList ++ ' ' :: '=' :: ' ' :: (v ++ ['\n'])) [.assignment [k] d] where
  noReturn := by simpa [hv.noReturn] using fun hm => absurd (hk.2 _ hm) (by decide)
  reads := ⟨1, by simp; omega, fun fuel rest => by
    simpa using readFrom_assignment hk hv fuel rest⟩

theorem read_append (h : Opens front first) (htext : text.toList = front ++ rest) :
    ∃ fuel, Statement.read text = (first ++ (readFrom (fuel + 1) (unifyBreaks rest)).1,
      (readFrom (fuel + 1) (unifyBreaks rest)).2) := by
  obtain ⟨n, hn, hreads⟩ := h.reads
  have hunified : unifyBreaks text.toList = front ++ unifyBreaks rest := by
    rw [htext, unifyBreaks_append h.noReturn]
  obtain ⟨fuel, hfuel⟩ : ∃ fuel, (front ++ unifyBreaks rest).length + 1 = (fuel + 1) + n :=
    ⟨(front ++ unifyBreaks rest).length - n, by simp; omega⟩
  refine ⟨fuel, ?_⟩
  rw [Statement.read]
  simp only [hunified, hfuel, hreads]

/-- A text that is all front is read to its end. -/
theorem read (h : Opens front first) (htext : text.toList = front) : Statement.read text = (first, none) := by
  obtain ⟨fuel, hread⟩ := h.read_append (by simpa using htext : text.toList = front ++ [])
  simpa [unifyBreaks, readFrom, skipSpace] using hread

/-- Where a text between single quotes is no literal, the document is refused or goes on after the part of it
that is one. -/
theorem ofStatements_of_read {back : List Char} {t : Table} (h : Opens front first) (hk : Bare k)
    (hcs : Literal cs) (hne : cs ≠ []) (hc : c = '\'' ∨ isControl c = true)
    (htext : text.toList = front ++ (k.toList ++ ' ' :: '=' :: ' ' :: '\'' :: (cs ++ c :: back)))
    (hread : Document.read text = .ok t) :
    ∃ more, Document.ofStatements ((first ++ [.assignment [k] (.text (String.ofList cs))]) ++ more) = .ok t := by
  obtain ⟨fuel, hstatements⟩ := h.read_append htext
  obtain ⟨statements, hread, hof⟩ := Document.read_eq_ok.mp hread
  have hnoReturn : '\r' ∉ k.toList ++ ' ' :: '=' :: ' ' :: '\'' :: cs := by
    simpa using ⟨fun hm => absurd (hk.2 _ hm) (by decide), fun hm => absurd (hcs _ hm).2 (by decide)⟩
  have hunified : unifyBreaks (k.toList ++ ' ' :: '=' :: ' ' :: '\'' :: (cs ++ c :: back)) =
      k.toList ++ ' ' :: '=' :: ' ' :: '\'' :: (cs ++ unifyBreaks (c :: back)) := by
    simpa using unifyBreaks_append hnoReturn (c :: back)
  rw [hunified] at hstatements
  obtain ⟨d, ds, hcons, hd⟩ := hk.exists_cons
  rcases hc with rfl | hc
  · have hnext := next_spelled hk (spells_literal hcs hne) (unifyBreaks back)
    have hquote : unifyBreaks ('\'' :: back) = '\'' :: unifyBreaks back := by simp [unifyBreaks]
    rw [hquote] at hstatements
    rw [hcons] at hnext hstatements
    obtain ⟨more, fault, hfront⟩ := readFrom_front (isStart_of_bare hd) (by simpa using hnext) fuel
    refine ⟨more, ?_⟩
    simp_all
  · obtain ⟨c', back', hback, hc'⟩ := unifyBreaks_control hc back
    have hnext := next_control hk hcs hne hc' back'
    rw [hback] at hstatements
    rw [hcons] at hnext hstatements
    have hbroken := readFrom_broken (isStart_of_bare hd) hnext fuel
    simp_all

/-- Where a value is not the last of its line but for a comment, the document is refused. -/
theorem read_trailing {back : List Char} (h : Opens front first) (hk : Bare k) (hv : Spells v d)
    (hc : isStart c = true) (hreturn : c ≠ '\r')
    (htext : text.toList = front ++ (k.toList ++ ' ' :: '=' :: ' ' :: (v ++ c :: back))) :
    Statement.read text = (first ++ [.assignment [k] d], some .malformed) := by
  obtain ⟨fuel, hstatements⟩ := h.read_append htext
  have hnoReturn : '\r' ∉ k.toList ++ ' ' :: '=' :: ' ' :: (v ++ [c]) := by
    simpa [hv.noReturn, hreturn.symm] using fun hm => absurd (hk.2 _ hm) (by decide)
  have hunified : unifyBreaks (k.toList ++ ' ' :: '=' :: ' ' :: (v ++ c :: back)) =
      k.toList ++ ' ' :: '=' :: ' ' :: (v ++ c :: unifyBreaks back) := by
    simpa using unifyBreaks_append hnoReturn back
  have hnext := next_spelled hk hv (c :: unifyBreaks back)
  obtain ⟨first', cs, hcons, hstart⟩ := hk.exists_cons
  rw [hunified] at hstatements
  rw [hcons] at hnext hstatements
  have hend : endLine (c :: unifyBreaks back) = .error .malformed := endLine_start hc _
  rw [hstatements, List.cons_append, readFrom_next (isStart_of_bare hstart)]
  simp only [List.cons_append] at hnext
  simp only [hnext, hend]

end Opens

end Statement
end FieldFilter.Toml
