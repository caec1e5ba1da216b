import Mathlib.Data.List.DropRight
import FieldFilter.Proofs.Attempt
import FieldFilter.Proofs.Expression.Canonical

/-!
# FieldFilter.Proofs.Expression.Operators — the operators of what is read

An operator is kept in lower case as it was typed.  That is the word of a comparison, unless one of three
letters outside ASCII stands in `contains` for a plain one: lower case keeps these apart from the letters with
which they agree (`Token.lower_contains`).  So what is read has the operators of the seven comparisons and
five words that name none (`Expression.operators_of_parse`), each of which is read from some text
(`Expression.exists_parse_stray`).
-/

namespace FieldFilter

/-! ### Lower case of letters -/

namespace Text

variable {c : Char} {s before : List Char}

theorem lowerChar_ascii (h : c.toNat < 128) : lowerChar c = [c.toLower] := by
  have hall : ∀ n < 128, lowerChar (Char.ofNat n) = [(Char.ofNat n).toLower] := by decide
  simpa using hall c.toNat h

theorem toLower_of_not_ascii (h : 128 ≤ c.toNat) : c.toLower = c := by
  refine dif_neg ?_
  rintro ⟨-, hupper⟩
  exact absurd (Nat.le_trans h (UInt32.le_iff_toNat_le.mp hupper)) (by decide)

/-- Without a capital sigma each character has its own lower case. -/
theorem lowerFrom_of_not_mem (h : 'Σ' ∉ s) : lowerFrom before s = s.flatMap lowerChar := by
  induction s generalizing before with
  | nil => rfl
  | cons c s ih =>
    obtain ⟨hc, hs⟩ := not_or.mp (mt List.mem_cons.mpr h)
    rw [lowerFrom, if_neg (Ne.symm hc), ih hs, List.flatMap_cons]

end Text

namespace Token

variable {letter c : Char} {letters typed : List Char}

/-- The letters outside ASCII that agree with a plain one. -/
def strayLetters : List Char := ['İ', 'ı', 'ſ']

/-- What agrees with a letter of ASCII is a stray letter, or has that letter for its lower case. -/
theorem sameLetter_cases (hletter : letter.toNat < 128) (h : sameLetter letter c = true) :
    c ∈ strayLetters ∨ Text.lowerChar c = [letter] := by
  simp only [sameLetter, Bool.or_eq_true, Bool.and_eq_true, beq_iff_eq] at h
  rcases h with (hlower | ⟨-, rfl | rfl⟩) | ⟨-, rfl⟩
  · have hascii : c.toNat < 128 := by
      by_contra hc
      rw [Text.toLower_of_not_ascii (Nat.le_of_not_lt hc)] at hlower
      exact hc (hlower ▸ hletter)
    exact .inr (by rw [Text.lowerChar_ascii hascii, hlower])
  all_goals exact .inl (by decide)

theorem sameLetter_sigma (hletter : letter.toNat < 128) : sameLetter letter 'Σ' ≠ true := by
  intro h
  rcases sameLetter_cases hletter h with hstray | hlower
  · exact absurd hstray (by decide)
  · have hsigma : Text.lowerChar 'Σ' = ['Σ'] := by decide
    obtain rfl : 'Σ' = letter := List.singleton_inj.mp (hsigma.symm.trans hlower)
    exact absurd hletter (by decide)

/-- The lower case of a stray letter is not in ASCII. -/
theorem lowerChar_stray (h : c ∈ strayLetters) : ∃ d ∈ Text.lowerChar c, 128 ≤ d.toNat := by
  simp only [strayLetters, List.mem_cons, List.not_mem_nil, or_false] at h
  rcases h with rfl | rfl | rfl
  · exact ⟨'\u0307', by decide +kernel, by decide⟩
  · exact ⟨'ı', by decide, by decide⟩
  · exact ⟨'ſ', by decide +kernel, by decide⟩

/-- The lower case of everything that agrees with a letter. -/
def forms (letter : Char) : List (List Char) :=
  [letter] :: (strayLetters.filter (sameLetter letter)).map Text.lowerChar

/-- The lower case of everything that agrees with some letters. -/
def formsOfAll : List Char → List (List Char)
  | [] => [[]]
  | letter :: letters => (forms letter).flatMap fun form => (formsOfAll letters).map (form ++ ·)

instance : Decidable (Caseless letters typed) :=
  inferInstanceAs (Decidable (List.Forall₂ (fun letter c => sameLetter letter c = true) letters typed))

variable (hletters : ∀ letter ∈ letters, letter.toNat < 128)
include hletters

theorem Caseless.lowerChars_eq (h : Caseless letters typed) :
    Text.lowerChars typed = typed.flatMap Text.lowerChar := by
  refine Text.lowerFrom_of_not_mem fun hmem => ?_
  induction h with
  | nil => cases hmem
  | cons hc _ ih =>
    obtain ⟨hletter, hletters⟩ := List.forall_mem_cons.mp hletters
    rcases List.mem_cons.mp hmem with rfl | hmem
    · exact sameLetter_sigma hletter hc
    · exact ih hletters hmem

theorem Caseless.lowerChars_mem (h : Caseless letters typed) : Text.lowerChars typed ∈ formsOfAll letters := by
  rw [h.lowerChars_eq hletters]
  induction h with
  | nil => exact List.mem_singleton_self _
  | @cons letter c letters typed hc _ ih =>
    obtain ⟨hletter, hletters⟩ := List.forall_mem_cons.mp hletters
    have hform : Text.lowerChar c ∈ forms letter := by
      rcases sameLetter_cases hletter hc with hstray | hlower
      · exact List.mem_cons_of_mem _ (List.mem_map_of_mem (List.mem_filter.mpr ⟨hstray, hc⟩))
      · exact hlower ▸ List.mem_cons_self
    exact List.mem_flatMap_of_mem hform (List.mem_map_of_mem (ih hletters))

/-- Lower case gives the letters back just if no stray letter is typed. -/
theorem Caseless.lowerChars_eq_iff (h : Caseless letters typed) :
    Text.lowerChars typed = letters ↔ ∀ c ∈ typed, c ∉ strayLetters := by
  rw [h.lowerChars_eq hletters]
  constructor
  · intro hlower c hc hstray
    obtain ⟨d, hd, hlarge⟩ := lowerChar_stray hstray
    have hmem : d ∈ letters := hlower ▸ List.mem_flatMap_of_mem hc hd
    exact absurd (hletters d hmem) (Nat.not_lt.mpr hlarge)
  · intro hplain
    induction h with
    | nil => rfl
    | @cons letter c letters typed hc _ ih =>
      obtain ⟨hletter, hletters⟩ := List.forall_mem_cons.mp hletters
      obtain ⟨hfirst, hplain⟩ := List.forall_mem_cons.mp hplain
      have hlower := (sameLetter_cases hletter hc).resolve_left hfirst
      rw [List.flatMap_cons, hlower, ih hletters hplain, List.singleton_append]

end Token

/-! ### The operators that are typed -/

/-- What is read for `contains` where stray letters stand in it for plain ones. -/
def Operator.strays : List LooseText := ["containſ", "contaıns", "contaınſ", "contai\u0307ns", "contai\u0307nſ"]

theorem Operator.ofWord?_stray {word : LooseText} (h : word ∈ strays) : ofWord? word = none := by
  have hall : ∀ word ∈ strays, ofWord? word = none := by decide +kernel
  exact hall word h

/-- The word of a comparison is no stray one. -/
theorem Operator.word_not_mem_strays (op : Operator) : LooseText.ofString op.word ∉ strays := by
  cases op <;> decide

namespace Token

variable {typed : List Char} {word : LooseText} {w rest : List Mark}

/-- **`contains` in any case** has its word for its lower case, unless stray letters are typed. -/
theorem lower_contains (h : Caseless ['c', 'o', 'n', 't', 'a', 'i', 'n', 's'] typed) :
    (∀ c ∈ typed, c ∉ strayLetters) ∧ Text.lower (String.ofList typed) = Operator.contains.word ∨
      (∃ c ∈ typed, c ∈ strayLetters) ∧ (Text.lower (String.ofList typed) : LooseText) ∈ Operator.strays := by
  have hletters : ∀ letter ∈ ['c', 'o', 'n', 't', 'a', 'i', 'n', 's'], letter.toNat < 128 := by simp
  have hplain := h.lowerChars_eq_iff hletters
  have hlower : Text.lower (String.ofList typed) = String.ofList (Text.lowerChars typed) := by
    rw [Text.lower, String.toList_ofList]
  rw [hlower]
  by_cases hword : Text.lowerChars typed = ['c', 'o', 'n', 't', 'a', 'i', 'n', 's']
  · exact .inl ⟨hplain.mp hword, by rw [hword]; rfl⟩
  · have hall : ∀ form ∈ formsOfAll ['c', 'o', 'n', 't', 'a', 'i', 'n', 's'],
        form ≠ ['c', 'o', 'n', 't', 'a', 'i', 'n', 's'] → (String.ofList form : LooseText) ∈ Operator.strays := by
      decide +kernel
    refine .inr ⟨?_, hall _ (h.lowerChars_mem hletters) hword⟩
    simpa using mt hplain.mpr hword

theorem lower_symbols (h : typed ∈ symbols) :
    (∀ c ∈ typed, c ∉ strayLetters) ∧ ∃ op : Operator, (Text.lower (String.ofList typed) : LooseText) = op.word := by
  have hplain : ∀ typed ∈ symbols, ∀ c ∈ typed, c ∉ strayLetters := by simp [symbols, strayLetters]
  have hword : ∀ typed ∈ symbols, ∃ op ∈ Operator.all, String.ofList typed = op.word := by decide
  obtain ⟨op, -, hop⟩ := hword typed h
  exact ⟨hplain typed h, op, by rw [hop, lower_word]⟩

/-- What spells an operator is the word of a comparison, or stray letters are typed in it. -/
theorem Spells.operator_cases (h : Spells (.operator word) w rest) :
    ∃ typed : List Char, w = typed.map .char ∧ word = Text.lower (String.ofList typed) ∧
      ((∀ c ∈ typed, c ∉ strayLetters) ∧ (∃ op : Operator, word = op.word) ∨
        (∃ c ∈ typed, c ∈ strayLetters) ∧ word ∈ Operator.strays) := by
  generalize ht : Token.operator word = t at h
  cases h with
  | symbol htyped =>
    obtain rfl := Token.operator.inj ht
    exact ⟨_, rfl, rfl, .inl (lower_symbols htyped)⟩
  | contains htyped _ =>
    obtain rfl := Token.operator.inj ht
    refine ⟨_, rfl, rfl, (lower_contains htyped).imp_left fun ⟨hplain, hword⟩ => ⟨hplain, .contains, ?_⟩⟩
    rw [hword]
  | _ => cases ht

end Token

/-- A word that names no comparison is never satisfied. -/
theorem Condition.not_holds_of_unknown {c : Condition} (h : Operator.ofWord? c.operator = none) (r : Record) :
    c.holds r ≠ .ok true := by
  have hcompare (a b : Value) : compare c.operator a b = .ok false := by rw [compare, h]
  unfold holds
  dsimp only
  cases (r.get c.field).written with
  | error e => nofun
  | ok text =>
    rw [ok_bind]
    split
    · simp [hcompare]
    · cases (r.get c.field).settle with
      | error e => nofun
      | ok left =>
        have hoperand : (Value.text c.value).settle = .ok (some (.text c.value)) := rfl
        simp [hoperand, ok_bind, hcompare]

namespace Expression

variable {typed : List Char} {name : LooseText}

/-- `contains` is read in any case. -/
theorem parse_contains (hname : isFieldName name = true)
    (htyped : Token.Caseless ['c', 'o', 'n', 't', 'a', 'i', 'n', 's'] typed) (v : LooseText) :
    parse (name ++ " " ++ String.ofList typed ++ " " ++ Render.value v) =
      .ok (.group "and" [.condition ⟨name, Text.lower (String.ofList typed), v⟩]) := by
  have hoperator : Written .operator (typed.map .char) [.operator (Text.lower (String.ofList typed))] .value :=
    Written.token fun _ hrest =>
      Token.longest_operator (Token.operator?_contains htyped (endsWord_of_closed hrest))
  have hatom : Atomic (name.marks ++ .char ' ' :: (typed.map .char ++ .char ' ' :: (Render.value v).marks))
      (.condition ⟨name, Text.lower (String.ofList typed), v⟩) := by
    have hends := solid_of_ends (w := [.char ' '] ++ typed.map .char ++ [.char ' ']) hname v
    exact ⟨by simpa using hends, _, Written.condition hname hoperator v, .condition _ _ _⟩
  refine parse_of_whole (n := .condition _) ?_
  simpa using hatom.whole

/-- **The operators of what is read** are typed in the text.  They are those of the seven comparisons where no
stray letter is typed, and else one of five that no record satisfies. -/
theorem operators_of_parse {text : LooseText} {n : Node} (h : parse text = .ok n) {c : Condition}
    (hc : c ∈ n.conditions) : ∃ typed : List Char,
      typed.map .char <:+: text.marks ∧ c.operator = Text.lower (String.ofList typed) ∧
      ((∃ op : Operator, c.operator = op.word) ↔ ∀ l ∈ typed, l ∉ Token.strayLetters) ∧
      ((∃ l ∈ typed, l ∈ Token.strayLetters) → c.operator ∈ Operator.strays ∧ ∀ r, c.holds r ≠ .ok true) := by
  by_cases hn : n = .everything
  · simp [hn] at hc
  obtain ⟨ts, m, hlex, ⟨ns, hd, hm⟩, rfl⟩ := sentence_of_parse h hn
  rw [conditions_rooted, hm.conditions] at hc
  obtain ⟨w, rest, hspells, hstands⟩ := hlex.spelled _ (hd.tokens_of_condition c hc).2.1
  obtain ⟨typed, rfl, hword, hcases⟩ := hspells.operator_cases
  have hstrip : text.strip.marks <:+: text.marks :=
    (List.rdropWhile_prefix _ _).isInfix.trans (List.dropWhile_suffix _).isInfix
  refine ⟨typed, hstands.trans hstrip, hword, ?_⟩
  rcases hcases with ⟨hplain, hop⟩ | ⟨⟨l, hl, hstray⟩, hmem⟩
  · exact ⟨iff_of_true hop hplain, fun ⟨l, hl, hstray⟩ => absurd hstray (hplain l hl)⟩
  · have hnone := Operator.ofWord?_stray hmem
    refine ⟨iff_of_false ?_ fun hplain => hplain l hl hstray, fun _ => ⟨hmem, Condition.not_holds_of_unknown hnone⟩⟩
    exact fun ⟨op, hop⟩ => op.word_not_mem_strays (hop ▸ hmem)

/-- Each of the five is the operator of a condition that is read from some text. -/
theorem exists_parse_stray {word : LooseText} (h : word ∈ Operator.strays) :
    ∃ text n, parse text = .ok n ∧ ∃ c ∈ n.conditions, c.operator = word := by
  have hall : ∀ word ∈ Operator.strays,
      ∃ typed ∈ ["containſ", "contaıns", "contaınſ", "contaİns", "contaİnſ"].map String.toList,
      Token.Caseless ['c', 'o', 'n', 't', 'a', 'i', 'n', 's'] typed ∧
        word = Text.lower (String.ofList typed) := by decide +kernel
  have hname : isFieldName "a" = true := by decide
  obtain ⟨typed, -, htyped, rfl⟩ := hall word h
  exact ⟨_, _, parse_contains hname htyped "1", _, List.mem_cons_self, rfl⟩

/-- A capital `i` with a dot in an operator. -/
theorem operators_of_parse_dotted :
    parse "d CONTAİNS x" = .ok (.group "and" [.condition ⟨"d", "contai\u0307ns", "x"⟩]) ∧
      (∃ typed : List Char, typed.map .char <:+: LooseText.marks "d CONTAİNS x" ∧
        ∃ l ∈ typed, l ∈ Token.strayLetters) ∧
      ∀ r, (Condition.mk "d" "contai\u0307ns" "x").holds r ≠ .ok true := by
  have hparse : parse "d CONTAİNS x" = .ok (.group "and" [.condition ⟨"d", "contai\u0307ns", "x"⟩]) := by
    with_unfolding_all rfl
  have hmem : LooseText.ofString "contai\u0307ns" ∈ Operator.strays := by decide
  obtain ⟨typed, hstands, -, hknown, hstray⟩ := operators_of_parse hparse List.mem_cons_self
  have hunknown : ¬ ∃ op : Operator, LooseText.ofString "contai\u0307ns" = op.word := by
    rintro ⟨op, hop⟩
    exact op.word_not_mem_strays (hop ▸ hmem)
  have htyped : ∃ l ∈ typed, l ∈ Token.strayLetters := by simpa using mt hknown.mpr hunknown
  exact ⟨hparse, ⟨typed, hstands, htyped⟩, (hstray htyped).2⟩

/-- An `i` without a dot is read in `contains`, and a record that has the text does not pass. -/
theorem parse_dotless :
    parse "name contaıns x" = .ok (.group "and" [.condition ⟨"name", "contaıns", "x"⟩]) ∧
      (∀ op : Operator, LooseText.ofString "contaıns" ≠ op.word) ∧
      (Condition.mk "name" "contains" "x").holds [("name", .text "x")] = .ok true ∧
      (Condition.mk "name" "contaıns" "x").holds [("name", .text "x")] = .ok false := by
  have hmem : LooseText.ofString "contaıns" ∈ Operator.strays := by decide
  refine ⟨?_, fun op hop => op.word_not_mem_strays (hop ▸ hmem), by rfl, by decide +kernel⟩
  with_unfolding_all rfl

end Expression
end FieldFilter
