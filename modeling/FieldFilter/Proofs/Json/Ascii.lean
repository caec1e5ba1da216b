import FieldFilter.Console.Line
import FieldFilter.Json.Writer

/-!
# FieldFilter.Proofs.Json.Ascii — the characters of JSON texts

A value is written in printable ASCII and line breaks, whatever its texts hold (`indented_ascii`).  So there is
no control sequence in what is written, and it is echoed as it is (`echo_indented`).
-/

namespace FieldFilter

/-- The character is printable ASCII or a line break. -/
def Json.IsPlain (c : Char) : Prop := c = '\n' ∨ 32 ≤ c.toNat ∧ c.toNat < 127

instance : DecidablePred Json.IsPlain := fun c =>
  inferInstanceAs (Decidable (c = '\n' ∨ 32 ≤ c.toNat ∧ c.toNat < 127))

open Json (IsPlain)

/-- A list is checked character by character. -/
theorem Json.isPlain_of_all {s : List Char} (h : s.all (fun c => decide (IsPlain c)) = true) : ∀ c ∈ s, IsPlain c := by
  simpa using h

/-! ### Numbers -/

theorem Json.isPlain_digitChar (n : Nat) : IsPlain n.digitChar := by
  match n with
  | 0 | 1 | 2 | 3 | 4 | 5 | 6 | 7 | 8 | 9 | 10 | 11 | 12 | 13 | 14 | 15 => decide
  | n + 16 =>
    rw [Nat.digitChar_eq_star.mpr (Nat.le_add_left 16 n)]
    decide

theorem Json.isPlain_toDigits {base : Nat} (hbase : 1 < base) (n : Nat) : ∀ c ∈ Nat.toDigits base n, IsPlain c := by
  induction n using Nat.strongRecOn with
  | ind n ih =>
    rw [Nat.toDigits_eq_if hbase]
    split
    · simpa using isPlain_digitChar n
    · next hn =>
      have hless : n / base < n := Nat.div_lt_self (by omega) hbase
      simpa [or_imp, forall_and] using ⟨ih _ hless, isPlain_digitChar _⟩

theorem Json.isPlain_zeros (n : Nat) : ∀ c ∈ List.replicate n '0', IsPlain c := by
  intro c hc
  rw [List.eq_of_mem_replicate hc]
  decide

namespace Layout

variable {layout : Layout} {digits : List Char}

theorem isPlain_positional (h : ∀ c ∈ digits, IsPlain c) (point : Int) :
    ∀ c ∈ positional digits point, IsPlain c := by
  have hzero : IsPlain '0' := by decide
  have hpoint : IsPlain '.' := by decide
  unfold positional zeros
  split
  · simpa [or_imp, forall_and, hzero, hpoint] using h
  split
  · simpa [or_imp, forall_and, hzero, hpoint] using h
  · simp only [List.forall_mem_append, List.forall_mem_cons]
    exact ⟨fun c hc => h c (List.mem_of_mem_take hc), hpoint, fun c hc => h c (List.mem_of_mem_drop hc)⟩

theorem isPlain_scientific (h : ∀ c ∈ digits, IsPlain c) (exponent : Int) :
    ∀ c ∈ layout.scientific digits exponent, IsPlain c := by
  have hpoint : IsPlain '.' := by decide
  have hmark : IsPlain 'e' := by decide
  have hsign : IsPlain (if exponent < 0 then '-' else '+') := by split <;> decide
  have hpower : ∀ c ∈ Nat.toDigits 10 exponent.natAbs, IsPlain c := Json.isPlain_toDigits (by decide) _
  unfold scientific
  simp only [List.append_assoc, List.cons_append, List.forall_mem_append, List.forall_mem_cons]
  refine ⟨?_, hmark, hsign, Json.isPlain_zeros _, hpower⟩
  split
  · simpa [hpoint] using h
  · exact h

/-- The text of a number of steps of a power of ten. -/
def decimal (layout : Layout) : Nat × Int → List Char
  | (number, exponent) =>
    let written := Nat.toDigits 10 number
    let leading := exponent + written.length - 1
    let digits := significant written
    if layout.lowest ≤ leading ∧ leading ≤ layout.highest then positional digits (leading + 1)
    else layout.scientific digits leading

theorem magnitude_eq_decimal :
    magnitude = fun layout units => layout.decimal (Binary64.shortest units) := by
  -- opened as a function: at an argument the search for the digits would be evaluated
  delta magnitude
  funext layout units
  generalize Binary64.shortest units = found
  cases found
  rfl

theorem isPlain_decimal (found : Nat × Int) : ∀ c ∈ layout.decimal found, IsPlain c := by
  have hdigits : ∀ c ∈ significant (Nat.toDigits 10 found.1), IsPlain c := by
    intro c hc
    have hmem : c ∈ (Nat.toDigits 10 found.1).reverse := (List.dropWhile_sublist _).mem (List.mem_reverse.mp hc)
    exact Json.isPlain_toDigits (by decide) found.1 c (List.mem_reverse.mp hmem)
  unfold decimal
  dsimp only
  split
  · exact isPlain_positional hdigits _
  · exact isPlain_scientific hdigits _

theorem isPlain_write (x : Binary64) : ∀ c ∈ (json.write x).toList, IsPlain c := by
  have hminus : IsPlain '-' := by decide
  cases x with
  | nan => exact Json.isPlain_of_all (by decide)
  | infinity negative => cases negative <;> exact Json.isPlain_of_all (by decide)
  | finite negative units =>
    have htext : ∀ c ∈ (if units = 0 then ['0', '.', '0'] else json.magnitude units), IsPlain c := by
      split
      · exact Json.isPlain_of_all (by decide)
      · rw [magnitude_eq_decimal]
        exact isPlain_decimal _
    cases negative with
    | false => simpa [write] using htext
    | true => simpa [write, hminus] using htext

end Layout

namespace Json

variable {depth : Nat} {v : Value} {t : LooseText}

theorem isPlain_toString (n : Int) : ∀ c ∈ (toString n).toList, IsPlain c := by
  have hminus : IsPlain '-' := by decide
  cases n with
  | ofNat m => simpa [Int.repr] using isPlain_toDigits (by decide) m
  | negSucc m => simpa [Int.repr, hminus] using isPlain_toDigits (by decide) (m + 1)

/-! ### Texts -/

theorem isPlain_unitEscape (n : Nat) : ∀ c ∈ unitEscape n, IsPlain c := by
  have hslash : IsPlain '\\' := by decide
  have hu : IsPlain 'u' := by decide
  simp only [unitEscape, Text.hexDigits, List.forall_mem_cons, List.forall_mem_append]
  exact ⟨hslash, hu, isPlain_zeros _, isPlain_toDigits (by decide) n⟩

theorem isPlain_escapeChar (c : Char) : ∀ d ∈ escapeChar c, IsPlain d := by
  have hslash : IsPlain '\\' := by decide
  have hquote : IsPlain '"' := by decide
  unfold escapeChar
  split
  · next h => rcases h with rfl | rfl <;> simp [hslash, hquote]
  split
  · exact isPlain_of_all (by decide)
  split
  · exact isPlain_of_all (by decide)
  split
  · exact isPlain_of_all (by decide)
  split
  · exact isPlain_of_all (by decide)
  split
  · exact isPlain_of_all (by decide)
  split
  · next h => simpa using .inr h
  split
  · exact isPlain_unitEscape _
  · exact List.forall_mem_append.mpr ⟨isPlain_unitEscape _, isPlain_unitEscape _⟩

theorem isPlain_quote (t : LooseText) : ∀ c ∈ (quote t).toList, IsPlain c := by
  have hquote : IsPlain '"' := by decide
  have hmarks : ∀ c ∈ t.marks.flatMap escapeMark, IsPlain c := by
    intro c hc
    obtain ⟨m, -, hm⟩ := List.mem_flatMap.mp hc
    cases m with
    | char d => exact isPlain_escapeChar d c hm
    | half h => exact isPlain_unitEscape _ c hm
  simpa [quote, or_imp, forall_and, hquote] using hmarks

/-! ### Values -/

theorem isPlain_atom (v : Value) : ∀ c ∈ (atom v).toList, IsPlain c := by
  cases v with
  | null => exact isPlain_of_all (by decide)
  | bool b => cases b <;> exact isPlain_of_all (by decide)
  | int n => exact isPlain_toString n
  | float x => exact Layout.isPlain_write x
  | text s => exact isPlain_quote s
  | list _ | object _ | scalar _ => exact isPlain_quote _

theorem isPlain_intercalate {between : String} {texts : List String} (hbetween : ∀ c ∈ between.toList, IsPlain c)
    (htexts : ∀ s ∈ texts, ∀ c ∈ s.toList, IsPlain c) :
    ∀ c ∈ (between.intercalate texts).toList, IsPlain c := by
  rw [String.toList_intercalate]
  induction texts with
  | nil => simp
  | cons s rest ih =>
    obtain ⟨hs, hrest⟩ := List.forall_mem_cons.mp htexts
    cases rest with
    | nil => simpa using hs
    | cons s' rest =>
      simp only [List.map_cons, List.intercalate_cons_cons, List.forall_mem_append] at ih ⊢
      exact ⟨⟨hs, hbetween⟩, ih hrest⟩

theorem isPlain_newLine (depth : Nat) : ∀ c ∈ (newLine depth).toList, IsPlain c := by
  have hbreak : IsPlain '\n' := by decide
  have hblank : IsPlain ' ' := by decide
  simp [newLine, or_imp, forall_and, hbreak, hblank]

theorem isPlain_block {opening closing : String} {members : List String}
    (hopening : ∀ c ∈ opening.toList, IsPlain c) (hclosing : ∀ c ∈ closing.toList, IsPlain c)
    (hmembers : ∀ s ∈ members, ∀ c ∈ s.toList, IsPlain c) :
    ∀ c ∈ (block opening closing depth members).toList, IsPlain c := by
  have hcomma : IsPlain ',' := by decide
  have hbetween : ∀ c ∈ ("," ++ newLine (depth + 1)).toList, IsPlain c := by
    simpa [hcomma] using isPlain_newLine _
  unfold block
  split
  · simpa only [String.toList_append, List.forall_mem_append] using ⟨hopening, hclosing⟩
  · simp only [String.toList_append, List.forall_mem_append]
    exact ⟨⟨⟨⟨hopening, isPlain_newLine _⟩, isPlain_intercalate hbetween hmembers⟩, isPlain_newLine _⟩, hclosing⟩

mutual

/-- **What is written** of a value is printable ASCII and line breaks. -/
theorem indented_ascii (depth : Nat) : ∀ v, ∀ c ∈ (indented depth v).toList, IsPlain c
  | .list items =>
    isPlain_block (isPlain_of_all (by decide)) (isPlain_of_all (by decide)) (indentedItems_ascii (depth + 1) items)
  | .object entries =>
    isPlain_block (isPlain_of_all (by decide)) (isPlain_of_all (by decide)) (indentedEntries_ascii (depth + 1) entries)
  | .null | .bool _ | .int _ | .float _ | .text _ | .scalar _ => isPlain_atom _

theorem indentedItems_ascii (depth : Nat) : ∀ items, ∀ s ∈ indentedItems depth items, ∀ c ∈ s.toList, IsPlain c
  | [] => nofun
  | v :: rest => List.forall_mem_cons.mpr ⟨indented_ascii depth v, indentedItems_ascii depth rest⟩

theorem indentedEntries_ascii (depth : Nat) :
    ∀ entries, ∀ s ∈ indentedEntries depth entries, ∀ c ∈ s.toList, IsPlain c
  | [] => nofun
  | (key, v) :: rest => by
    have hcolon : ∀ c ∈ ": ".toList, IsPlain c := isPlain_of_all (by decide)
    refine List.forall_mem_cons.mpr ⟨?_, indentedEntries_ascii depth rest⟩
    simp only [String.toList_append, List.forall_mem_append]
    exact ⟨⟨isPlain_quote key, hcolon⟩, indented_ascii depth v⟩

end

/-! ### Echoing -/

open Console

/-- A text without escape characters loses nothing when it is echoed. -/
theorem echoed_eq_self {s : List Mark} (h : .char '\x1b' ∉ s) : Line.echoed s = s := by
  induction s with
  | nil => rw [Line.echoed]; rfl
  | cons m rest ih =>
    obtain ⟨hm, hrest⟩ := not_or.mp (mt List.mem_cons.mpr h)
    have hnone : Line.afterSequence? (m :: rest) = none := by
      unfold Line.afterSequence?
      split
      · next heq => exact absurd (List.cons.inj heq).1.symm hm
      · rfl
    rw [Line.echoed]
    split
    · next hsome => rw [hnone] at hsome; cases hsome
    · exact congrArg (m :: ·) (ih hrest)

/-- A value is echoed as it is written. -/
theorem echo_indented (depth : Nat) (v : Value) :
    Line.echo (indented depth v) = LooseText.ofString (indented depth v ++ "\n") := by
  have hmarks : .char '\x1b' ∉ (LooseText.ofString (indented depth v)).marks := by
    intro h
    obtain ⟨c, hc, hescape⟩ := List.mem_map.mp h
    obtain rfl := Mark.char.inj hescape
    exact absurd (indented_ascii depth v _ hc) (by decide)
  rw [Line.echo, echoed_eq_self hmarks]
  exact congrArg LooseText.mk (by simp [LooseText.ofString])

end Json
end FieldFilter
