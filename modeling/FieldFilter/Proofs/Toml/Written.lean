import FieldFilter.Proofs.Text.Loose
import FieldFilter.Proofs.Toml.Draft
import FieldFilter.Proofs.Toml.Line
import FieldFilter.Toml.Writer

/-!
# FieldFilter.Proofs.Toml.Written — written documents are read back

A written text is read back between its quotes (`basic?_quoted`), and so is an array of texts with one item a line
(`value_itemized`).  A written document of sections whose headers and keys are bare and come once is read as the
table of its sections (`read_writeSections`).
-/

namespace FieldFilter.Toml

open Text

variable {c e : Char} {rest : List Char} {s : String}

/-! ### Texts between double quotes -/

theorem basic?_letter (h : escaped? e = some c) (rest : List Char) :
    basic? false .off ('\\' :: e :: rest) = prepend c (basic? false .off rest) := by
  rw [basic?.eq_def]
  unfold escaped? at h
  split at h <;> cases h <;> simp [escaped?]

/-- A number below 128 is read back from its four digits. -/
theorem hexValue?_hexDigits {n : Nat} (hn : n < 128) : ∃ d1 d2 d3 d4, hexDigits 4 n = [d1, d2, d3, d4] ∧
    hexValue? [d1, d2, d3, d4] = some n := by
  have hall : ∀ n < 128, (hexDigits 4 n).length = 4 ∧ hexValue? (hexDigits 4 n) = some n := by decide +kernel
  obtain ⟨hlength, hvalue⟩ := hall n hn
  match hdigits : hexDigits 4 n with
  | [d1, d2, d3, d4] => exact ⟨d1, d2, d3, d4, rfl, hdigits ▸ hvalue⟩
  | [] | [_] | [_, _] | [_, _, _] | _ :: _ :: _ :: _ :: _ :: _ => simp [hdigits] at hlength

theorem scalarValue?_toNat (c : Char) : scalarValue? c.toNat = some c := by
  have hvalid : c.toNat.isValidChar := c.valid
  rw [scalarValue?, if_pos hvalid, Char.ofNat_toNat]

theorem basic?_code (hc : c.toNat < 128) (rest : List Char) :
    basic? false .off ('\\' :: 'u' :: hexDigits 4 c.toNat ++ rest) = prepend c (basic? false .off rest) := by
  obtain ⟨d1, d2, d3, d4, hdigits, hvalue⟩ := hexValue?_hexDigits hc
  rw [hdigits, basic?.eq_def]
  simp [hvalue, scalarValue?_toNat]

/-- What a character is escaped to is read as that character. -/
theorem basic?_escapeChar (c : Char) (rest : List Char) :
    basic? false .off (escapeChar c ++ rest) = prepend c (basic? false .off rest) := by
  unfold escapeChar
  split
  · next h => rcases h with rfl | rfl <;> exact basic?_letter rfl rest
  split
  · next h => exact h ▸ basic?_letter rfl rest
  split
  · next h => exact h ▸ basic?_letter rfl rest
  split
  · next h => exact h ▸ basic?_letter rfl rest
  split
  · next h => exact h ▸ basic?_letter rfl rest
  split
  · exact basic?_code (by omega) rest
  · next hquote _ _ _ _ hcontrol =>
    rw [List.singleton_append, basic?.eq_def]
    have hshown : isControl c = false := by simpa [isControl] using hcontrol
    simp_all

/-- The characters of a text between double quotes. -/
def quoted (s : String) : List Char := '"' :: (s.toList.flatMap escapeChar ++ ['"'])

theorem marks_quote (s : String) : (quote (.ofString s)).marks = (quoted s).map .char := by
  simp [quote, quoted, List.flatMap_map, List.map_flatMap, escapeMark]

theorem basic?_quoted (cs rest : List Char) :
    basic? false .off (cs.flatMap escapeChar ++ '"' :: rest) = some (cs, rest) := by
  induction cs with
  | nil =>
    rw [List.flatMap_nil, List.nil_append, basic?.eq_def]
    simp
  | cons c cs ih => rw [List.flatMap_cons, List.append_assoc, basic?_escapeChar, ih]; rfl

/-- What a character is escaped to does not start with a quote, and holds no carriage return. -/
theorem escapeChar_shape (c : Char) : (∃ e es, escapeChar c = e :: es ∧ e ≠ '"') ∧ '\r' ∉ escapeChar c := by
  have hdigits : ∀ n < 128, '\r' ∉ hexDigits 4 n := by decide +kernel
  unfold escapeChar
  split
  · next h => rcases h with rfl | rfl <;> simp
  split
  · simp
  split
  · simp
  split
  · simp
  split
  · simp
  split
  · simpa using hdigits c.toNat (by omega)
  · simp_all [eq_comm]

theorem noReturn_quoted (s : String) : '\r' ∉ quoted s := by
  simpa [quoted] using fun c _ => (escapeChar_shape c).2

namespace Statement

variable {fuel steps : Nat} {texts : List String} 

/-- A text between quotes is read, unless it is empty and one more quote follows. -/
theorem plain_quoted (h : s = "" → ∀ c ∈ rest.head?, c ≠ '"') :
    plain (quoted s ++ rest) = .ok (.text s, rest) := by
  have hread : basic? false .off (s.toList.flatMap escapeChar ++ '"' :: rest) = some (s.toList, rest) :=
    basic?_quoted s.toList rest
  have hone : ∀ left, s.toList.flatMap escapeChar ++ '"' :: rest ≠ '"' :: '"' :: left := by
    intro left heq
    cases hs : s.toList with
    | nil =>
      rw [hs, List.flatMap_nil, List.nil_append] at heq
      exact h (String.toList_eq_nil_iff.mp hs) '"' (by simp [(List.cons.inj heq).2]) rfl
    | cons c cs =>
      obtain ⟨⟨e, es, hc, he⟩, -⟩ := escapeChar_shape c
      simp [hs, hc, he] at heq
  have hchars : quoted s ++ rest = '"' :: (s.toList.flatMap escapeChar ++ '"' :: rest) := by simp [quoted]
  rw [hchars, plain_double hone, hread]
  exact congrArg (fun text => Except.ok (Datum.text text, rest)) String.ofList_toList

theorem value_quoted (h : s = "" → ∀ c ∈ rest.head?, c ≠ '"') :
    value steps (fuel + 1) (quoted s ++ rest) = .ok (.text s, rest) := by
  have hplain := plain_quoted h
  simpa [value, quoted] using hplain

theorem spells_quoted (hs : s ≠ "") : Spells (quoted s) (.text s) where
  value _ _ _ := value_quoted fun h => absurd h hs
  start _ := rfl
  noReturn := noReturn_quoted s

theorem spells_false : Spells ['f', 'a', 'l', 's', 'e'] (.boolean false) where
  value _ _ _ := rfl
  start _ := rfl
  noReturn := by decide

/-! ### Arrays with one item a line -/

theorem skipBetween_start (ws : List Char) (hws : ∀ x ∈ ws, isSpaceOrBreak x = true) (hc : isSpaceOrBreak c = false)
    (hcomment : c ≠ '#') (fuel : Nat) (rest : List Char) :
    skipBetween (fuel + 1) (ws ++ c :: rest) = .ok (c :: rest) := by
  have hdrop : (ws ++ c :: rest).dropWhile isSpaceOrBreak = c :: rest := by
    rw [List.dropWhile_append_of_pos hws]
    simp [hc]
  rw [skipBetween, hdrop]
  split
  · simp_all
  · rfl

def indent : List Char := [' ', ' ', ' ', ' ']

/-- The lines of some items. -/
def itemLines (texts : List String) : List Char := texts.flatMap fun s => indent ++ quoted s ++ [',', '\n']

theorem itemLines_cons (s : String) (texts : List String) (rest : List Char) :
    itemLines (s :: texts) ++ rest = indent ++ (quoted s ++ ',' :: '\n' :: (itemLines texts ++ rest)) := by
  simp [itemLines]

theorem skipBetween_comma (rest : List Char) :
    skipBetween (',' :: rest).length (',' :: rest) = .ok (',' :: rest) :=
  skipBetween_start [] (by simp) (by decide) (by decide) _ _

theorem skipBetween_bracket (rest : List Char) :
    skipBetween ('\n' :: ']' :: rest).length ('\n' :: ']' :: rest) = .ok (']' :: rest) :=
  skipBetween_start ['\n'] (List.all_eq_true.mp rfl) (by decide) (by decide) _ _

theorem skipBetween_item (s : String) (rest : List Char) :
    skipBetween ('\n' :: (indent ++ (quoted s ++ rest))).length ('\n' :: (indent ++ (quoted s ++ rest))) =
      .ok (quoted s ++ rest) :=
  skipBetween_start ('\n' :: indent) (List.all_eq_true.mp rfl) (by decide) (by decide) _ _

theorem items_last (s : String) (fuel : Nat) (rest : List Char) :
    items steps (fuel + 2) (quoted s ++ ',' :: '\n' :: ']' :: rest) = .ok ([.text s], rest) := by
  rw [items, value_quoted (by simp)]
  simp only [bind, Except.bind, skipBetween_comma, skipBetween_bracket]
  rfl

theorem items_more (s next : String) (fuel : Nat) (rest : List Char) :
    items steps (fuel + 2) (quoted s ++ ',' :: '\n' :: (indent ++ (quoted next ++ rest))) =
      items steps (fuel + 1) (quoted next ++ rest) >>= fun v => .ok (.text s :: v.1, v.2) := by
  rw [items, value_quoted (by simp)]
  simp only [bind, Except.bind, skipBetween_comma, skipBetween_item]
  rfl

/-- The items of an array that is written with one item a line. -/
theorem items_itemLines (s : String) (texts : List String) (rest : List Char) (hfuel : texts.length ≤ fuel) :
    items steps (fuel + 2) (quoted s ++ ',' :: '\n' :: (itemLines texts ++ ']' :: rest)) =
      .ok ((s :: texts).map .text, rest) := by
  induction texts generalizing s fuel with
  | nil => exact items_last s fuel rest
  | cons next texts ih =>
    obtain ⟨fuel, rfl⟩ := Nat.exists_eq_add_of_le' hfuel
    have hread : items steps (fuel + texts.length + 2)
        (quoted next ++ ',' :: '\n' :: (itemLines texts ++ ']' :: rest)) =
          .ok ((next :: texts).map .text, rest) := ih next (by omega)
    rw [itemLines_cons, items_more]
    exact congrArg (· >>= _) hread

/-- An array of texts, written with one item a line. -/
def itemized (texts : List String) : List Char := '[' :: '\n' :: (itemLines texts ++ [']'])

theorem value_itemized (texts : List String) (rest : List Char) (hfuel : texts.length + 1 ≤ fuel) :
    value maxNesting (fuel + 1) (itemized texts ++ rest) = .ok (.array (texts.map .text), rest) := by
  have hsteps : ¬ maxNesting < arraySteps := by decide
  have hchars : itemized texts ++ rest = '[' :: '\n' :: (itemLines texts ++ ']' :: rest) := by simp [itemized]
  rw [hchars, value]
  simp only [hsteps, if_false, bind, Except.bind, pure, Except.pure]
  cases texts with
  | nil =>
    rw [show itemLines [] ++ ']' :: rest = ']' :: rest from rfl, skipBetween_bracket]
    rfl
  | cons s texts =>
    obtain ⟨fuel, rfl⟩ := Nat.exists_eq_add_of_le' hfuel
    rw [itemLines_cons, skipBetween_item]
    change (items (maxNesting - arraySteps) (fuel + texts.length + 2)
      (quoted s ++ ',' :: '\n' :: (itemLines texts ++ ']' :: rest)) >>= fun v => .ok (Datum.array v.1, v.2)) = _
    rw [items_itemLines s texts rest (by omega)]
    rfl

theorem length_le_itemLines (texts : List String) : texts.length ≤ (itemLines texts).length := by
  induction texts with
  | nil => simp
  | cons s texts ih => simp [itemLines] at ih ⊢; omega

theorem spells_itemized (texts : List String) : Spells (itemized texts) (.array (texts.map .text)) where
  value fuel rest hfuel := by
    have hlines := length_le_itemLines texts
    exact value_itemized texts rest (Nat.le_trans (by simp [itemized]; omega) hfuel)
  start _ := rfl
  noReturn := by
    simp [itemized, itemLines, indent, noReturn_quoted]

end Statement

/-! ### Sections -/

open Statement

variable {k : String} {settings : List (String × Setting)} {sections : List (String × List (String × Setting))}

namespace Setting

/-- The texts of the setting are made of characters alone, and one that is not in an array is not empty. -/
def Whole : Setting → Prop
  | flag _ => True
  | text t => t.Whole ∧ t.isEmpty = false
  | texts items => ∀ t ∈ items, t.Whole

/-- The datum that is assigned. -/
def datum : Setting → Datum
  | flag b => .boolean b
  | text t => .text (t.whole?.getD "")
  | texts items => .array (items.map fun t => .text (t.whole?.getD ""))

theorem marks_itemLines (texts : List String) : (LooseText.intercalate "" (texts.map fun s =>
      "    " ++ quote (.ofString s) ++ ",\n")).marks = (itemLines texts).map .char := by
  simp [LooseText.marks_concat, List.flatMap_map, itemLines, List.map_flatMap, marks_quote, indent]

/-- A whole setting is spelled as it is written. -/
theorem Whole.spells {s : Setting} (h : s.Whole) :
    ∃ v, s.write.marks = v.map .char ∧ Spells v s.datum := by
  cases s with
  | flag b =>
    cases b with
    | false => exact ⟨_, rfl, spells_false⟩
    | true => exact ⟨_, rfl, spells_true⟩
  | text t =>
    obtain ⟨⟨s, rfl⟩, hs⟩ := h
    refine ⟨quoted s, marks_quote s, ?_⟩
    rw [datum, LooseText.whole?_ofString]
    exact spells_quoted (by rintro rfl; simp [LooseText.isEmpty] at hs)
  | texts items =>
    obtain ⟨ss, rfl⟩ := LooseText.exists_map_ofString h
    refine ⟨itemized ss, ?_, ?_⟩
    · have hitems := marks_itemLines ss
      simp [write, itemized, hitems, Function.comp_def]
    · simpa [datum, Function.comp_def] using spells_itemized ss

end Setting

/-- The statements of a section that is written. -/
def sectionStatements (part : String × List (String × Setting)) : List Statement :=
  .header [part.1] :: part.2.map fun p => .assignment [p.1] p.2.datum

/-- The section can be written: its header and its keys are bare, and its settings are whole. -/
def Writable (part : String × List (String × Setting)) : Prop :=
  Bare part.1 ∧ ∀ p ∈ part.2, Bare p.1 ∧ p.2.Whole

theorem opens_settings (h : ∀ p ∈ settings, Bare p.1 ∧ p.2.Whole) : ∃ cs,
    (LooseText.intercalate "" (settings.map fun (key, s) => key ++ " = " ++ s.write ++ "\n")).marks =
      cs.map .char ∧ Opens cs (settings.map fun p => .assignment [p.1] p.2.datum) := by
  induction settings with
  | nil => exact ⟨[], rfl, .nil⟩
  | cons p settings ih =>
    obtain ⟨⟨hkey, hwhole⟩, hrest⟩ := List.forall_mem_cons.mp h
    obtain ⟨v, hv, hspells⟩ := hwhole.spells
    obtain ⟨cs, hcs, hopens⟩ := ih hrest
    refine ⟨_, ?_, (Opens.assignment hkey hspells).append hopens⟩
    rw [LooseText.marks_concat] at hcs ⊢
    simp [hv, hcs]

theorem opens_section {part : String × List (String × Setting)} (h : Writable part) :
    ∃ cs, (writeSection part.1 part.2).marks = cs.map .char ∧ Opens cs (sectionStatements part) := by
  obtain ⟨cs, hcs, hopens⟩ := opens_settings h.2
  refine ⟨_, ?_, (Opens.header h.1).append hopens⟩
  simp [writeSection, hcs]

/-- A written document is read statement by statement. -/
theorem opens_sections (h : ∀ part ∈ sections, Writable part) : ∃ cs,
    (writeSections sections).marks = cs.map .char ∧ Opens cs (sections.flatMap sectionStatements) := by
  induction sections with
  | nil => exact ⟨[], rfl, .nil⟩
  | cons first sections ih =>
    obtain ⟨hfirst, hrest⟩ := List.forall_mem_cons.mp h
    obtain ⟨cs, hcs, hopens⟩ := opens_section hfirst
    obtain ⟨cs', hcs', hopens'⟩ := ih hrest
    by_cases hne : sections = []
    · subst hne
      exact ⟨cs, by simpa [writeSections, LooseText.intercalate] using hcs, by simpa using hopens⟩
    · have hblank : Opens ['\n'] [] := .blank
      refine ⟨_, ?_, by simpa using (hopens.append hblank).append hopens'⟩
      rw [writeSections] at hcs' ⊢
      rw [List.map_cons, LooseText.marks_intercalate_cons _ _ (by simpa using hne), hcs']
      simp [hcs]

theorem mem_quote {h : Half} {t : LooseText} (hm : .half h ∈ t.marks) : .half h ∈ (quote t).marks := by
  have hescaped : .half h ∈ t.marks.flatMap escapeMark := List.mem_flatMap.mpr ⟨_, hm, by simp [escapeMark]⟩
  simp [quote, hescaped]

/-- Only whole texts are written to a document that is whole. -/
theorem whole_of_written {part : String × List (String × Setting)} {key : String} {t : LooseText}
    (hpart : part ∈ sections) (ht : (key, .text t) ∈ part.2) (h : (writeSections sections).Whole) : t.Whole := by
  rw [LooseText.whole_iff] at h ⊢
  intro m hm
  cases m with
  | char c => exact ⟨c, rfl⟩
  | half half =>
    have hline : .half half ∈ (key ++ " = " ++ quote t ++ "\n").marks := by simp [mem_quote hm]
    have hsection : .half half ∈ (writeSection part.1 part.2).marks := by
      refine List.mem_append_right _ (LooseText.mem_intercalate_of_mem "" ?_ hline)
      exact List.mem_map.mpr ⟨_, ht, rfl⟩
    have hwritten : .half half ∈ (writeSections sections).marks :=
      LooseText.mem_intercalate_of_mem "\n" (List.mem_map.mpr ⟨part, hpart, rfl⟩) hsection
    exact h _ hwritten

theorem whole_writeSections (h : ∀ part ∈ sections, Writable part) : (writeSections sections).Whole := by
  obtain ⟨cs, hcs, -⟩ := opens_sections h
  refine LooseText.whole_iff.mpr fun m hm => ?_
  obtain ⟨c, -, rfl⟩ := List.mem_map.mp (hcs ▸ hm)
  exact ⟨c, rfl⟩

/-! ### The table of a document -/

/-- The table of a document that is written. -/
def writtenTable (sections : List (String × List (String × Setting))) : Table :=
  sections.map fun part => (part.1, .table (part.2.map fun p => (p.1, p.2.datum)))

namespace Document

open Branch

variable {draft : Draft} {done inner : List (String × Branch)} {header key : String} {n : Nat} {d : Datum}

theorem lookup_eq_none (h : key ∉ inner.map Prod.fst) : inner.lookup key = none :=
  List.lookup_eq_none_iff.mpr fun _ hp => bne_iff_ne.mpr fun e => h (e ▸ List.mem_map_of_mem hp)

theorem Draft.take_header (h : draft.entries.lookup header = none) :
    draft.take (.header [header]) =
      .ok ⟨draft.entries ++ [(header, .table .declared [])], [header], draft.sectionNumber + 1⟩ := by
  have hdeclare : declareTable header draft.entries = .ok (draft.entries ++ [(header, .table .declared [])]) :=
    alter_new h rfl
  have hwithin : within (declareTable header) [] draft.entries =
      .ok (draft.entries ++ [(header, .table .declared [])]) := hdeclare
  change (within (declareTable header) [] draft.entries >>= fun entries => .ok (⟨entries, _, _⟩ : Draft)) = _
  rw [hwithin]
  rfl

theorem Draft.take_assignment (hdone : done.lookup header = none) (hinner : inner.lookup key = none) :
    Draft.take ⟨done ++ [(header, .table .declared inner)], [header], n⟩ (.assignment [key] d) =
      .ok ⟨done ++ [(header, .table .declared (inner ++ [(key, .fixed d)]))], [header], n⟩ := by
  have hassign : assign n d [key] inner = .ok (inner ++ [(key, .fixed d)]) := alter_new hinner rfl
  have hwithin : within (assign n d [key]) [header] (done ++ [(header, .table .declared inner)]) =
      .ok (done ++ [(header, .table .declared (inner ++ [(key, .fixed d)]))]) := by
    refine alter_last hdone ?_
    change (assign n d [key] inner >>= fun entries => .ok (table .declared entries)) = _
    rw [hassign]
    rfl
  change (within (assign n d [key]) [header] (done ++ [(header, .table .declared inner)]) >>= fun entries =>
    .ok (⟨entries, _, _⟩ : Draft)) = _
  rw [hwithin]
  rfl

/-- The entries of a section that comes after others. -/
theorem Draft.foldlM_settings (hdone : done.lookup header = none)
    (hkeys : (inner.map Prod.fst ++ settings.map Prod.fst).Nodup) :
    (settings.map fun p => Statement.assignment [p.1] p.2.datum).foldlM Draft.take
        ⟨done ++ [(header, .table .declared inner)], [header], n⟩ =
      .ok ⟨done ++ [(header, .table .declared (inner ++ settings.map fun p => (p.1, .fixed p.2.datum)))],
        [header], n⟩ := by
  induction settings generalizing inner with
  | nil => simp [pure, Except.pure]
  | cons p settings ih =>
    have hinner : inner.lookup p.1 = none :=
      lookup_eq_none fun hmem => (List.nodup_append.mp hkeys).2.2 _ hmem _ (by simp) rfl
    have hrest : ((inner ++ [(p.1, fixed p.2.datum)]).map Prod.fst ++ settings.map Prod.fst).Nodup := by
      simpa using hkeys
    have hfold := ih hrest
    rw [List.map_cons, List.foldlM_cons, Draft.take_assignment hdone hinner]
    simpa [bind, Except.bind] using hfold

/-- A section after others becomes one more table. -/
theorem Draft.foldlM_section {part : String × List (String × Setting)} (h : draft.entries.lookup part.1 = none)
    (hkeys : (part.2.map Prod.fst).Nodup) : (sectionStatements part).foldlM Draft.take draft =
      .ok ⟨draft.entries ++ [(part.1, .table .declared (part.2.map fun p => (p.1, .fixed p.2.datum)))],
        [part.1], draft.sectionNumber + 1⟩ := by
  rw [sectionStatements, List.foldlM_cons, Draft.take_header h]
  have hfresh : (([] : List (String × Branch)).map Prod.fst ++ part.2.map Prod.fst).Nodup := by simpa using hkeys
  have hfold := Draft.foldlM_settings (n := draft.sectionNumber + 1) h hfresh
  simpa [bind, Except.bind] using hfold

theorem finishEntries_fixed (settings : List (String × Setting)) :
    finishEntries (settings.map fun p => (p.1, .fixed p.2.datum)) = settings.map fun p => (p.1, p.2.datum) := by
  simp [finishEntries_eq_map, finish, Function.comp_def]

theorem Draft.exists_foldlM (hheaders : (draft.entries.map Prod.fst ++ sections.map Prod.fst).Nodup)
    (hkeys : ∀ part ∈ sections, (part.2.map Prod.fst).Nodup) : ∃ draft',
      (sections.flatMap sectionStatements).foldlM Draft.take draft = .ok draft' ∧
        finishEntries draft'.entries = finishEntries draft.entries ++ writtenTable sections := by
  induction sections generalizing draft with
  | nil => exact ⟨draft, rfl, by simp [writtenTable]⟩
  | cons part sections ih =>
    obtain ⟨hpart, hrest⟩ := List.forall_mem_cons.mp hkeys
    have hnew : draft.entries.lookup part.1 = none :=
      lookup_eq_none fun hmem => (List.nodup_append.mp hheaders).2.2 _ hmem _ (by simp) rfl
    have hnext : ((draft.entries ++ [(part.1, table .declared (part.2.map fun p => (p.1, .fixed p.2.datum)))]).map
        Prod.fst ++ sections.map Prod.fst).Nodup := by
      simpa using hheaders
    obtain ⟨draft', hdraft, htable⟩ := @ih ⟨_, [part.1], draft.sectionNumber + 1⟩ hnext hrest
    refine ⟨draft', ?_, ?_⟩
    · rw [List.flatMap_cons, List.foldlM_append, Draft.foldlM_section hnew hpart]
      exact hdraft
    · rw [htable, finishEntries_eq_map, finishEntries_eq_map]
      simp [writtenTable, finish, finishEntries_fixed]

/-- **A written document is read back**: the sections come out as tables, with what was written to their keys. -/
theorem read_writeSections {text : String} (h : ∀ part ∈ sections, Writable part)
    (hheaders : (sections.map Prod.fst).Nodup) (hkeys : ∀ part ∈ sections, (part.2.map Prod.fst).Nodup)
    (htext : (writeSections sections).whole? = some text) : Document.read text = .ok (writtenTable sections) := by
  obtain ⟨cs, hcs, hopens⟩ := opens_sections h
  have hmarks : (writeSections sections).marks = cs.map .char ++ [] := by simpa using hcs
  obtain ⟨rest, hchars, hrest⟩ := LooseText.toList_of_whole htext hmarks
  obtain rfl : rest = [] := by simpa using hrest.symm
  have hempty : (({} : Draft).entries.map Prod.fst ++ sections.map Prod.fst).Nodup := by simpa using hheaders
  obtain ⟨draft, hdraft, htable⟩ := Draft.exists_foldlM hempty hkeys
  refine Document.read_eq_ok.mpr ⟨_, hopens.read (by simpa using hchars), ?_⟩
  rw [ofStatements, hdraft]
  exact congrArg Except.ok htable

end Document
end FieldFilter.Toml
