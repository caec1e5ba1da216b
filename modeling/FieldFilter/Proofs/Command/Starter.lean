import FieldFilter.Command.Starter
import FieldFilter.Proofs.Files.Path
import FieldFilter.Proofs.Text.Loose
import FieldFilter.Proofs.Toml.Draft
import FieldFilter.Proofs.Toml.Line

/-!
# FieldFilter.Proofs.Command.Starter — the starting file as a document

The file is the example with two lines that set the paths (`document_eq`), as long as the path of the schema
takes one line; up to a break in that path it is the example in any case (`document_front`).

* A path can stand between single quotes (`Quotable`), or else it is cut where the quotes end early (`Cut`).
* Where both paths are quotable, the file is read as it was meant (`read_document`).
* Where one is cut, what the file is read to in its place, if it is read at all, is what stands before the cut
  (`read_document_schema`, `read_document_data`).
-/

namespace FieldFilter.Starter

open Toml Toml.Statement

variable {schema data : Option Path} {p : Path} {key : String} {value line : LooseText}
  {front rest : List LooseText} {c : Char}

/-! ### The lines of the file -/

/-- The comments at the top. -/
def heading : List String := exampleLines.take 5

/-- The comments above the line of the schema. -/
def legend : List String := (exampleLines.drop 6).take 6

/-- The lines between those of the schema and of the rows. -/
def middle : List String := (exampleLines.drop 13).take 2

/-- The comment on colors. -/
def colorNote : List String := (exampleLines.drop 18).take 1

/-- The comment on columns. -/
def columnNote : List String := (exampleLines.drop 20).take 2

/-- The lines above the one of the schema. -/
def upper : List String := heading ++ "[paths]" :: legend

/-- The lines below the one of the rows. -/
def lower : List String :=
  "" :: "[display]" :: colorNote ++ "colored_output = true" :: columnNote ++ ["columns = []"]

/-- The lines that say nothing. -/
def comments : List String := "" :: heading ++ legend ++ middle ++ colorNote ++ columnNote

theorem isIdle_comment : ∀ line ∈ comments, isIdle line.toList = true := by
  simp only [comments, heading, legend, middle, colorNote, columnNote, exampleLines, List.take, List.drop,
    List.cons_append, List.nil_append, List.forall_mem_cons, List.not_mem_nil, false_implies, implies_true, and_true]
  and_intros <;> rw [String.toList_ofList] <;> rfl

theorem opens_comments (lines : List String) (h : ∀ line ∈ lines, line ∈ comments) :
    Opens (ofLines (lines.map String.toList)) [] := by
  refine .idleLines fun cs hcs => ?_
  obtain ⟨line, hline, rfl⟩ := List.mem_map.mp hcs
  exact isIdle_comment line (h line hline)

theorem opens_upper : Opens (ofLines (upper.map String.toList)) [.header ["paths"]] := by
  have hheading := opens_comments heading (by simp +contextual [comments])
  have hlegend := opens_comments legend (by simp +contextual [comments])
  have hpaths : Bare "paths" := bare_ofList nofun rfl
  simpa [upper, ofLines] using (hheading.append (.header hpaths)).append hlegend

theorem opens_middle : Opens (ofLines (middle.map String.toList)) [] :=
  opens_comments middle (by simp +contextual [comments])

theorem opens_lower : Opens (ofLines (lower.map String.toList))
    [.header ["display"], .assignment ["colored_output"] (.boolean true),
      .assignment ["columns"] (.array [])] := by
  have hblank := opens_comments [""] (by simp [comments])
  have hcolor := opens_comments colorNote (by simp +contextual [comments])
  have hcolumn := opens_comments columnNote (by simp +contextual [comments])
  have hdisplay : Bare "display" := bare_ofList nofun rfl
  have hcolored : Bare "colored_output" := bare_ofList nofun rfl
  have hcolumns : Bare "columns" := bare_ofList nofun rfl
  have htop := (hblank.append (.header hdisplay)).append hcolor
  have hbottom := hcolumn.append (.assignment hcolumns spells_empty)
  simpa [lower, ofLines] using (htop.append (.assignment hcolored spells_true)).append hbottom

/-! ### Setting a path -/

/-- The line that sets a path: to the one given, else to the name in the example. -/
def pathLine (key name : String) : Option Path → LooseText
  | none => LooseText.ofString (key ++ " = \"" ++ name ++ "\"")
  | some p => key ++ " = '" ++ p.text ++ "'"

/-- The lines of the file, in which the paths are set. -/
def pathLines (schema data : Option Path) : List LooseText :=
  upper.map .ofString ++ pathLine "schema" "schema.toml" schema ::
    (middle.map .ofString ++ pathLine "data" "rows.json" data :: (lower ++ [""]).map .ofString)

theorem exampleLines_eq : exampleLines.map LooseText.ofString = pathLines none none := by
  rfl

/-- A line that starts with no character of a bare key sets no such key. -/
theorem isStartOf_line {line : String} (hkey : Bare key)
    (h : ∀ c ∈ line.toList.head?, isBareKeyChar c = false) :
    LooseText.isStartOf (key ++ " = ") (LooseText.ofString line) = false := by
  obtain ⟨c, cs, hcons, hc⟩ := hkey.exists_cons
  cases hline : line.toList with
  | nil => simp [LooseText.isStartOf, hcons, hline]
  | cons d body =>
    have hne : c ≠ d := by
      rintro rfl
      simp [hline, hc] at h
    simp [LooseText.isStartOf, hcons, hline, List.isPrefixOf, hne]

theorem isStartOf_comment {line : String} (hkey : Bare key) (h : line ∈ comments) :
    LooseText.isStartOf (key ++ " = ") (LooseText.ofString line) = false := by
  refine isStartOf_line hkey fun c hc => ?_
  have hidle := isIdle_comment line h
  cases hline : line.toList with
  | nil => simp [hline] at hc
  | cons d body =>
    obtain ⟨rfl, -⟩ := isIdle_cons.mp (hline ▸ hidle)
    obtain rfl : c = '#' := by simpa [hline, eq_comm] using hc
    decide

/-- A text that takes one line. -/
def Level (t : LooseText) : Prop := .char '\n' ∉ t.marks

instance (t : LooseText) : Decidable (Level t) := inferInstanceAs (Decidable (_ ∉ _))

theorem level_comment {line : String} (h : line ∈ comments) : Level line := by
  intro hm
  obtain ⟨c, hc, heq⟩ := List.mem_map.mp hm
  cases heq
  exact absurd (isControl_of_mem_idle (isIdle_comment line h) hc) (by decide)

theorem mem_upper {line : String} (h : line ∈ upper) : line ∈ comments ∨ line = "[paths]" := by
  simp only [upper, List.mem_append, List.mem_cons] at h
  simp only [comments, List.cons_append, List.mem_cons, List.mem_append]
  tauto

theorem level_upper : ∀ line ∈ upper.map LooseText.ofString, Level line := by
  intro line hline
  obtain ⟨text, htext, rfl⟩ := List.mem_map.mp hline
  rcases mem_upper htext with hcomment | rfl
  · exact level_comment hcomment
  · simp [Level]

theorem level_middle : ∀ line ∈ middle.map LooseText.ofString, Level line := by
  intro line hline
  obtain ⟨text, htext, rfl⟩ := List.mem_map.mp hline
  exact level_comment (by simp [comments, htext])

theorem level_lower : ∀ line ∈ (lower ++ [""]).map LooseText.ofString, Level line := by
  intro line hline
  obtain ⟨text, htext, rfl⟩ := List.mem_map.mp hline
  have hkinds : text ∈ comments ∨ text ∈ ["[display]", "colored_output = true", "columns = []"] := by
    simp only [lower, List.cons_append, List.append_assoc, List.mem_append, List.mem_cons] at htext
    simp only [comments, List.cons_append, List.mem_cons, List.mem_append]
    tauto
  rcases hkinds with hcomment | hstatement
  · exact level_comment hcomment
  · obtain rfl | rfl | rfl : text = "[display]" ∨ text = "colored_output = true" ∨ text = "columns = []" := by
      simpa using hstatement
    all_goals simp [Level]

theorem level_pathLine (key name : String) (hkey : Level key) (hname : Level name)
    (h : ∀ p ∈ schema, Level p.text) : Level (pathLine key name schema) := by
  cases schema with
  | none => simp_all [Level, pathLine]
  | some p => simp_all [Level, pathLine]

theorem splitOn_pathLines (hschema : ∀ p ∈ schema, Level p.text) (hdata : ∀ p ∈ data, Level p.text) :
    (LooseText.intercalate "\n" (pathLines schema data)).splitOn '\n' = pathLines schema data := by
  refine LooseText.splitOn_intercalate ?_ (by simp [pathLines])
  have hschemaLine := level_pathLine "schema" "schema.toml" (by decide) (by decide) hschema
  have hdataLine := level_pathLine "data" "rows.json" (by decide) (by decide) hdata
  intro line hline
  simp only [pathLines, List.mem_append, List.mem_cons] at hline
  rcases hline with h | rfl | h | rfl | h
  · exact level_upper line h
  · exact hschemaLine
  · exact level_middle line h
  · exact hdataLine
  · exact level_lower line h

theorem setFirst_skip (h : ∀ line ∈ front, LooseText.isStartOf (key ++ " = ") line = false) :
    setFirst key value (front ++ rest) = front ++ setFirst key value rest := by
  induction front with
  | nil => rfl
  | cons line front ih =>
    obtain ⟨hline, hfront⟩ := List.forall_mem_cons.mp h
    simp [setFirst, hline, ih hfront]

theorem setFirst_upper (hkey : Bare key) :
    setFirst key value (upper.map .ofString ++ rest) = upper.map .ofString ++ setFirst key value rest := by
  refine setFirst_skip fun line hline => ?_
  obtain ⟨text, htext, rfl⟩ := List.mem_map.mp hline
  rcases mem_upper htext with hcomment | rfl
  · exact isStartOf_comment hkey hcomment
  · refine isStartOf_line hkey fun c hc => ?_
    obtain rfl : c = '[' := by simpa [eq_comm] using hc
    decide

theorem setFirst_middle (hkey : Bare key) :
    setFirst key value (middle.map .ofString ++ rest) = middle.map .ofString ++ setFirst key value rest := by
  refine setFirst_skip fun line hline => ?_
  obtain ⟨text, htext, rfl⟩ := List.mem_map.mp hline
  exact isStartOf_comment hkey (by simp [comments, htext])

theorem exampleText_eq :
    LooseText.ofString exampleText = LooseText.intercalate "\n" (pathLines none none) := by
  rw [exampleText, LooseText.ofString_intercalate, exampleLines_eq]

/-- A line that starts as that of the schema does not set the rows. -/
theorem isStartOf_schemaLine (h : line.marks.head? = some (.char 's')) :
    LooseText.isStartOf ("data" ++ " = ") line = false := by
  obtain ⟨marks⟩ := line
  cases marks with
  | nil => simp at h
  | cons m marks => simp_all [LooseText.isStartOf, List.isPrefixOf]

/-- The line of the example sets its key. -/
theorem isStartOf_pathLine (key name : String) :
    LooseText.isStartOf (key ++ " = ") (pathLine key name none) = true := by
  simp [LooseText.isStartOf, pathLine]

theorem bare_schema : Bare "schema" := bare_ofList nofun rfl

theorem bare_data : Bare "data" := bare_ofList nofun rfl

/-- The schema is set in its line, and the other lines stay. -/
theorem setKey_schema (schema : Option Path) :
    setKey "schema" schema exampleText = LooseText.intercalate "\n" (pathLines schema none) := by
  cases schema with
  | none => rw [setKey, exampleText_eq]
  | some p =>
    rw [setKey, exampleText_eq, splitOn_pathLines (by simp) (by simp), pathLines,
      setFirst_upper bare_schema, setFirst, if_pos (isStartOf_pathLine _ _)]
    rfl

/-- If the path of the schema takes one line, the rows are set in their line. -/
theorem document_eq (hschema : ∀ p ∈ schema, Level p.text) :
    document schema data = LooseText.intercalate "\n" (pathLines schema data) := by
  have hline : (pathLine "schema" "schema.toml" schema).marks.head? = some (.char 's') := by
    cases schema <;> rfl
  rw [document, setKey_schema]
  cases data with
  | none => rw [setKey]
  | some q =>
    rw [setKey, splitOn_pathLines hschema (by simp), pathLines, setFirst_upper bare_data, setFirst,
      if_neg (by simp [isStartOf_schemaLine hline]), setFirst_middle bare_data, setFirst, if_pos (isStartOf_pathLine _ _)]
    rfl

theorem marks_line (line : LooseText) (hrest : rest ≠ []) :
    (LooseText.intercalate "\n" (line :: rest)).marks =
      line.marks ++ .char '\n' :: (LooseText.intercalate "\n" rest).marks := by
  rw [LooseText.marks_intercalate_cons _ _ hrest]
  simp

/-- The pieces of a text below some lines. -/
theorem splitOn_lines (h : ∀ line ∈ front, Level line) (line : LooseText) (rest : List LooseText) :
    (LooseText.intercalate "\n" (front ++ line :: rest)).splitOn '\n' =
      front ++ (LooseText.intercalate "\n" (line :: rest)).splitOn '\n' := by
  induction front with
  | nil => rfl
  | cons first front ih =>
    obtain ⟨hfirst, hfront⟩ := List.forall_mem_cons.mp h
    rw [List.cons_append, List.cons_append, ← ih hfront, LooseText.splitOn, marks_line first (by simp),
      List.splitOn_append_cons_self_of_not_mem hfirst]
    rfl

theorem marks_lines (lines : List String) (line : LooseText) (rest : List LooseText) :
    (LooseText.intercalate "\n" (lines.map .ofString ++ line :: rest)).marks =
      (ofLines (lines.map String.toList)).map .char ++ (LooseText.intercalate "\n" (line :: rest)).marks := by
  induction lines with
  | nil => rfl
  | cons first lines ih =>
    rw [List.map_cons, List.cons_append, marks_line _ (by simp), ih]
    simp [ofLines]

theorem setFirst_eq_nil (h : setFirst key value rest = []) : rest = [] := by
  cases rest with
  | nil => rfl
  | cons line rest =>
    rw [setFirst] at h
    split at h <;> simp at h

/-- Whatever the rows are set to, the file is the same up to a mark in the path of the schema that all marks
before it are on its line. -/
theorem document_front (data : Option Path) {front back : List Mark} {m : Mark}
    (hp : p.text.marks = front ++ m :: back) (hfront : .char '\n' ∉ front) : ∃ back', (document (some p) data).marks =
      (ofLines (upper.map String.toList) ++ "schema = '".toList).map .char ++ (front ++ m :: back') := by
  obtain ⟨start, hstart⟩ : ∃ start, start = "schema = '".toList.map Mark.char ++ front := ⟨_, rfl⟩
  have hlevel : Mark.char '\n' ∉ start := by simp [hstart, hfront]
  obtain ⟨below, hbelow⟩ : ∃ below, below = middle.map LooseText.ofString ++
    pathLine "data" "rows.json" none :: (lower ++ [""]).map LooseText.ofString := ⟨_, rfl⟩
  obtain ⟨back₁, hline⟩ : ∃ back₁, (LooseText.intercalate "\n"
      (pathLine "schema" "schema.toml" (some p) :: below)).marks = start ++ m :: back₁ := by
    obtain ⟨more, hmore⟩ := LooseText.exists_intercalate_cons "\n"
      (pathLine "schema" "schema.toml" (some p)) below
    refine ⟨back ++ .char '\'' :: more, ?_⟩
    rw [hmore]
    simp [pathLine, hp, hstart]
  rw [document, setKey_schema, pathLines, ← hbelow]
  cases data with
  | none =>
    refine ⟨back₁, ?_⟩
    rw [setKey, marks_lines, hline, hstart]
    simp
  | some q =>
    -- the line with the mark is no line of the rows, so only lines below it change
    obtain ⟨piece, more, hpieces, hsplit⟩ := LooseText.splitOn_front hlevel (m :: back₁)
    have hjoin : [Mark.char '\n'].intercalate (piece :: more) = m :: back₁ := by
      rw [← hpieces, List.intercalate_splitOn]
    have hset : setFirst "data" q.text ((LooseText.intercalate "\n"
        (pathLine "schema" "schema.toml" (some p) :: below)).splitOn '\n') =
          ⟨start ++ piece⟩ :: setFirst "data" q.text (more.map .mk) := by
      have hfirst : (start ++ piece).head? = some (.char 's') := by simp [hstart]
      rw [LooseText.splitOn, hline, hsplit, List.map_cons, setFirst,
        if_neg (by simp [isStartOf_schemaLine hfirst])]
    have hkept : (setFirst "data" q.text (more.map .mk)).map LooseText.marks = [] → more = [] :=
      fun h => List.map_eq_nil_iff.mp (setFirst_eq_nil (List.map_eq_nil_iff.mp h))
    obtain ⟨back', hback⟩ := LooseText.intercalate_front start hjoin hkept
    refine ⟨back', ?_⟩
    rw [setKey, splitOn_lines level_upper, setFirst_upper bare_data, hset, marks_lines]
    simp only [LooseText.intercalate, List.map_cons]
    rw [show (LooseText.ofString "\n").marks = [Mark.char '\n'] from rfl, hback, hstart]
    simp

/-! ### Paths between single quotes -/

/-- The mark can stand between single quotes on one line. -/
def isQuotable (m : Mark) : Bool := m.is fun c => c != '\'' && !isControl c

/-- The text can stand between single quotes on one line: it is made of characters, none of them a single quote
or a control character other than the tab. -/
def Quotable (t : LooseText) : Prop := ∀ m ∈ t.marks, isQuotable m = true

/-- Between single quotes the text ends early, after some characters. -/
def Cut (t : LooseText) (cs : List Char) : Prop :=
  Literal cs ∧ ∃ m back, isQuotable m = false ∧ t.marks = cs.map .char ++ m :: back

theorem Quotable.exists_literal {t : LooseText} (h : Quotable t) :
    ∃ cs, t.marks = cs.map .char ∧ Literal cs := by
  obtain ⟨marks⟩ := t
  induction marks with
  | nil => exact ⟨[], rfl, by simp [Literal]⟩
  | cons m marks ih =>
    obtain ⟨hm, hmarks⟩ := List.forall_mem_cons.mp h
    obtain ⟨cs, hcs, hliteral⟩ := ih hmarks
    cases m with
    | half _ => simp [isQuotable, Mark.is] at hm
    | char c =>
      refine ⟨c :: cs, by simpa using hcs, List.forall_mem_cons.mpr ⟨?_, hliteral⟩⟩
      simpa [isQuotable, Mark.is] using hm

theorem exists_cut {t : LooseText} (h : ¬ Quotable t) : ∃ cs, Cut t cs := by
  obtain ⟨marks⟩ := t
  induction marks with
  | nil => exact absurd (by simp [Quotable]) h
  | cons m marks ih =>
    by_cases hm : isQuotable m = true
    · obtain ⟨cs, hliteral, m', back, hm', hmarks⟩ := ih fun hall => h (List.forall_mem_cons.mpr ⟨hm, hall⟩)
      cases m with
      | half _ => simp [isQuotable, Mark.is] at hm
      | char c =>
        have hc : c ≠ '\'' ∧ isControl c = false := by simpa [isQuotable, Mark.is] using hm
        exact ⟨c :: cs, List.forall_mem_cons.mpr ⟨hc, hliteral⟩, m', back, hm', by simpa using hmarks⟩
    · exact ⟨[], by simp [Literal], m, marks, by simpa using hm, rfl⟩

theorem Quotable.level {t : LooseText} (h : Quotable t) : Level t :=
  fun hm => absurd (h _ hm) (by decide)

/-- A resolved path is not cut before its first slash. -/
theorem Cut.ne_nil {cs : List Char} (h : Cut p.text cs) (hp : p.Resolved) : cs ≠ [] := by
  rintro rfl
  obtain ⟨-, m, back, hm, hmarks⟩ := h
  rw [hp.text_eq] at hmarks
  obtain ⟨rfl, -⟩ := List.cons.inj hmarks
  exact absurd hm (by decide)

theorem Cut.level {t : LooseText} {cs : List Char} (h : Cut t cs) : Mark.char '\n' ∉ cs.map Mark.char := by
  intro hm
  obtain ⟨c, hc, heq⟩ := List.mem_map.mp hm
  cases heq
  exact absurd (h.1 _ hc).2 (by decide)

/-! ### Reading the file -/

theorem plain_schema : Plain "schema.toml".toList := by simp [Plain, isControl]

theorem plain_data : Plain "rows.json".toList := by simp [Plain, isControl]

/-- The file as marks, line by line. -/
theorem marks_pathLines : (LooseText.intercalate "\n" (pathLines schema data)).marks =
    (ofLines (upper.map String.toList)).map .char ++ ((pathLine "schema" "schema.toml" schema).marks ++
      .char '\n' :: ((ofLines (middle.map String.toList)).map .char ++
        ((pathLine "data" "rows.json" data).marks ++
          .char '\n' :: (ofLines (lower.map String.toList)).map .char))) := by
  have hlast : (LooseText.intercalate "\n" ((lower ++ [""]).map .ofString)).marks =
      (ofLines (lower.map String.toList)).map .char := by
    rw [List.map_append, List.map_cons, marks_lines]
    simp [LooseText.intercalate]
  rw [pathLines, marks_lines, marks_line _ (by simp), marks_lines, marks_line _ (by simp), hlast]

/-- A path that can stand between single quotes is spelled by its line, as the name in the example is. -/
theorem pathLine_spelled (key : String) {given : Option Path} {name : String} (hname : Plain name.toList)
    (hne : name.toList ≠ []) (h : ∀ p ∈ given, p.Resolved ∧ Quotable p.text) :
    ∃ v x, (pathLine key name given).marks = (key.toList ++ ' ' :: '=' :: ' ' :: v).map .char ∧
      Spells v (.text x) ∧
        Path.ofText (LooseText.ofString x) = given.getD (Path.ofText (LooseText.ofString name)) := by
  cases given with
  | none =>
    refine ⟨'"' :: (name.toList ++ ['"']), name, by simp [pathLine], ?_, rfl⟩
    simpa using spells_basic hname hne
  | some p =>
    obtain ⟨hp, hquotable⟩ := h p rfl
    obtain ⟨cs, hcs, hliteral⟩ := hquotable.exists_literal
    have hcsne : cs ≠ [] := by
      rintro rfl
      simp [hp.text_eq] at hcs
    refine ⟨'\'' :: (cs ++ ['\'']), String.ofList cs, by simp [pathLine, hcs], spells_literal hliteral hcsne, ?_⟩
    have htext : LooseText.ofString (String.ofList cs) = p.text := by
      simp [LooseText.ofString, ← hcs]
    rw [htext, hp.ofText_text]
    rfl

/-- The file up to the line of the rows, if the value in the line of the schema is spelled so. -/
def aboveData (v : List Char) : List Char :=
  ofLines (upper.map String.toList) ++ ("schema".toList ++ ' ' :: '=' :: ' ' :: (v ++ ['\n'])) ++
    ofLines (middle.map String.toList)

theorem opens_aboveData {v : List Char} {d : Datum} (hv : Spells v d) :
    Opens (aboveData v) [.header ["paths"], .assignment ["schema"] d] :=
  (opens_upper.append (.assignment bare_schema hv)).append opens_middle

theorem marks_aboveData {v : List Char}
    (hv : (pathLine "schema" "schema.toml" schema).marks =
      ("schema".toList ++ ' ' :: '=' :: ' ' :: v).map .char) :
    (LooseText.intercalate "\n" (pathLines schema data)).marks = (aboveData v).map .char ++
      ((pathLine "data" "rows.json" data).marks ++
        .char '\n' :: (ofLines (lower.map String.toList)).map .char) := by
  rw [marks_pathLines, hv]
  simp [aboveData]

/-- The file is whole if its paths are, and that of the schema takes one line. -/
theorem exists_whole (schema data : Option Path) (hlevel : ∀ p ∈ schema, Level p.text)
    (hschema : ∀ p ∈ schema, ∃ cs : List Char, p.text.marks = cs.map .char)
    (hdata : ∀ p ∈ data, ∃ cs : List Char, p.text.marks = cs.map .char) :
    ∃ text, (document schema data).whole? = some text := by
  have hline : ∀ (key name : String) (given : Option Path),
      (∀ p ∈ given, ∃ cs : List Char, p.text.marks = cs.map .char) →
        ∃ cs : List Char, (pathLine key name given).marks = cs.map .char := by
    intro key name given h
    cases given with
    | none => exact ⟨_, rfl⟩
    | some p =>
      obtain ⟨cs, hcs⟩ := h p rfl
      exact ⟨key.toList ++ " = '".toList ++ cs ++ ['\''], by simp [pathLine, hcs]⟩
  obtain ⟨first, hfirst⟩ := hline "schema" "schema.toml" schema hschema
  obtain ⟨second, hsecond⟩ := hline "data" "rows.json" data hdata
  have hmarks : (document schema data).marks = (ofLines (upper.map String.toList) ++ (first ++
      '\n' :: (ofLines (middle.map String.toList) ++ (second ++
        '\n' :: ofLines (lower.map String.toList))))).map .char := by
    rw [document_eq hlevel, marks_pathLines, hfirst, hsecond]
    simp
  exact ⟨_, by rw [LooseText.whole?, hmarks, LooseText.mapM_char?]; rfl⟩

/-- What stands where a whole text is cut is a quote or a control character. -/
theorem cut_mark {m : Mark} {back : List Mark} {rest : List Char} (hm : isQuotable m = false)
    (hrest : m :: back = rest.map .char) :
    ∃ c rest', rest = c :: rest' ∧ (c = '\'' ∨ isControl c = true) := by
  cases rest with
  | nil => simp at hrest
  | cons c rest =>
    obtain ⟨rfl, -⟩ := List.cons.inj hrest
    exact ⟨c, rest, rfl, by simpa [isQuotable, Mark.is, imp_iff_not_or] using hm⟩

/-- What the file holds. -/
def table (x y : String) : Table :=
  [("paths", .table [("schema", .text x), ("data", .text y)]),
    ("display", .table [("colored_output", .boolean true), ("columns", .array [])])]

section Read

variable {cs : List Char} {text : String} {t : Table}

/-- Where both paths can stand between single quotes, the file is read as it was meant. -/
theorem read_document (hschema : ∀ p ∈ schema, p.Resolved ∧ Quotable p.text)
    (hdata : ∀ p ∈ data, p.Resolved ∧ Quotable p.text) (htext : (document schema data).whole? = some text) :
    ∃ x y, Document.read text = .ok (table x y) ∧
      Path.ofText (LooseText.ofString x) = schema.getD (Path.ofText "schema.toml") ∧
      Path.ofText (LooseText.ofString y) = data.getD (Path.ofText "rows.json") := by
  obtain ⟨v, x, hv, hx, hpath⟩ := pathLine_spelled "schema" plain_schema (by decide) hschema
  obtain ⟨v', y, hv', hy, hpath'⟩ := pathLine_spelled "data" plain_data (by decide) hdata
  refine ⟨x, y, ?_, hpath, hpath'⟩
  have hopens := ((opens_aboveData hx).append (.assignment bare_data hy)).append opens_lower
  have hmarks : (document schema data).marks = (aboveData v ++
      ("data".toList ++ ' ' :: '=' :: ' ' :: (v' ++ ['\n'])) ++ ofLines (lower.map String.toList)).map .char ++ [] := by
    rw [document_eq fun p hp => (hschema p hp).2.level, marks_aboveData hv, hv']
    simp
  obtain ⟨rest, hchars, hrest⟩ := LooseText.toList_of_whole htext hmarks
  obtain rfl : rest = [] := by simpa using hrest.symm
  exact Document.read_eq_ok.mpr ⟨_, hopens.read (by simpa using hchars), rfl⟩

/-- Where the path of the schema is cut, what is read as the schema is what stands before the cut. -/
theorem read_document_schema (hp : p.Resolved) (hcut : Cut p.text cs)
    (htext : (document (some p) data).whole? = some text) (hread : Document.read text = .ok t) :
    ∃ entries, t.lookup "paths" = some (.table entries) ∧
      entries.lookup "schema" = some (.text (String.ofList cs)) := by
  have hne := hcut.ne_nil hp
  have hlevel := hcut.level
  obtain ⟨hcs, m, back, hm, hmarks⟩ := hcut
  obtain ⟨back', hdocument⟩ := document_front data hmarks hlevel
  have hstart : (document (some p) data).marks =
      (ofLines (upper.map String.toList) ++ "schema = '".toList ++ cs).map .char ++ m :: back' := by
    rw [hdocument]
    simp
  obtain ⟨rest, hchars, hrest⟩ := LooseText.toList_of_whole htext hstart
  obtain ⟨c, rest', rfl, hc⟩ := cut_mark hm hrest
  obtain ⟨more, hof⟩ := opens_upper.ofStatements_of_read bare_schema hcs hne hc (by simpa using hchars) hread
  have hholds : Branch.Holds (.text (String.ofList cs)) ["paths", "schema"]
      [("paths", .table .declared [("schema", .fixed (.text (String.ofList cs)))])] := ⟨_, _, rfl, rfl⟩
  exact Document.lookup_of_holds rfl hholds hof

/-- So it is with the path of the rows. -/
theorem read_document_data (hschema : ∀ p ∈ schema, p.Resolved ∧ Quotable p.text) (hp : p.Resolved)
    (hcut : Cut p.text cs) (htext : (document schema (some p)).whole? = some text)
    (hread : Document.read text = .ok t) : ∃ entries, t.lookup "paths" = some (.table entries) ∧
      entries.lookup "data" = some (.text (String.ofList cs)) := by
  have hne := hcut.ne_nil hp
  obtain ⟨hcs, m, back, hm, hmarks⟩ := hcut
  obtain ⟨v, x, hv, hx, -⟩ := pathLine_spelled "schema" plain_schema (by decide) hschema
  have hstart : (document schema (some p)).marks = (aboveData v ++ ("data = '".toList ++ cs)).map .char ++
      m :: (back ++ .char '\'' :: .char '\n' :: (ofLines (lower.map String.toList)).map .char) := by
    rw [document_eq fun p hp => (hschema p hp).2.level, marks_aboveData hv]
    simp [pathLine, hmarks]
  obtain ⟨rest, hchars, hrest⟩ := LooseText.toList_of_whole htext hstart
  obtain ⟨c, rest', rfl, hc⟩ := cut_mark hm hrest
  obtain ⟨more, hof⟩ :=
    (opens_aboveData hx).ofStatements_of_read bare_data hcs hne hc (by simpa using hchars) hread
  have hholds : Branch.Holds (.text (String.ofList cs)) ["paths", "data"]
      [("paths", .table .declared
        [("schema", .fixed (.text x)), ("data", .fixed (.text (String.ofList cs)))])] := ⟨_, _, rfl, rfl⟩
  exact Document.lookup_of_holds rfl hholds hof

end Read

end FieldFilter.Starter
