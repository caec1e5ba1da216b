import FieldFilter.LoadFault
import FieldFilter.Proofs.Text.Loose

/-!
# FieldFilter.Proofs.Files.Path — resolved paths

A path that was resolved starts at the root, and its parts are names (`Path.Resolved`).  It is read back from
its text (`Resolved.ofText_text`) and resolves to itself (`Resolved.resolve`).  In a workspace whose directory
and homes are made of names, as they are where both are read from texts (`Workspace.Normal.of_texts`), every
path that is located is resolved (`Workspace.Normal.resolved`).
-/

namespace FieldFilter

namespace Path

variable {p r directory : Path} {t part name : LooseText} {parts : List LooseText} {m : Mark}

/-- The part leads somewhere and holds no slash. -/
def IsName (part : LooseText) : Prop := isIdle part = false ∧ .char '/' ∉ part.marks

/-- The path is made of names, as every path is that was read. -/
def Normal (p : Path) : Prop := ∀ part ∈ p.parts, IsName part

theorem normal_ofText (t : LooseText) : (ofText t).Normal := by
  intro part hpart
  obtain ⟨hpiece, hidle⟩ := List.mem_filter.mp hpart
  refine ⟨by simpa using hidle, fun hm => ?_⟩
  exact (LooseText.mem_of_mem_piece hpiece hm).2 rfl

theorem normal_ofHome (h : ofHome? t = some p) : p.Normal := by
  unfold ofHome? at h
  split at h
  · cases h
  · split at h
    · obtain rfl := Option.some.inj h
      exact fun part hpart => absurd hpart List.not_mem_nil
    · obtain rfl := Option.some.inj h
      exact normal_ofText t

/-- A path holds what its text holds. -/
theorem mem_of_mem_ofText (hpart : part ∈ (ofText t).parts) (hm : m ∈ part.marks) : m ∈ t.marks :=
  (LooseText.mem_of_mem_piece (List.mem_filter.mp hpart).1 hm).1

theorem faultIn?_eq_none : faultIn? t = none ↔ ∀ m ∈ t.marks, isByteless m = false ∧ m ≠ .char '\x00' := by
  simp only [faultIn?, List.any_eq_true, List.contains_iff_mem]
  split
  · next h =>
    obtain ⟨m, hm, hbyteless⟩ := h
    exact iff_of_false (by simp) fun hall => by simp [(hall m hm).1] at hbyteless
  · split <;> grind

/-- The parts of a path have no fault that its text does not have. -/
theorem faultIn?_of_mem_ofText (h : faultIn? t = none) (hpart : part ∈ (ofText t).parts) :
    faultIn? part = none :=
  faultIn?_eq_none.mpr fun _ hm => faultIn?_eq_none.mp h _ (mem_of_mem_ofText hpart hm)

theorem Normal.join (hp : p.Normal) (hr : r.Normal) : (p.join r).Normal := by
  unfold Path.join
  split
  · exact fun part hpart => (List.mem_append.mp hpart).elim (hp part) (hr part)
  · exact hr

/-! ### Going up -/

private theorem collapse_step (parts : List LooseText) (part : LooseText) :
    collapse (parts ++ [part]) =
      if part = ".." then (collapse parts).dropLast else collapse parts ++ [part] := by
  simp [collapse]

/-- A path without double points holds only what it held, and no double points. -/
theorem mem_of_mem_collapse (h : part ∈ collapse parts) : part ∈ parts ∧ part ≠ ".." := by
  induction parts using List.reverseRecOn with
  | nil => simp [collapse] at h
  | append_singleton parts last ih =>
    rw [collapse_step] at h
    split at h
    · have := ih (List.dropLast_subset _ h)
      simp_all
    · grind

/-- Where nothing goes up, everything stays. -/
theorem collapse_of_level (h : ↑".." ∉ parts) : collapse parts = parts := by
  induction parts using List.reverseRecOn with
  | nil => rfl
  | append_singleton parts last ih => grind [collapse_step]

theorem root_ofText {marks : List Mark} (h : t.marks = .char '/' :: marks) :
    (ofText t).root ≠ .relative := by
  simp only [ofText, h, rootOf]
  split <;> simp_all

theorem expandHome_of_rooted (hroot : p.root ≠ .relative) (home? : LooseText → Option Path) :
    p.expandHome home? = .ok p := by
  unfold expandHome
  split <;> simp_all

theorem resolve_eq_ok : p.resolve directory = .ok r ↔
    (∀ part ∈ p.parts, faultIn? part = none) ∧
      r = { root := .single, parts := collapse (directory.join p).parts } := by
  rw [← List.findSome?_eq_none_iff, resolve]
  cases p.parts.findSome? faultIn? <;> simp [eq_comm]

/-- What is left of an absolute path by resolving it was in it. -/
theorem mem_of_mem_resolve (hroot : p.root ≠ .relative) (h : p.resolve directory = .ok r)
    (hpart : part ∈ r.parts) : part ∈ p.parts := by
  obtain ⟨-, rfl⟩ := resolve_eq_ok.mp h
  rw [join, if_neg hroot] at hpart
  exact (mem_of_mem_collapse hpart).1

/-! ### Resolved paths -/

/-- The path is absolute, and every part of it is a name that can be asked for. -/
structure Resolved (p : Path) : Prop where
  rooted : p.root = .single
  normal : p.Normal
  level : ↑".." ∉ p.parts
  usable : ∀ part ∈ p.parts, faultIn? part = none

theorem resolved_of_resolve (hp : p.Normal) (hd : directory.Normal)
    (hused : ∀ part ∈ directory.parts, faultIn? part = none) (h : p.resolve directory = .ok r) :
    r.Resolved := by
  obtain ⟨hparts, rfl⟩ := resolve_eq_ok.mp h
  refine ⟨rfl, fun part hpart => ?_, fun hup => (mem_of_mem_collapse hup).2 rfl, fun part hpart => ?_⟩
  · exact hd.join hp part (mem_of_mem_collapse hpart).1
  · have hmem := (mem_of_mem_collapse hpart).1
    unfold join at hmem
    split at hmem
    · exact (List.mem_append.mp hmem).elim (hused part) (hparts part)
    · exact hparts part hmem

namespace Resolved

variable (h : p.Resolved)
include h

/-- A resolved path stands for itself wherever it is followed from. -/
theorem join (base : Path) : base.join p = p := by simp [Path.join, h.rooted]

theorem resolve (directory : Path) : p.resolve directory = .ok p := by
  refine resolve_eq_ok.mpr ⟨h.usable, ?_⟩
  rw [h.join, collapse_of_level h.level, ← h.rooted]

theorem expandHome (home? : LooseText → Option Path) : p.expandHome home? = .ok p :=
  expandHome_of_rooted (by simp [h.rooted]) home?

theorem parent : p.parent.Resolved where
  rooted := h.rooted
  normal := fun part hpart => h.normal part (List.dropLast_subset _ hpart)
  level := fun hup => h.level (List.dropLast_subset _ hup)
  usable := fun part hpart => h.usable part (List.dropLast_subset _ hpart)

/-- A name below a resolved path makes a resolved path. -/
theorem child (hname : IsName name) (hup : name ≠ "..") (hused : faultIn? name = none) :
    (p.join { parts := [name] }).Resolved where
  rooted := h.rooted
  normal := fun part hpart => (List.mem_append.mp hpart).elim (h.normal part) (by simp_all)
  level := fun hmem => (List.mem_append.mp hmem).elim h.level (by simpa using fun e => hup e.symm)
  usable := fun part hpart => (List.mem_append.mp hpart).elim (h.usable part) (by simp_all)

theorem text_eq : p.text.marks = .char '/' :: [Mark.char '/'].intercalate (p.parts.map LooseText.marks) := by
  simp only [text, h.rooted, reduceCtorEq, false_and, if_false, LooseText.marks_append]
  rfl

theorem rootOf_text : rootOf p.text.marks = .single := by
  rw [h.text_eq]
  cases hparts : p.parts with
  | nil => rfl
  | cons part rest =>
    -- a second slash would be the first mark of a name
    obtain ⟨hidle, hslash⟩ := h.normal part (by simp [hparts])
    obtain ⟨marks⟩ := part
    cases marks with
    | nil => exact absurd hidle (by decide)
    | cons m marks =>
      have hm : m ≠ .char '/' := fun e => hslash (by simp [e])
      cases rest <;> simp [rootOf, hm, List.intercalate_cons_cons]

/-- A resolved path is read back from its text. -/
theorem ofText_text : ofText p.text = p := by
  have hsplit : (p.text.splitOn '/').filter (fun part => !isIdle part) = p.parts := by
    have hnames : p.parts.filter (fun part => !isIdle part) = p.parts :=
      List.filter_eq_self.mpr fun part hpart => by simp [(h.normal part hpart).1]
    have hfirst : p.text.splitOn '/' =
        ⟨[]⟩ :: (⟨[Mark.char '/'].intercalate (p.parts.map LooseText.marks)⟩ : LooseText).splitOn '/' := by
      simp only [LooseText.splitOn, h.text_eq]
      rw [List.splitOn_cons_eq_if_modifyHead]
      simp
    rw [hfirst]
    by_cases hparts : p.parts = []
    · rw [hparts]
      decide
    · rw [LooseText.splitOn_intercalate (fun part hpart => (h.normal part hpart).2) hparts,
        List.filter_cons_of_neg (by decide), hnames]
  simp only [ofText, h.rootOf_text, hsplit]
  obtain ⟨root, parts⟩ := p
  exact congrArg (Path.mk · parts) h.rooted.symm

/-- But for slashes, the text of a resolved path holds what its parts hold. -/
theorem mem_text_iff (hm : m ≠ .char '/') : m ∈ p.text.marks ↔ ∃ part ∈ p.parts, m ∈ part.marks := by
  constructor
  · intro hmem
    rw [h.text_eq] at hmem
    have := LooseText.mem_intercalate "/" ((List.mem_cons.mp hmem).resolve_left hm)
    simpa [hm] using this
  · rintro ⟨part, hpart, hmem⟩
    rw [h.text_eq]
    exact List.mem_cons_of_mem _ (LooseText.mem_intercalate_of_mem "/" hpart hmem)

end Resolved
end Path

namespace Workspace

variable {w : Workspace} {p r : Path}

/-- The directory of the workspace and the homes of its users are made of names, and the directory can be
asked for. -/
structure Normal (w : Workspace) : Prop where
  directory : w.directory.Normal
  usable : ∀ part ∈ w.directory.parts, Path.faultIn? part = none
  home : ∀ user home, w.home? user = some home → home.Normal

/-- A directory and homes that are read from texts are made of names. -/
theorem Normal.of_texts {directory : LooseText} (hdirectory : w.directory = Path.ofText directory)
    (husable : Path.faultIn? directory = none) (hhome : ∀ home ∈ w.home, ∃ t, Path.ofHome? t = some home)
    (hhomes : ∀ user ∈ w.homes, ∃ t, Path.ofHome? t = some user.2) : w.Normal where
  directory := hdirectory ▸ Path.normal_ofText directory
  usable := fun part hpart => Path.faultIn?_of_mem_ofText husable (hdirectory ▸ hpart)
  home := by
    intro user home h
    unfold Workspace.home? at h
    split at h
    · obtain ⟨t, ht⟩ := hhome home h
      exact Path.normal_ofHome ht
    · obtain ⟨pre, post, hhomes', -⟩ := List.lookup_eq_some_iff.mp h
      obtain ⟨t, ht⟩ := hhomes (user, home) (by simp [hhomes'])
      exact Path.normal_ofHome ht

theorem Normal.expandHome (hw : w.Normal) (hp : p.Normal) (h : w.expandHome p = .ok r) : r.Normal := by
  unfold Workspace.expandHome Path.expandHome at h
  split at h
  · next name rest hroot hparts =>
    cases hfault : Path.faultIn? ⟨name⟩ with
    | some fault => simp [hfault] at h
    | none =>
      cases hhome : w.home? ⟨name⟩ with
      | none => simp [hfault, hhome] at h
      | some home =>
        simp only [hfault, hhome, Except.ok.injEq] at h
        subst h
        exact (hw.home _ _ hhome).join fun part hpart => hp part (by simp_all)
  · simp_all

theorem locate_eq_ok : w.locate p = .ok r ↔ ∃ q, w.expandHome p = .ok q ∧ q.resolve w.directory = .ok r := by
  simp only [locate, Workspace.resolve, bind, Except.bind]
  cases w.expandHome p with
  | error e => simp
  | ok q => cases hq : q.resolve w.directory <;> simp [hq]

/-- Where a path leads is resolved. -/
theorem Normal.resolved (hw : w.Normal) (hp : p.Normal) (h : w.locate p = .ok r) : r.Resolved := by
  obtain ⟨q, hq, hr⟩ := locate_eq_ok.mp h
  exact Path.resolved_of_resolve (hw.expandHome hp hq) hw.directory hw.usable hr

/-- A resolved path leads to itself. -/
theorem locate_of_resolved (h : p.Resolved) : w.locate p = .ok p :=
  locate_eq_ok.mpr ⟨p, h.expandHome _, h.resolve _⟩

end Workspace
end FieldFilter
