import FieldFilter.Proofs.Attempt
import FieldFilter.Proofs.Files.Path

/-!
# FieldFilter.Proofs.Files.Tree — a file that was written

Whether a file can be written does not depend on its bytes (`Workspace.exists_write`), and the file that was
written is read as it was written (`Workspace.read_write`).  Unless directories are made for it, of every path of
which it could be told whether anything is there it still can be (`Workspace.exists_isPresent_write`).
-/

namespace FieldFilter

namespace Entry

variable {here e : Entry} {above : List Entry} {part name : LooseText} {parts rest : List LooseText} {bytes : ByteArray}

theorem lookup_put (name : LooseText) (e : Entry) (entries : List (LooseText × Entry)) :
    (put name e entries).lookup name = some e := by
  induction entries with
  | nil => simp [put]
  | cons head rest ih =>
    obtain ⟨n, old⟩ := head
    by_cases hn : n = name
    · simp [put, hn]
    · have hne : (name == n) = false := by simpa using fun e => hn e.symm
      simp [put, hn, List.lookup_cons, hne, ih]

/-- The names of directories that were made are not too long. -/
theorem short_of_makeDirectories (h : makeDirectories here parts = .ok e) :
    ∀ part ∈ parts, Path.partBytes part ≤ maxNameBytes := by
  induction parts generalizing here e with
  | nil => simp
  | cons part rest ih =>
    cases here with
    | file _ => simp [makeDirectories] at h
    | directory entries =>
      by_cases hlong : maxNameBytes < Path.partBytes part
      · simp [makeDirectories, hlong] at h
      · cases hinner : makeDirectories ((entries.lookup part).getD (directory [])) rest with
        | error _ => simp [makeDirectories, hlong, hinner, bind, Except.bind] at h
        | ok inner => exact List.forall_mem_cons.mpr ⟨Nat.le_of_not_lt hlong, ih hinner⟩

theorem write_name : write bytes here [name] = .ok e ↔
    ∃ entries, here = directory entries ∧ Path.partBytes name ≤ maxNameBytes ∧
      (∀ inner, entries.lookup name ≠ some (directory inner)) ∧
      e = directory (put name (file bytes) entries) := by
  cases here with
  | file _ => simp [write]
  | directory entries =>
    by_cases hlong : maxNameBytes < Path.partBytes name
    · simp [write, hlong, Nat.not_le.mpr hlong]
    · cases hname : entries.lookup name with
      | none => simp [write, hlong, hname, Nat.le_of_not_lt hlong, eq_comm]
      | some old => cases old <;> simp [write, hlong, hname, Nat.le_of_not_lt hlong, eq_comm]

theorem write_below (hrest : rest ≠ []) : write bytes here (part :: rest) = .ok e ↔
    ∃ entries inner inner', here = directory entries ∧ entries.lookup part = some inner ∧
      write bytes inner rest = .ok inner' ∧ e = directory (put part inner' entries) := by
  obtain ⟨next, rest, rfl⟩ := List.exists_cons_of_ne_nil hrest
  cases here with
  | file _ => simp [write]
  | directory entries =>
    cases hpart : entries.lookup part with
    | none => simp [write, hpart]
    | some inner =>
      cases hwrite : write bytes inner (next :: rest) <;>
        simp [write, hpart, hwrite, bind, Except.bind, pure, Except.pure, eq_comm]

theorem exists_write (h : write bytes here parts = .ok e) (bytes' : ByteArray) :
    ∃ e', write bytes' here parts = .ok e' := by
  induction parts generalizing here e with
  | nil => simp [write] at h
  | cons part rest ih =>
    by_cases hrest : rest = []
    · subst hrest
      obtain ⟨entries, hhere, hshort, hname, -⟩ := write_name.mp h
      exact ⟨_, write_name.mpr ⟨entries, hhere, hshort, hname, rfl⟩⟩
    · obtain ⟨entries, inner, inner', hhere, hpart, hwrite, -⟩ := (write_below hrest).mp h
      obtain ⟨e', he'⟩ := ih hwrite
      exact ⟨_, (write_below hrest).mpr ⟨entries, inner, e', hhere, hpart, he', rfl⟩⟩

/-- The end of the parts along which a file was written is that file. -/
theorem follow_write (h : write bytes here parts = .ok e)
    (hshort : ∀ part ∈ parts.dropLast, Path.partBytes part ≤ maxNameBytes) (hlevel : ↑".." ∉ parts)
    (above : List Entry) : follow above e parts = .ok (file bytes) := by
  induction parts generalizing here e above with
  | nil => simp [write] at h
  | cons part rest ih =>
    have hpart : part ≠ ".." := fun hup => hlevel (by simp [hup])
    by_cases hrest : rest = []
    · subst hrest
      obtain ⟨entries, -, hname, -, rfl⟩ := write_name.mp h
      simp [follow, hpart, Nat.not_lt.mpr hname, lookup_put]
    · obtain ⟨entries, inner, inner', -, -, hwrite, rfl⟩ := (write_below hrest).mp h
      have hname : Path.partBytes part ≤ maxNameBytes :=
        hshort part (by simp [List.dropLast_cons_of_ne_nil hrest])
      have hbelow := ih hwrite (fun q hq => hshort q (by simp [List.dropLast_cons_of_ne_nil hrest, hq]))
        (fun hup => hlevel (List.mem_cons_of_mem _ hup)) (directory (put part inner' entries) :: above)
      simp [follow, hpart, Nat.not_lt.mpr hname, lookup_put, hbelow]

/-- Following parts fails for want of a file or a directory, or for a name that is too long. -/
theorem follow_faults {fault : FileFault} (h : follow above here parts = .error fault) :
    fault = .notFound ∨ fault = .notDirectory ∨
      fault = .nameTooLong ∧ ∃ part ∈ parts, maxNameBytes < Path.partBytes part := by
  induction parts generalizing here above with
  | nil => simp [follow] at h
  | cons part rest ih =>
    have hbelow : ∀ {above here}, follow above here rest = .error fault →
        fault = .notFound ∨ fault = .notDirectory ∨
          fault = .nameTooLong ∧ ∃ p ∈ part :: rest, maxNameBytes < Path.partBytes p := fun h =>
      (ih h).imp_right (.imp_right (.imp_right fun ⟨p, hp, hlong⟩ => ⟨p, List.mem_cons_of_mem _ hp, hlong⟩))
    cases here with
    | file _ => exact .inr (.inl (by simpa [follow, eq_comm] using h))
    | directory entries =>
      by_cases hup : part = ".."
      · cases above with
        | nil => exact hbelow (by simpa [follow, hup] using h)
        | cons up above => exact hbelow (by simpa [follow, hup] using h)
      · by_cases hlong : maxNameBytes < Path.partBytes part
        · exact .inr (.inr ⟨by simpa [follow, hup, hlong, eq_comm] using h, part, List.mem_cons_self, hlong⟩)
        · cases hentry : entries.lookup part with
          | none => exact .inl (by simpa [follow, hup, hlong, hentry, eq_comm] using h)
          | some e => exact hbelow (by simpa [follow, hup, hlong, hentry] using h)

theorem follow_error {fault : FileFault} (hshort : ∀ part ∈ parts, Path.partBytes part ≤ maxNameBytes)
    {above : List Entry} (h : follow above here parts = .error fault) :
    fault = .notFound ∨ fault = .notDirectory := by
  rcases follow_faults h with hfault | hfault | ⟨-, part, hpart, hlong⟩
  · exact .inl hfault
  · exact .inr hfault
  · exact absurd hlong (Nat.not_lt.mpr (hshort part hpart))

/-! ### What could be asked for before -/

theorem lookup_put_ne (hne : part ≠ name) (entries : List (LooseText × Entry)) :
    (put name e entries).lookup part = entries.lookup part := by
  induction entries with
  | nil => simp [put, List.lookup_cons, beq_false_of_ne hne]
  | cons head rest ih =>
    obtain ⟨n, old⟩ := head
    by_cases hn : n = name
    · subst hn
      simp [put, List.lookup_cons, beq_false_of_ne hne]
    · simp [put, hn, List.lookup_cons, ih]

theorem put_self {entries : List (LooseText × Entry)} (h : entries.lookup name = some e) :
    put name e entries = entries := by
  induction entries with
  | nil => simp at h
  | cons head rest ih =>
    obtain ⟨n, old⟩ := head
    by_cases hn : n = name
    · subst hn
      obtain rfl : old = e := by simpa using h
      simp [put]
    · have hne : (name == n) = false := by simpa using fun e => hn e.symm
      simp only [List.lookup_cons, hne] at h
      simp [put, hn, ih h]

/-- Where every directory is there, none is made. -/
theorem makeDirectories_of_follow {found : Entry} (h : makeDirectories here parts = .ok e)
    (hfollow : follow above here parts = .ok found) (hlevel : ↑".." ∉ parts) : e = here := by
  induction parts generalizing here above e with
  | nil => cases here <;> simp_all [makeDirectories]
  | cons part rest ih =>
    cases here with
    | file _ => simp [makeDirectories] at h
    | directory entries =>
      obtain ⟨hup, hlevel⟩ : part ≠ ".." ∧ ↑".." ∉ rest := by simpa [eq_comm] using hlevel
      by_cases hlong : maxNameBytes < Path.partBytes part
      · simp [makeDirectories, hlong] at h
      · cases hentry : entries.lookup part with
        | none => simp [follow, hup, hlong, hentry] at hfollow
        | some inner =>
          simp only [makeDirectories, hlong, if_false, hentry, Option.getD_some] at h
          obtain ⟨made, hmade, heq⟩ := bind_eq_ok.mp h
          obtain rfl := ih hmade (by simpa [follow, hup, hlong, hentry] using hfollow) hlevel
          cases heq
          rw [put_self hentry]

/-- Parts that do not go up are followed in the same way from wherever the directories above are. -/
theorem follow_level (hlevel : ↑".." ∉ parts) (above above' : List Entry) :
    follow above here parts = follow above' here parts := by
  induction parts generalizing here above above' with
  | nil => rfl
  | cons part rest ih =>
    obtain ⟨hup, hlevel⟩ : part ≠ ".." ∧ ↑".." ∉ rest := by simpa [eq_comm] using hlevel
    cases here with
    | file _ => rfl
    | directory entries =>
      simp only [follow, hup, if_false]
      cases entries.lookup part with
      | none => rfl
      | some e => simp only [ih hlevel (directory entries :: above) (directory entries :: above')]

/-- It cannot be told what is at the end of the parts, for a name that is too long. -/
def Hidden (here : Entry) (parts : List LooseText) : Prop := follow [] here parts = .error .nameTooLong

theorem exists_hasEntry_iff : (∃ b, hasEntry here parts = .ok b) ↔ ¬ Hidden here parts := by
  unfold Hidden hasEntry
  cases hfollow : follow [] here parts with
  | ok _ => simp
  | error f => obtain rfl | rfl | ⟨rfl, -⟩ := follow_faults hfollow <;> simp

/-- A step into a directory, from which nothing goes up. -/
theorem hidden_cons {entries : List (LooseText × Entry)} (hlevel : ↑".." ∉ part :: rest) :
    Hidden (directory entries) (part :: rest) ↔
      maxNameBytes < Path.partBytes part ∨ ∃ e, entries.lookup part = some e ∧ Hidden e rest := by
  obtain ⟨hup, hlevel⟩ : part ≠ ".." ∧ ↑".." ∉ rest := by simpa [eq_comm] using hlevel
  unfold Hidden
  by_cases hlong : maxNameBytes < Path.partBytes part
  · simp [follow, hup, hlong]
  · cases hentry : entries.lookup part with
    | none => simp [follow, hup, hlong, hentry]
    | some e => simp [follow, hup, hlong, hentry, follow_level hlevel [directory entries] []]

/-- Writing a file hides nothing. -/
theorem hidden_of_write {asked : List LooseText} (h : write bytes here parts = .ok e) (hlevel : ↑".." ∉ asked)
    (hhidden : Hidden e asked) : Hidden here asked := by
  induction parts generalizing here e asked with
  | nil => simp [write] at h
  | cons part rest ih =>
    cases asked with
    | nil => simp [Hidden, follow] at hhidden
    | cons name asked =>
      by_cases hrest : rest = []
      · subst hrest
        obtain ⟨entries, rfl, -, -, rfl⟩ := write_name.mp h
        rw [hidden_cons hlevel] at hhidden ⊢
        refine hhidden.imp_right fun ⟨e, he, hbelow⟩ => ?_
        by_cases hname : name = part
        · subst hname
          obtain rfl : file bytes = e := by simpa [lookup_put] using he
          cases asked <;> simp [Hidden, follow] at hbelow
        · exact ⟨e, by rwa [lookup_put_ne hname] at he, hbelow⟩
      · obtain ⟨entries, inner, inner', rfl, hpart, hwrite, rfl⟩ := (write_below hrest).mp h
        rw [hidden_cons hlevel] at hhidden ⊢
        refine hhidden.imp_right fun ⟨e, he, hbelow⟩ => ?_
        by_cases hname : name = part
        · subst hname
          obtain rfl : inner' = e := by simpa [lookup_put] using he
          exact ⟨inner, hpart, ih hwrite (fun hm => hlevel (List.mem_cons_of_mem _ hm)) hbelow⟩
        · exact ⟨e, by rwa [lookup_put_ne hname] at he, hbelow⟩

end Entry

namespace Workspace

variable {w after : Workspace} {p : Path} {bytes : ByteArray}

theorem write_eq_ok : w.write p bytes = .ok after ↔
    checkLength p = .ok () ∧ ∃ made written, w.root.makeDirectories p.parts.dropLast = .ok made ∧
      made.write bytes p.parts = .ok written ∧ after = { w with root := written } := by
  simp only [write, bind, Except.bind]
  cases checkLength p with
  | error _ => simp
  | ok _ =>
    cases w.root.makeDirectories p.parts.dropLast with
    | error _ => simp
    | ok made => cases hw : made.write bytes p.parts <;> simp [hw, pure, Except.pure, eq_comm]

/-- A file that can be written can be written with any bytes. -/
theorem exists_write (h : w.write p bytes = .ok after) (bytes' : ByteArray) :
    ∃ after', w.write p bytes' = .ok after' := by
  obtain ⟨hlength, made, written, hmade, hwritten, -⟩ := write_eq_ok.mp h
  obtain ⟨written', hwritten'⟩ := Entry.exists_write hwritten bytes'
  exact ⟨_, write_eq_ok.mpr ⟨hlength, made, written', hmade, hwritten', rfl⟩⟩

/-- Writing a file changes no home and no directory to start from. -/
theorem locate_write (h : w.write p bytes = .ok after) (q : Path) : after.locate q = w.locate q := by
  obtain ⟨-, _, _, -, -, rfl⟩ := write_eq_ok.mp h
  rfl

/-- What was written at a resolved path is there. -/
theorem follow_write (hp : p.Resolved) (h : w.write p bytes = .ok after) :
    checkLength p = .ok () ∧ after.root.follow [] (after.partsOf p) = .ok (.file bytes) := by
  obtain ⟨hlength, made, written, hmade, hwritten, rfl⟩ := write_eq_ok.mp h
  refine ⟨hlength, ?_⟩
  rw [partsOf, hp.join]
  exact Entry.follow_write hwritten (Entry.short_of_makeDirectories hmade) hp.level []

theorem read_write (hp : p.Resolved) (h : w.write p bytes = .ok after) : after.read p = .ok bytes := by
  obtain ⟨hlength, hfollow⟩ := follow_write hp h
  simp [read, hlength, Entry.read, hfollow, bind, Except.bind]

/-- What can be read is there. -/
theorem isPresent_of_read (h : w.read p = .ok bytes) : w.isPresent p = .ok true := by
  obtain ⟨⟨⟩, hlength, h⟩ := bind_eq_ok.mp h
  unfold Entry.read at h
  simp only [isPresent, hasEntry, hlength, bind, Except.bind, Entry.hasEntry]
  cases hfollow : w.root.follow [] (w.partsOf p) with
  | error _ => simp [hfollow] at h
  | ok _ => rfl

/-- Of a path that is not too long it can be told whether anything is there. -/
theorem exists_isPresent (hlength : Path.partBytes p.text < pathBytesLimit)
    (hshort : ∀ part ∈ w.partsOf p, Path.partBytes part ≤ Entry.maxNameBytes) :
    ∃ present, w.isPresent p = .ok present := by
  have hchecked : checkLength p = .ok () := by rw [checkLength, if_neg (Nat.not_le.mpr hlength)]
  simp only [isPresent, hasEntry, hchecked, bind, Except.bind, Entry.hasEntry]
  cases hfollow : w.root.follow [] (w.partsOf p) with
  | ok _ => exact ⟨true, rfl⟩
  | error fault =>
    rcases Entry.follow_error hshort hfollow with rfl | rfl <;> exact ⟨false, rfl⟩

/-- Of a resolved path it can be told whether anything is there, unless it is too long or its end is hidden. -/
theorem exists_isPresent_iff (hp : p.Resolved) :
    (∃ present, w.isPresent p = .ok present) ↔ checkLength p = .ok () ∧ ¬ Entry.Hidden w.root p.parts := by
  have hparts : w.partsOf p = p.parts := by rw [partsOf, hp.join]
  rw [← Entry.exists_hasEntry_iff]
  simp only [isPresent, hasEntry, hparts]
  cases checkLength p with
  | error _ => simp [bind, Except.bind]
  | ok _ => cases w.root.hasEntry p.parts <;> simp [bind, Except.bind]

/-- Where the directory of a file is there, writing the file leaves of what it can be told whether it is there. -/
theorem exists_isPresent_write {q : Path} (hp : p.Resolved) (hq : q.Resolved)
    (h : w.write p bytes = .ok after) (hparent : w.isPresent p.parent = .ok true)
    (hasked : ∃ present, w.isPresent q = .ok present) : ∃ present, after.isPresent q = .ok present := by
  rw [exists_isPresent_iff hq] at hasked ⊢
  refine ⟨hasked.1, fun hhidden => hasked.2 ?_⟩
  obtain ⟨-, made, written, hmade, hwritten, rfl⟩ := write_eq_ok.mp h
  obtain ⟨found, hfound⟩ : ∃ found, w.root.follow [] p.parts.dropLast = .ok found := by
    have hparts : w.partsOf p.parent = p.parts.dropLast := by rw [partsOf, hp.parent.join]; rfl
    simp only [isPresent, hasEntry, hparts, Entry.hasEntry] at hparent
    cases hfollow : w.root.follow [] p.parts.dropLast with
    | ok found => exact ⟨found, rfl⟩
    | error f => cases f <;> cases hlength : checkLength p.parent <;> simp_all [bind, Except.bind]
  obtain rfl := Entry.makeDirectories_of_follow hmade hfound fun hm => hp.level (List.dropLast_subset _ hm)
  exact Entry.hidden_of_write hwritten hq.level hhidden

end Workspace
end FieldFilter
