import FieldFilter.Proofs.Attempt
import FieldFilter.Toml.Document

/-!
# FieldFilter.Proofs.Toml.Draft — what is assigned stays

A datum that a statement put at the end of a path of keys is in the table of the whole document, whatever
statements follow (`Document.lookup_of_holds`): headers add to a table, and nothing is assigned twice.
-/

namespace FieldFilter.Toml

/-- The texts of a list are read just from an array of them. -/
theorem Datum.texts?_eq_some {d : Datum} {texts : List String} : d.texts? = some texts ↔ d = .array (texts.map .text) := by
  cases d with
  | array items =>
    rw [texts?, array.injEq]
    induction items generalizing texts with
    | nil => cases texts <;> simp
    | cons d items ih =>
      cases texts with
      | nil => cases d <;> simp [List.mapM_cons, text?, Option.bind_eq_some_iff]
      | cons text texts => cases d <;> simp [List.mapM_cons, text?, Option.bind_eq_some_iff, ← ih, and_assoc, and_comm]
  | _ => simp [texts?]

namespace Branch

variable {entries entries' : List (String × Branch)} {k key : String} {path keys : List String}
  {d datum : Datum} {change : Option Branch → Except DecodeFault Branch}

theorem lookup_finishEntries (k : String) :
    (finishEntries entries).lookup k = (entries.lookup k).map finish := by
  induction entries with
  | nil => rfl
  | cons head rest ih =>
    obtain ⟨n, b⟩ := head
    rw [finishEntries, List.lookup_cons, List.lookup_cons]
    cases k == n <;> simp [ih]

/-- What is under the altered key is changed, and nothing else. -/
theorem lookup_alter (h : alter key change entries = .ok entries') :
    ∃ b, change (entries.lookup key) = .ok b ∧ entries'.lookup key = some b ∧
      ∀ k, k ≠ key → entries'.lookup k = entries.lookup k := by
  induction entries generalizing entries' with
  | nil =>
    obtain ⟨b, hb, heq⟩ := bind_eq_ok.mp h
    cases heq
    exact ⟨b, hb, by simp, fun k hk => by simp [List.lookup_cons, beq_false_of_ne hk]⟩
  | cons head rest ih =>
    obtain ⟨n, old⟩ := head
    rw [alter] at h
    by_cases hn : n = key
    · rw [if_pos hn] at h
      obtain ⟨b, hb, heq⟩ := bind_eq_ok.mp h
      cases heq
      subst hn
      exact ⟨b, by simpa using hb, by simp, fun k hk => by simp [List.lookup_cons, beq_false_of_ne hk]⟩
    · rw [if_neg hn] at h
      obtain ⟨rest', hrest, heq⟩ := bind_eq_ok.mp h
      cases heq
      obtain ⟨b, hb, hkey, hothers⟩ := ih hrest
      have hne : (key == n) = false := beq_false_of_ne fun e => hn e.symm
      refine ⟨b, by simpa [List.lookup_cons, hne] using hb, by simpa [List.lookup_cons, hne] using hkey, ?_⟩
      exact fun k hk => by simp only [List.lookup_cons, hothers k hk]

theorem finishEntries_eq_map : finishEntries entries = entries.map fun e => (e.1, e.2.finish) := by
  induction entries with
  | nil => rfl
  | cons head rest ih => rw [finishEntries, ih]; rfl

/-- What is under other keys before the altered one stays. -/
theorem alter_append (h : entries.lookup key = none) (rest : List (String × Branch)) :
    alter key change (entries ++ rest) = (alter key change rest).map (entries ++ ·) := by
  induction entries with
  | nil => cases hrest : alter key change rest <;> simp [hrest, Except.map]
  | cons head entries ih =>
    obtain ⟨n, b⟩ := head
    rw [List.lookup_cons] at h
    split at h
    · nomatch h
    · next hn =>
      have hne : n ≠ key := fun e => by simp [e] at hn
      rw [List.cons_append, alter, if_neg hne, ih h]
      cases alter key change rest <;> rfl

/-- A new key goes to the end. -/
theorem alter_new {b : Branch} (h : entries.lookup key = none) (hb : change none = .ok b) :
    alter key change entries = .ok (entries ++ [(key, b)]) := by
  have happend : alter key change (entries ++ []) = (alter key change []).map (entries ++ ·) := alter_append h []
  rw [List.append_nil] at happend
  rw [happend, alter, hb]
  rfl

theorem alter_last {b b' : Branch} (h : entries.lookup key = none) (hb : change (some b) = .ok b') :
    alter key change (entries ++ [(key, b)]) = .ok (entries ++ [(key, b')]) := by
  rw [alter_append h, alter, if_pos rfl, hb]
  rfl

/-- The datum is at the end of the path, through tables that are no items of an array. -/
def Holds (d : Datum) : List String → List (String × Branch) → Prop
  | [], _ => False
  | [key], entries => entries.lookup key = some (fixed d)
  | key :: path, entries => ∃ origin inner, entries.lookup key = some (table origin inner) ∧ Holds d path inner

/-- A change of entries leaves what they hold. -/
def Keeps (f : List (String × Branch) → Except DecodeFault (List (String × Branch))) : Prop :=
  ∀ entries entries', f entries = .ok entries' → ∀ d path, Holds d path entries → Holds d path entries'

/-- A change under one key keeps everything if it refuses data and keeps what is in tables. -/
theorem keeps_alter (hfixed : ∀ d b, change (some (fixed d)) ≠ .ok b)
    (htable : ∀ origin inner b, change (some (table origin inner)) = .ok b →
      ∃ origin' inner', b = table origin' inner' ∧ ∀ d path, Holds d path inner → Holds d path inner') :
    Keeps (alter key change) := by
  intro entries entries' h d path hd
  obtain ⟨b, hb, hkey, hothers⟩ := lookup_alter h
  match path with
  | [] => exact hd
  | [k] =>
    by_cases hk : k = key
    · subst hk
      rw [show entries.lookup k = some (fixed d) from hd] at hb
      exact absurd hb (hfixed d b)
    · exact (hothers k hk).trans hd
  | k :: k' :: path =>
    obtain ⟨origin, inner, hlookup, hinner⟩ := hd
    by_cases hk : k = key
    · subst hk
      rw [hlookup] at hb
      obtain ⟨origin', inner', rfl, hkept⟩ := htable origin inner b hb
      exact ⟨origin', inner', hkey, hkept _ _ hinner⟩
    · exact ⟨origin, inner, (hothers k hk).trans hlookup, hinner⟩

theorem keeps_declareTable (key : String) : Keeps (declareTable key) := by
  refine keeps_alter (by simp) fun origin inner b h => ?_
  cases origin with
  | implied => exact ⟨.declared, inner, by simpa using h.symm, fun _ _ hd => hd⟩
  | declared => simp at h
  | dotted _ => simp at h

theorem keeps_declareItem (key : String) : Keeps (declareItem key) := keeps_alter (by simp) (by simp)

theorem keeps_assign (sectionNumber : Nat) (datum : Datum) (keys : List String) :
    Keeps (assign sectionNumber datum keys) := by
  match keys with
  | [] => simp [Keeps, assign]
  | [key] => exact keeps_alter (by simp) (by simp)
  | key :: key' :: keys =>
    refine keeps_alter (by simp) fun origin inner b h => ?_
    simp only at h
    split at h
    · cases hinner : assign sectionNumber datum (key' :: keys) inner with
      | error _ => simp [hinner, bind, Except.bind] at h
      | ok inner' =>
        refine ⟨.dotted sectionNumber, inner', ?_, keeps_assign sectionNumber datum _ _ _ hinner⟩
        simpa [hinner, bind, Except.bind, pure, Except.pure, eq_comm] using h
    · simp at h

theorem Keeps.within {f : List (String × Branch) → Except DecodeFault (List (String × Branch))} (hf : Keeps f)
    (keys : List String) : Keeps (Branch.within f keys) := by
  induction keys with
  | nil => exact hf
  | cons key keys ih =>
    refine keeps_alter (by simp) fun origin inner b h => ?_
    obtain ⟨inner', hinner, hb⟩ := bind_eq_ok.mp h
    cases hb
    exact ⟨origin, inner', rfl, ih _ _ hinner⟩

end Branch

namespace Document

open Branch

variable {draft draft' : Draft} {statement : Statement} {statements : List Statement} {d : Datum}
  {path : List String}

/-- What a statement does to the entries of a draft: somewhere below, it declares a table or an item, or it
assigns its datum. -/
inductive Draft.Changes : Statement → (List (String × Branch) → Except DecodeFault (List (String × Branch))) → Prop
  | header {keys : List String} (key : String) : Changes (.header keys) (declareTable key)
  | arrayHeader {keys : List String} (key : String) : Changes (.arrayHeader keys) (declareItem key)
  | assignment (n : Nat) (keys : List String) (datum : Datum) :
    Changes (.assignment keys datum) (assign n datum keys)

theorem Draft.exists_changes (h : draft.take statement = .ok draft') :
    ∃ change path, Changes statement change ∧ within change path draft.entries = .ok draft'.entries := by
  cases statement with
  | header keys =>
    obtain ⟨entries, hentries, heq⟩ := bind_eq_ok.mp h
    cases heq
    exact ⟨_, _, .header _, hentries⟩
  | arrayHeader keys =>
    obtain ⟨entries, hentries, heq⟩ := bind_eq_ok.mp h
    cases heq
    exact ⟨_, _, .arrayHeader _, hentries⟩
  | assignment keys datum =>
    obtain ⟨entries, hentries, heq⟩ := bind_eq_ok.mp h
    cases heq
    exact ⟨_, _, .assignment _ keys datum, hentries⟩

/-- One more statement leaves what the draft holds. -/
theorem Draft.holds_take (h : draft.take statement = .ok draft') (hd : Holds d path draft.entries) :
    Holds d path draft'.entries := by
  obtain ⟨change, below, hchange, hentries⟩ := exists_changes h
  have hkeeps : Keeps change := by
    cases hchange with
    | header key => exact keeps_declareTable key
    | arrayHeader key => exact keeps_declareItem key
    | assignment n keys datum => exact keeps_assign n datum keys
  exact hkeeps.within below _ _ hentries _ _ hd

/-- Whatever statements follow, the draft holds what it held. -/
theorem Draft.holds_foldlM (h : statements.foldlM Draft.take draft = .ok draft')
    (hd : Holds d path draft.entries) : Holds d path draft'.entries :=
  foldlM_keeps (P := fun draft => Holds d path draft.entries) (fun _ _ _ _ htake => holds_take htake) h hd

/-- What the draft of some first statements holds in a section is in that section of the whole document. -/
theorem lookup_of_holds {sectionName key : String} {first : List Statement} {t : Table}
    (hfirst : first.foldlM Draft.take {} = .ok draft) (hd : Holds d [sectionName, key] draft.entries)
    (h : ofStatements (first ++ statements) = .ok t) :
    ∃ entries, t.lookup sectionName = some (.table entries) ∧ entries.lookup key = some d := by
  obtain ⟨whole, hwhole, ht⟩ := bind_eq_ok.mp h
  cases ht
  rw [List.foldlM_append, hfirst] at hwhole
  obtain ⟨origin, inner, hsection, hkey⟩ := Draft.holds_foldlM hwhole hd
  refine ⟨finishEntries inner, ?_, ?_⟩
  · rw [lookup_finishEntries, hsection]
    rfl
  · rw [lookup_finishEntries, show inner.lookup key = some (fixed d) from hkey]
    rfl

end Document
end FieldFilter.Toml
