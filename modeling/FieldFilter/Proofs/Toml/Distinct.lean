import FieldFilter.Proofs.Toml.Draft

/-!
# FieldFilter.Proofs.Toml.Distinct — keys come once

No table of a document that is decoded has a key twice, however deep it stands (`Document.distinct_of_decode`).  A
statement changes what is under one key and puts a new key at the end, so each keeps this of the tables under way.
-/

namespace FieldFilter.Toml

/-- No table in the datum has a key twice. -/
inductive Datum.Distinct : Datum → Prop
  | text (s : String) : Distinct (.text s)
  | integer (n : Int) : Distinct (.integer n)
  | float (x : Binary64) : Distinct (.float x)
  | boolean (b : Bool) : Distinct (.boolean b)
  | moment (written : String) : Distinct (.moment written)
  | array {items : List Datum} : (∀ d ∈ items, Distinct d) → Distinct (.array items)
  | table {entries : Table} : (entries.map Prod.fst).Nodup → (∀ e ∈ entries, Distinct e.2) →
    Distinct (.table entries)

/-- No table in the branch, finished or not, has a key twice. -/
inductive Branch.Distinct : Branch → Prop
  | fixed {d : Datum} : d.Distinct → Distinct (.fixed d)
  | table {origin : Origin} {entries : List (String × Branch)} : (entries.map Prod.fst).Nodup →
    (∀ e ∈ entries, Distinct e.2) → Distinct (.table origin entries)
  | tables {finished : List Datum} {last : List (String × Branch)} : (∀ d ∈ finished, d.Distinct) →
    (last.map Prod.fst).Nodup → (∀ e ∈ last, Distinct e.2) → Distinct (.tables finished last)

namespace Branch

variable {entries entries' : List (String × Branch)} {key : String} {d : Datum} {b : Branch}
  {change : Option Branch → Except DecodeFault Branch}

/-- The entries of a table under way have distinct keys, and so have the tables in them. -/
def AllDistinct (entries : List (String × Branch)) : Prop :=
  (entries.map Prod.fst).Nodup ∧ ∀ e ∈ entries, e.2.Distinct

theorem allDistinct_nil : AllDistinct [] := by simp [AllDistinct]

theorem distinct_table_iff {origin : Origin} : (table origin entries).Distinct ↔ AllDistinct entries :=
  ⟨fun (.table hkeys hall) => ⟨hkeys, hall⟩, fun h => .table h.1 h.2⟩

theorem distinct_tables_iff {finished : List Datum} :
    (tables finished entries).Distinct ↔ (∀ d ∈ finished, d.Distinct) ∧ AllDistinct entries :=
  ⟨fun (.tables hfinished hkeys hall) => ⟨hfinished, hkeys, hall⟩, fun h => .tables h.1 h.2.1 h.2.2⟩

/-- What is finished has distinct keys if the branch has. -/
theorem Distinct.finish (h : b.Distinct) : b.finish.Distinct := by
  have hfinish {entries : List (String × Branch)} (hkeys : (entries.map Prod.fst).Nodup)
      (hentries : ∀ e ∈ entries, e.2.finish.Distinct) : (Datum.table (finishEntries entries)).Distinct := by
    rw [finishEntries_eq_map]
    refine .table (by rwa [List.map_map]) fun e he => ?_
    obtain ⟨branch, hbranch, rfl⟩ := List.mem_map.mp he
    exact hentries branch hbranch
  induction h with
  | fixed hd => exact hd
  | table hkeys _ ih => exact hfinish hkeys ih
  | tables hfinished hkeys _ ih =>
    rw [Branch.finish]
    refine .array fun d hd => ?_
    rcases List.mem_append.mp hd with hd | hd
    · exact hfinished d hd
    · rw [List.mem_singleton.mp hd]
      exact hfinish hkeys ih

theorem AllDistinct.finishEntries (h : AllDistinct entries) : (Datum.table (finishEntries entries)).Distinct :=
  Distinct.finish (b := .table .declared entries) (distinct_table_iff.mpr h)

/-! ### Changes of tables -/

/-- The change of a table under way keeps its keys distinct. -/
def KeepsDistinct (f : List (String × Branch) → Except DecodeFault (List (String × Branch))) : Prop :=
  ∀ entries entries', f entries = .ok entries' → AllDistinct entries → AllDistinct entries'

/-- A change under one key brings in no other key. -/
theorem mem_keys_alter (h : alter key change entries = .ok entries') {k : String} (hk : k ∈ entries'.map Prod.fst) :
    k = key ∨ k ∈ entries.map Prod.fst := by
  induction entries generalizing entries' with
  | nil =>
    obtain ⟨b, -, heq⟩ := bind_eq_ok.mp h
    cases heq
    exact .inl (by simpa using hk)
  | cons head rest ih =>
    rw [alter] at h
    split at h
    · obtain ⟨b, -, heq⟩ := bind_eq_ok.mp h
      cases heq
      exact .inr hk
    · obtain ⟨rest', hrest, heq⟩ := bind_eq_ok.mp h
      cases heq
      rcases List.mem_cons.mp hk with rfl | hk
      · exact .inr List.mem_cons_self
      · exact (ih hrest hk).imp_right (List.mem_cons_of_mem _)

/-- A change under one key keeps keys distinct if what it puts there has distinct keys. -/
theorem keepsDistinct_alter
    (hchange : ∀ old b, change old = .ok b → (∀ o ∈ old, o.Distinct) → b.Distinct) :
    KeepsDistinct (alter key change) := by
  intro entries entries' h hentries
  induction entries generalizing entries' with
  | nil =>
    obtain ⟨b, hb, heq⟩ := bind_eq_ok.mp h
    cases heq
    simpa [AllDistinct] using hchange none b hb (by simp)
  | cons head rest ih =>
    obtain ⟨k, old⟩ := head
    obtain ⟨hkeys, hall⟩ := hentries
    simp only [List.map_cons, List.nodup_cons] at hkeys
    rw [List.forall_mem_cons] at hall
    rw [alter] at h
    split at h
    · obtain ⟨b, hb, heq⟩ := bind_eq_ok.mp h
      cases heq
      have hnew : b.Distinct := hchange (some old) b hb (by simpa using hall.1)
      exact ⟨by simpa using hkeys, List.forall_mem_cons.mpr ⟨hnew, hall.2⟩⟩
    · next hne =>
      obtain ⟨rest', hrest, heq⟩ := bind_eq_ok.mp h
      cases heq
      obtain ⟨hkeys', hall'⟩ := ih rest' hrest ⟨hkeys.2, hall.2⟩
      refine ⟨List.nodup_cons.mpr ⟨fun hk => ?_, hkeys'⟩, List.forall_mem_cons.mpr ⟨hall.1, hall'⟩⟩
      exact (mem_keys_alter hrest hk).elim hne hkeys.1

theorem KeepsDistinct.within {f : List (String × Branch) → Except DecodeFault (List (String × Branch))}
    (hf : KeepsDistinct f) (path : List String) : KeepsDistinct (Branch.within f path) := by
  induction path with
  | nil => exact hf
  | cons key path ih =>
    refine keepsDistinct_alter fun old b hb hold => ?_
    match old with
    | none =>
      obtain ⟨inner, hinner, heq⟩ := bind_eq_ok.mp hb
      cases heq
      exact distinct_table_iff.mpr (ih _ _ hinner allDistinct_nil)
    | some (.table origin entries) =>
      obtain ⟨inner, hinner, heq⟩ := bind_eq_ok.mp hb
      cases heq
      exact distinct_table_iff.mpr (ih _ _ hinner (distinct_table_iff.mp (hold _ rfl)))
    | some (.tables finished last) =>
      obtain ⟨inner, hinner, heq⟩ := bind_eq_ok.mp hb
      cases heq
      obtain ⟨hfinished, hlast⟩ := distinct_tables_iff.mp (hold _ rfl)
      exact distinct_tables_iff.mpr ⟨hfinished, ih _ _ hinner hlast⟩
    | some (.fixed _) => nomatch hb

theorem keepsDistinct_declareTable (key : String) : KeepsDistinct (declareTable key) := by
  refine keepsDistinct_alter fun old b hb hold => ?_
  split at hb
  · cases hb
    exact distinct_table_iff.mpr allDistinct_nil
  · cases hb
    exact distinct_table_iff.mpr (distinct_table_iff.mp (hold _ rfl))
  · nomatch hb

theorem keepsDistinct_declareItem (key : String) : KeepsDistinct (declareItem key) := by
  refine keepsDistinct_alter fun old b hb hold => ?_
  split at hb
  · cases hb
    exact distinct_tables_iff.mpr ⟨by simp, allDistinct_nil⟩
  · cases hb
    obtain ⟨hfinished, hlast⟩ := distinct_tables_iff.mp (hold _ rfl)
    refine distinct_tables_iff.mpr ⟨fun d hd => ?_, allDistinct_nil⟩
    rcases List.mem_append.mp hd with hd | hd
    · exact hfinished d hd
    · rw [List.mem_singleton.mp hd]
      exact hlast.finishEntries
  · nomatch hb

theorem keepsDistinct_assign (sectionNumber : Nat) (hd : d.Distinct) (path : List String) :
    KeepsDistinct (assign sectionNumber d path) := by
  match path with
  | [] => exact fun _ _ h => nomatch h
  | [key] =>
    refine keepsDistinct_alter fun old b hb _ => ?_
    split at hb
    · cases hb
      exact .fixed hd
    · nomatch hb
  | key :: key' :: path =>
    refine keepsDistinct_alter fun old b hb hold => ?_
    split at hb
    · obtain ⟨inner, hinner, heq⟩ := bind_eq_ok.mp hb
      cases heq
      exact distinct_table_iff.mpr (keepsDistinct_assign sectionNumber hd (key' :: path) _ _ hinner allDistinct_nil)
    · split at hb
      · obtain ⟨inner, hinner, heq⟩ := bind_eq_ok.mp hb
        cases heq
        have hrest := distinct_table_iff.mp (hold _ rfl)
        exact distinct_table_iff.mpr (keepsDistinct_assign sectionNumber hd (key' :: path) _ _ hinner hrest)
      · nomatch hb
    · nomatch hb

end Branch

/-! ### Values as they are written -/

variable {d : Datum} {rest s : List Char}

theorem distinct_of_moment? (h : moment? s = some (.ok (d, rest))) : d.Distinct := by
  unfold moment? at h
  split at h
  · split at h
    · cases h
      exact .moment _
    · nomatch h
  · obtain ⟨left, -, heq⟩ := Option.map_eq_some_iff.mp h
    cases heq
    exact .moment _

theorem distinct_of_basedInteger? (h : basedInteger? s = some (d, rest)) : d.Distinct := by
  unfold basedInteger? at h
  dsimp only at h
  split at h
  iterate 3
    obtain ⟨⟨ds, left⟩, -, heq⟩ := Option.bind_eq_some_iff.mp h
    cases heq
    exact .integer _
  nomatch h

theorem distinct_of_decimal? (h : decimal? s = some (.ok (d, rest))) : d.Distinct := by
  unfold decimal? at h
  obtain ⟨⟨whole, left⟩, -, h⟩ := Option.bind_eq_some_iff.mp h
  dsimp only at h
  split at h
  · split at h
    · nomatch h
    · cases h
      exact .integer _
  · obtain ⟨n, -, heq⟩ := Option.bind_eq_some_iff.mp h
    cases heq
    exact .float _

theorem distinct_of_scalar (h : scalar s = .ok (d, rest)) : d.Distinct := by
  unfold scalar at h
  split at h
  · next found hfound =>
    subst h
    rcases Option.or_eq_some_iff.mp hfound with hmoment | ⟨-, hnumber⟩
    · exact distinct_of_moment? hmoment
    · rcases Option.or_eq_some_iff.mp hnumber with hbased | ⟨-, hdecimal⟩
      · obtain ⟨part, hpart, heq⟩ := Option.map_eq_some_iff.mp hbased
        cases heq
        exact distinct_of_basedInteger? hpart
      · exact distinct_of_decimal? hdecimal
  · split at h
    · cases h
      exact .float _
    · nomatch h

theorem Statement.distinct_of_plain (h : plain s = .ok (d, rest)) : d.Distinct := by
  unfold plain at h
  dsimp only at h
  split at h
  iterate 4
    obtain ⟨⟨t, left⟩, -, heq⟩ := bind_eq_ok.mp h
    cases heq
    exact .text t
  iterate 2
    cases h
    exact .boolean _
  exact distinct_of_scalar h

namespace Statement

open Branch (AllDistinct allDistinct_nil)

/-- What is read with so much fuel has distinct keys: a value, the items of an array, and the entries of a table
that grows by assignments. -/
structure ReadsDistinct (fuel : Nat) : Prop where
  value : ∀ {steps s d rest}, Statement.value steps fuel s = .ok (d, rest) → d.Distinct
  items : ∀ {steps s ds rest}, Statement.items steps fuel s = .ok (ds, rest) → ∀ d ∈ ds, d.Distinct
  assignments : ∀ {steps entries s entries' rest},
    Statement.assignments steps fuel entries s = .ok (entries', rest) → AllDistinct entries → AllDistinct entries'

variable {fuel steps : Nat}

theorem ReadsDistinct.zero : ReadsDistinct 0 where
  value h := by
    rw [Statement.value] at h
    nomatch h
  items h := by
    rw [Statement.items] at h
    nomatch h
  assignments h := by
    rw [Statement.assignments] at h
    nomatch h

theorem ReadsDistinct.value_succ (hread : ReadsDistinct fuel)
    (h : Statement.value steps (fuel + 1) s = .ok (d, rest)) : d.Distinct := by
  unfold Statement.value at h
  split at h
  · -- an array
    dsimp only at h
    split at h
    · nomatch h
    · obtain ⟨between, -, h⟩ := bind_eq_ok.mp h
      split at h
      · cases h
        exact .array (by simp)
      · obtain ⟨⟨ds, left⟩, hds, heq⟩ := bind_eq_ok.mp h
        cases heq
        exact .array (hread.items hds)
  · -- an inline table
    dsimp only at h
    split at h
    · nomatch h
    · split at h
      · cases h
        exact .table List.nodup_nil (by simp)
      · obtain ⟨⟨entries, left⟩, hentries, heq⟩ := bind_eq_ok.mp h
        cases heq
        exact (hread.assignments hentries allDistinct_nil).finishEntries
  · exact distinct_of_plain h

theorem ReadsDistinct.items_succ {ds : List Datum} (hread : ReadsDistinct fuel)
    (h : Statement.items steps (fuel + 1) s = .ok (ds, rest)) : ∀ d ∈ ds, d.Distinct := by
  rw [Statement.items] at h
  obtain ⟨⟨v, left⟩, hv, h⟩ := bind_eq_ok.mp h
  have hlast : ∀ d ∈ [v], d.Distinct := by simpa using hread.value hv
  obtain ⟨between, -, h⟩ := bind_eq_ok.mp h
  split at h
  · cases h
    exact hlast
  · obtain ⟨between, -, h⟩ := bind_eq_ok.mp h
    split at h
    · cases h
      exact hlast
    · obtain ⟨⟨vs, left⟩, hvs, heq⟩ := bind_eq_ok.mp h
      cases heq
      exact List.forall_mem_cons.mpr ⟨hread.value hv, hread.items hvs⟩
  · nomatch h

theorem ReadsDistinct.assignments_succ {entries entries' : List (String × Branch)} (hread : ReadsDistinct fuel)
    (h : Statement.assignments steps (fuel + 1) entries s = .ok (entries', rest)) (hentries : AllDistinct entries) :
    AllDistinct entries' := by
  rw [Statement.assignments] at h
  obtain ⟨⟨k, left⟩, -, h⟩ := bind_eq_ok.mp h
  dsimp only at h
  split at h
  · obtain ⟨⟨v, left⟩, hv, h⟩ := bind_eq_ok.mp h
    obtain ⟨between, hassign, h⟩ := bind_eq_ok.mp h
    have hbetween := Branch.keepsDistinct_assign 0 (hread.value hv) _ _ _ hassign hentries
    split at h
    · cases h
      exact hbetween
    · exact hread.assignments h hbetween
    · nomatch h
  · nomatch h

/-- The fuel is what the induction is on: a value and what it is made of are read with one less each. -/
theorem readsDistinct (fuel : Nat) : ReadsDistinct fuel := by
  induction fuel with
  | zero => exact .zero
  | succ fuel ih => exact ⟨ih.value_succ, ih.items_succ, ih.assignments_succ⟩

/-- What a statement assigns has distinct keys. -/
theorem distinct_of_next {statement : Statement} (h : next s = .ok (statement, rest)) :
    ∀ keys d, statement = .assignment keys d → d.Distinct := by
  rintro keys d rfl
  unfold next at h
  split at h
  · obtain ⟨⟨k, left⟩, -, h⟩ := bind_eq_ok.mp h
    dsimp only at h
    split at h <;> nomatch h
  · obtain ⟨⟨k, left⟩, -, h⟩ := bind_eq_ok.mp h
    dsimp only at h
    split at h <;> nomatch h
  · obtain ⟨⟨k, left⟩, -, h⟩ := bind_eq_ok.mp h
    dsimp only at h
    split at h
    · obtain ⟨⟨v, left⟩, hv, heq⟩ := bind_eq_ok.mp h
      cases heq
      exact (readsDistinct _).value hv
    · nomatch h

theorem distinct_of_readFrom (fuel : Nat) (s : List Char) :
    ∀ statement ∈ (readFrom fuel s).1, ∀ keys d, statement = .assignment keys d → d.Distinct := by
  induction fuel generalizing s with
  | zero => simp [readFrom]
  | succ fuel ih =>
    rw [readFrom]
    split
    · simp
    · exact ih _
    · split
      · exact ih _
      · simp
    · split
      · simp
      · next hnext =>
        have hfirst := distinct_of_next hnext
        split
        · simpa using hfirst
        · exact List.forall_mem_cons.mpr ⟨hfirst, ih _⟩

theorem distinct_of_statements (text : String) :
    ∀ statement ∈ (Statement.read text).1, ∀ keys d, statement = .assignment keys d → d.Distinct :=
  distinct_of_readFrom _ _

end Statement

/-! ### Documents -/

namespace Document

open Branch (AllDistinct allDistinct_nil)

variable {draft draft' : Draft} {statement : Statement} {statements : List Statement} {t : Table}

/-- A statement keeps the keys of a draft distinct. -/
theorem Draft.distinct_take (h : draft.take statement = .ok draft')
    (hd : ∀ keys d, statement = .assignment keys d → d.Distinct) (hdraft : AllDistinct draft.entries) :
    AllDistinct draft'.entries := by
  obtain ⟨change, below, hchange, hentries⟩ := exists_changes h
  have hkeeps : Branch.KeepsDistinct change := by
    cases hchange with
    | header key => exact Branch.keepsDistinct_declareTable key
    | arrayHeader key => exact Branch.keepsDistinct_declareItem key
    | assignment n keys datum => exact Branch.keepsDistinct_assign n (hd keys datum rfl) keys
  exact hkeeps.within below _ _ hentries hdraft

/-- Statement by statement the keys of a draft stay distinct. -/
theorem Draft.distinct_foldlM (h : statements.foldlM Draft.take draft = .ok draft')
    (hd : ∀ statement ∈ statements, ∀ keys d, statement = .assignment keys d → d.Distinct)
    (hdraft : AllDistinct draft.entries) : AllDistinct draft'.entries :=
  foldlM_keeps (P := fun draft => AllDistinct draft.entries)
    (fun statement hmem _ _ htake hkept => distinct_take htake (hd statement hmem) hkept) h hdraft

theorem distinct_of_read {text : String} (h : read text = .ok t) : (Datum.table t).Distinct := by
  obtain ⟨table, htable, h⟩ := bind_eq_ok.mp h
  obtain ⟨draft, hdraft, heq⟩ := bind_eq_ok.mp htable
  cases heq
  have hall : AllDistinct draft.entries :=
    Draft.distinct_foldlM hdraft (Statement.distinct_of_statements text) allDistinct_nil
  split at h
  · cases h
    exact hall.finishEntries
  · nomatch h

/-- **The tables of a document that is decoded have distinct keys.** -/
theorem distinct_of_decode {bytes : ByteArray} (h : decode bytes = .ok t) : (Datum.table t).Distinct := by
  obtain ⟨text, -, hread⟩ := bind_eq_ok.mp h
  exact distinct_of_read hread

end Document
end FieldFilter.Toml
