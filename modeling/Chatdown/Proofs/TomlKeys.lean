import Chatdown.Toml.Parse
import Mathlib.Data.List.Nodup

/-!
# Keys of TOML documents

A document is refused when it gives a key twice. So no table of a document that was read has
two entries with one key, however deep it stands and whether it was written in braces, named
by a header or made by dotted keys. All ways in which a document changes its tables keep this,
and the values that are put into them are read from text in the same manner.
-/

namespace Chatdown.Toml

/-- No table in a value has two entries with one key. -/
inductive Distinct : Toml → Prop
  | text (value : String) : Distinct (.text value)
  | integer (value : Int) : Distinct (.integer value)
  | real (value : Number.Double) : Distinct (.real value)
  | boolean (value : Bool) : Distinct (.boolean value)
  | moment (value : String) : Distinct (.moment value)
  | array {elements : List Toml} (below : ∀ element ∈ elements, Distinct element) :
      Distinct (.array elements)
  | tables {elements : List Entries} (keys : ∀ entries ∈ elements, (entries.map Prod.fst).Nodup)
      (below : ∀ entries ∈ elements, ∀ entry ∈ entries, Distinct entry.2) :
      Distinct (.tables elements)
  | table {kind : TableKind} {entries : Entries} (keys : (entries.map Prod.fst).Nodup)
      (below : ∀ entry ∈ entries, Distinct entry.2) : Distinct (.table kind entries)

/-- No two entries have one key, and neither have two entries of a table in their values. -/
def DistinctEntries (entries : Entries) : Prop :=
  (entries.map Prod.fst).Nodup ∧ ∀ entry ∈ entries, Distinct entry.2

section Tables

variable {kind : TableKind} {entries : Entries} {key : String} {value : Toml}

/-- There is nothing in an empty table. -/
theorem distinctEntries_nil : DistinctEntries [] :=
  ⟨List.nodup_nil, fun _ h => absurd h List.not_mem_nil⟩

/-- The keys of a table are distinct just when those of its entries are. -/
theorem distinct_table_iff : Distinct (.table kind entries) ↔ DistinctEntries entries :=
  ⟨fun h => by cases h with | table keys below => exact ⟨keys, below⟩,
    fun ⟨keys, below⟩ => .table keys below⟩

/-- The keys of an array of tables are distinct just when those of each table are. -/
theorem distinct_tables_iff {elements : List Entries} :
    Distinct (.tables elements) ↔ ∀ entries ∈ elements, DistinctEntries entries :=
  ⟨fun h => by cases h with | tables keys below => exact fun e he => ⟨keys e he, below e he⟩,
    fun h => .tables (fun e he => (h e he).1) fun e he => (h e he).2⟩

/-- What is found under a key is a value of an entry. -/
theorem DistinctEntries.lookup (h : DistinctEntries entries)
    (hlookup : entries.lookup key = some value) : Distinct value := by
  obtain ⟨front, back, rfl, -⟩ := List.lookup_eq_some_iff.mp hlookup
  exact h.2 (key, value) (by simp)

/-- An entry is either the one that was put there, or was there before. -/
theorem mem_putEntry {entry : String × Toml} (h : entry ∈ putEntry key value entries) :
    entry = (key, value) ∨ entry ∈ entries := by
  induction entries with
  | nil => exact .inl (List.mem_singleton.mp h)
  | cons head rest ih =>
    rw [putEntry] at h
    split at h
    · rcases List.mem_cons.mp h with rfl | hrest
      · exact .inl rfl
      · exact .inr (List.mem_cons_of_mem _ hrest)
    · rcases List.mem_cons.mp h with rfl | hrest
      · exact .inr List.mem_cons_self
      · exact (ih hrest).imp_right (List.mem_cons_of_mem _)

/-- An entry takes the place of the one with its key, so keys stay distinct. -/
theorem nodup_putEntry (h : (entries.map Prod.fst).Nodup) :
    ((putEntry key value entries).map Prod.fst).Nodup := by
  induction entries with
  | nil => exact List.nodup_singleton key
  | cons head rest ih =>
    obtain ⟨other, old⟩ := head
    obtain ⟨hfirst, hrest⟩ := List.nodup_cons.mp h
    rw [putEntry]
    split
    · rename_i heq
      exact List.nodup_cons.mpr ⟨heq ▸ hfirst, hrest⟩
    · rename_i hne
      refine List.nodup_cons.mpr ⟨fun hmem => ?_, ih hrest⟩
      obtain ⟨entry, hentry, hkey⟩ := List.mem_map.mp hmem
      rcases mem_putEntry hentry with rfl | hold
      · exact hne hkey.symm
      · exact hfirst (List.mem_map.mpr ⟨entry, hold, hkey⟩)

/-- Keys stay distinct when a value with distinct keys is put under one of them. -/
theorem DistinctEntries.putEntry (h : DistinctEntries entries) (hvalue : Distinct value) :
    DistinctEntries (putEntry key value entries) := by
  refine ⟨nodup_putEntry h.1, fun entry hentry => ?_⟩
  rcases mem_putEntry hentry with rfl | hold
  · exact hvalue
  · exact h.2 entry hold

end Tables

section Changes

/-- A change of a table that succeeds keeps its keys distinct. -/
def KeepsDistinct (change : TableKind → Entries → Option (TableKind × Entries)) : Prop :=
  ∀ kind entries result, change kind entries = some result →
    DistinctEntries entries → DistinctEntries result.2

/-- What all members of a list have, they have after a change of the last one that keeps
it. -/
theorem forall_mem_changeLast {α : Type} {P : α → Prop} {change : α → Option α}
    (hchange : ∀ a b, change a = some b → P a → P b) {members result : List α}
    (h : changeLast change members = some result) (hmembers : ∀ a ∈ members, P a) :
    ∀ a ∈ result, P a := by
  induction members generalizing result with
  | nil => contradiction
  | cons first rest ih =>
    cases rest with
    | nil =>
      obtain ⟨last, hlast, rfl⟩ := Option.map_eq_some_iff.mp h
      have hfirst : P last := hchange first last hlast (hmembers first List.mem_cons_self)
      exact List.forall_mem_singleton.mpr hfirst
    | cons second others =>
      obtain ⟨changed, hrest, rfl⟩ := Option.map_eq_some_iff.mp h
      obtain ⟨hfirst, hothers⟩ := List.forall_mem_cons.mp hmembers
      exact List.forall_mem_cons.mpr ⟨hfirst, ih hrest hothers⟩

/-- A change of the table that some keys lead to keeps keys distinct when it does so in that
table. -/
theorem KeepsDistinct.changeAt {change : TableKind → Entries → Option (TableKind × Entries)}
    (h : KeepsDistinct change) (dotted : Bool) (path : List String) :
    KeepsDistinct (changeAt dotted change path) := by
  induction path with
  | nil => exact h
  | cons key path ih =>
    intro kind entries result hresult hentries
    rw [Toml.changeAt.eq_def] at hresult
    split at hresult
    · contradiction
    rename_i hpath
    obtain ⟨rfl, rfl⟩ := List.cons.inj hpath
    split at hresult
    · -- A table is made on the way.
      obtain ⟨inner, hinner, rfl⟩ := Option.map_eq_some_iff.mp hresult
      exact hentries.putEntry (distinct_table_iff.mpr (ih _ _ _ hinner distinctEntries_nil))
    · -- The way goes through a table.
      rename_i below inner hlookup
      split at hresult
      · contradiction
      obtain ⟨changed, hchanged, rfl⟩ := Option.map_eq_some_iff.mp hresult
      have hinner := distinct_table_iff.mp (hentries.lookup hlookup)
      exact hentries.putEntry (distinct_table_iff.mpr (ih _ _ _ hchanged hinner))
    · -- The way goes through the last table of an array.
      rename_i elements hlookup
      obtain ⟨changed, hchanged, rfl⟩ := Option.map_eq_some_iff.mp hresult
      have helements := distinct_tables_iff.mp (hentries.lookup hlookup)
      refine hentries.putEntry (distinct_tables_iff.mpr ?_)
      refine forall_mem_changeLast (fun inner after hafter hinner => ?_) hchanged helements
      obtain ⟨below, hbelow, rfl⟩ := Option.map_eq_some_iff.mp hafter
      exact ih _ _ _ hbelow hinner
    · contradiction

/-- A value goes under a dotted key only where there is none. -/
theorem keepsDistinct_addDotted (path : List String) (key : String) {value : Toml}
    (h : Distinct value) : KeepsDistinct (addDotted path key value) := by
  refine KeepsDistinct.changeAt (fun kind entries result hresult hentries => ?_) true path
  split at hresult
  · obtain ⟨added, hadded, rfl⟩ := Option.map_eq_some_iff.mp hresult
    rw [addNew] at hadded
    split at hadded
    · contradiction
    · exact Option.some.inj hadded ▸ hentries.putEntry h
  · contradiction

/-- A header names a table that is new or lies on the way to others. -/
theorem keepsDistinct_nameTable (key : String) : KeepsDistinct (nameTable key) := by
  intro kind entries result hresult hentries
  rw [nameTable] at hresult
  split at hresult
  · exact Option.some.inj hresult ▸
      hentries.putEntry (distinct_table_iff.mpr distinctEntries_nil)
  · rename_i inner hlookup
    have hinner := distinct_table_iff.mp (hentries.lookup hlookup)
    exact Option.some.inj hresult ▸ hentries.putEntry (distinct_table_iff.mpr hinner)
  · contradiction

/-- A header names the next table of an array, which is empty. -/
theorem keepsDistinct_nameElement (key : String) : KeepsDistinct (nameElement key) := by
  intro kind entries result hresult hentries
  rw [nameElement] at hresult
  split at hresult
  · exact Option.some.inj hresult ▸ hentries.putEntry
      (distinct_tables_iff.mpr (List.forall_mem_singleton.mpr distinctEntries_nil))
  · rename_i elements hlookup
    have helements := distinct_tables_iff.mp (hentries.lookup hlookup)
    exact Option.some.inj hresult ▸ hentries.putEntry (distinct_tables_iff.mpr
      (List.forall_mem_append.mpr
        ⟨helements, List.forall_mem_singleton.mpr distinctEntries_nil⟩))
  · contradiction

end Changes

/-- A property that each step keeps holds after all of them, if they succeed. -/
theorem foldlM_keeps {α β : Type} {P : β → Prop} {step : β → α → Option β} {members : List α}
    (hstep : ∀ b, ∀ a ∈ members, ∀ c, step b a = some c → P b → P c) {start result : β}
    (h : members.foldlM step start = some result) (hstart : P start) : P result := by
  induction members generalizing start with
  | nil => exact Option.some.inj h ▸ hstart
  | cons first rest ih =>
    rw [List.foldlM_cons] at h
    obtain ⟨middle, hmiddle, hrest⟩ := Option.bind_eq_some_iff.mp h
    obtain ⟨hfirst, hothers⟩ :=
      List.forall_mem_cons.mp fun a ha b => hstep b a ha
    exact ih (fun b a ha => hothers a ha b) hrest (hfirst start middle hmiddle hstart)

section Reading

/-- A table in braces gives no key twice. -/
theorem distinct_tableOfPairs {pairs : List (List String × String × Toml)} {table : Toml}
    (h : tableOfPairs pairs = some table) (hpairs : ∀ pair ∈ pairs, Distinct pair.2.2) :
    Distinct table := by
  obtain ⟨⟨kind, entries⟩, hfold, rfl⟩ := Option.map_eq_some_iff.mp h
  refine distinct_table_iff.mpr ?_
  refine foldlM_keeps (P := fun result => DistinctEntries result.2) ?_ hfold distinctEntries_nil
  intro before pair hpair after hafter hbefore
  exact keepsDistinct_addDotted pair.1 pair.2.1 (hpairs pair hpair) _ _ _ hafter hbefore

/-- A value without quotes or brackets is no table. -/
theorem distinct_word? {s : List Char} {value : Toml} (h : word? s = some value) :
    Distinct value := by
  rw [word?] at h
  split at h
  · exact Option.some.inj h ▸ .boolean true
  split at h
  · exact Option.some.inj h ▸ .boolean false
  split at h
  · exact Option.some.inj h ▸ .moment _
  · exact Option.some.inj h ▸ .real _
  · exact Option.some.inj h ▸ .integer _
  · contradiction

/-- A value without quotes or brackets is no table, whether it has a space in it or not. -/
theorem distinct_scalar {s rest : List Char} {value : Toml} (h : scalar s = some (value, rest)) :
    Distinct value := by
  rw [scalar, Option.or_eq_some_iff] at h
  rcases h with hlonger | ⟨-, hword⟩
  · split at hlonger
    · obtain ⟨read, hread, hpair⟩ := Option.map_eq_some_iff.mp hlonger
      exact (Prod.mk.inj hpair).1 ▸ distinct_word? hread
    · contradiction
  · obtain ⟨read, hread, hpair⟩ := Option.map_eq_some_iff.mp hword
    exact (Prod.mk.inj hpair).1 ▸ distinct_word? hread

/-- All values that are read with so much fuel have distinct keys. -/
structure ReadsDistinct (fuel : Nat) : Prop where
  /-- A value has distinct keys. -/
  value : ∀ {depth s found rest}, value fuel depth s = some (found, rest) → Distinct found
  /-- The elements of an array have. -/
  elements : ∀ {depth s found rest}, elements fuel depth s = some (found, rest) →
    ∀ element ∈ found, Distinct element
  /-- The values of pairs have. -/
  pairs : ∀ {depth s found rest}, pairs fuel depth s = some (found, rest) →
    ∀ pair ∈ found, Distinct pair.2.2

variable {fuel depth : Nat} {s rest : List Char}

/-- A value has distinct keys when those inside it have. -/
theorem ReadsDistinct.value_succ (h : ReadsDistinct fuel) {found : Toml}
    (hread : Toml.value (fuel + 1) depth s = some (found, rest)) : Distinct found := by
  rw [Toml.value.eq_def] at hread
  dsimp only at hread
  split at hread
  · -- An array.
    split at hread
    · contradiction
    obtain ⟨read, helements, hpair⟩ := Option.map_eq_some_iff.mp hread
    obtain ⟨rfl, -⟩ := Prod.mk.inj hpair
    exact .array (h.elements helements)
  · -- A table in braces.
    split at hread
    · contradiction
    split at hread
    · obtain ⟨rfl, -⟩ := Prod.mk.inj (Option.some.inj hread)
      exact distinct_table_iff.mpr distinctEntries_nil
    split at hread
    · rename_i hpairs
      obtain ⟨table, htable, hpair⟩ := Option.map_eq_some_iff.mp hread
      obtain ⟨rfl, -⟩ := Prod.mk.inj hpair
      exact distinct_tableOfPairs htable (h.pairs hpairs)
    · contradiction
  · split at hread
    · obtain ⟨rfl, -⟩ := Prod.mk.inj (Option.some.inj hread)
      exact .text _
    · exact distinct_scalar hread

/-- The elements of an array have distinct keys when each value has. -/
theorem ReadsDistinct.elements_succ (h : ReadsDistinct fuel) {found : List Toml}
    (hread : Toml.elements (fuel + 1) depth s = some (found, rest)) :
    ∀ element ∈ found, Distinct element := by
  rw [Toml.elements.eq_def] at hread
  dsimp only at hread
  split at hread
  · obtain ⟨rfl, -⟩ := Prod.mk.inj (Option.some.inj hread)
    exact fun _ hmem => absurd hmem List.not_mem_nil
  split at hread
  · contradiction
  rename_i hfirst
  split at hread
  · obtain ⟨read, hothers, hpair⟩ := Option.map_eq_some_iff.mp hread
    obtain ⟨rfl, -⟩ := Prod.mk.inj hpair
    exact List.forall_mem_cons.mpr ⟨h.value hfirst, h.elements hothers⟩
  · obtain ⟨rfl, -⟩ := Prod.mk.inj (Option.some.inj hread)
    exact List.forall_mem_singleton.mpr (h.value hfirst)
  · contradiction

/-- The values of pairs have distinct keys when each value has. -/
theorem ReadsDistinct.pairs_succ (h : ReadsDistinct fuel)
    {found : List (List String × String × Toml)}
    (hread : Toml.pairs (fuel + 1) depth s = some (found, rest)) :
    ∀ pair ∈ found, Distinct pair.2.2 := by
  rw [Toml.pairs.eq_def] at hread
  dsimp only at hread
  split at hread
  · split at hread
    · contradiction
    rename_i hvalue
    split at hread
    · obtain ⟨read, hothers, hpair⟩ := Option.map_eq_some_iff.mp hread
      obtain ⟨rfl, -⟩ := Prod.mk.inj hpair
      exact List.forall_mem_cons.mpr ⟨h.value hvalue, h.pairs hothers⟩
    · obtain ⟨rfl, -⟩ := Prod.mk.inj (Option.some.inj hread)
      exact List.forall_mem_singleton.mpr (h.value hvalue)
    · contradiction
  · contradiction

/-- Whatever the fuel, what is read has distinct keys. -/
theorem readsDistinct (fuel : Nat) : ReadsDistinct fuel := by
  induction fuel with
  | zero => exact ⟨fun h => by contradiction, fun h => by contradiction, fun h => by contradiction⟩
  | succ fuel ih => exact ⟨ih.value_succ, ih.elements_succ, ih.pairs_succ⟩

end Reading

section Documents

/-- A statement gives a value with distinct keys, if it gives one. -/
def Statement.Distinct : Statement → Prop
  | .table _ _ => True
  | .element _ _ => True
  | .pair _ _ value => Toml.Distinct value

/-- A line gives a value with distinct keys, if it gives one. -/
theorem distinct_statement {s rest : List Char} {found : Statement}
    (h : statement s = some (found, rest)) : found.Distinct := by
  rw [statement.eq_def] at h
  split at h
  · obtain ⟨⟨path, key, rest⟩, -, h⟩ := Option.bind_eq_some_iff.mp h
    obtain ⟨_, -, h⟩ := Option.bind_eq_some_iff.mp h
    obtain ⟨_, -, h⟩ := Option.bind_eq_some_iff.mp h
    exact (Prod.mk.inj (Option.some.inj h)).1 ▸ trivial
  · obtain ⟨⟨path, key, rest⟩, -, h⟩ := Option.bind_eq_some_iff.mp h
    obtain ⟨_, -, h⟩ := Option.bind_eq_some_iff.mp h
    obtain ⟨_, -, h⟩ := Option.bind_eq_some_iff.mp h
    exact (Prod.mk.inj (Option.some.inj h)).1 ▸ trivial
  · obtain ⟨⟨path, key, rest⟩, -, h⟩ := Option.bind_eq_some_iff.mp h
    obtain ⟨_, -, h⟩ := Option.bind_eq_some_iff.mp h
    obtain ⟨⟨value, rest⟩, hvalue, h⟩ := Option.bind_eq_some_iff.mp h
    obtain ⟨_, -, h⟩ := Option.bind_eq_some_iff.mp h
    exact (Prod.mk.inj (Option.some.inj h)).1 ▸ (readsDistinct _).value hvalue

/-- All lines give values with distinct keys, if they give any. -/
theorem distinct_statements {fuel : Nat} {s : List Char} {found : List Statement}
    (h : statements fuel s = some found) : ∀ statement ∈ found, statement.Distinct := by
  induction fuel generalizing s found with
  | zero => contradiction
  | succ fuel ih =>
    rw [statements.eq_def] at h
    dsimp only at h
    split at h
    · exact Option.some.inj h ▸ fun _ hmem => absurd hmem List.not_mem_nil
    · split at h
      · exact Option.some.inj h ▸ fun _ hmem => absurd hmem List.not_mem_nil
      · contradiction
    · split at h
      · contradiction
      rename_i hfirst
      obtain ⟨others, hothers, rfl⟩ := Option.map_eq_some_iff.mp h
      exact List.forall_mem_cons.mpr ⟨distinct_statement hfirst, ih hothers⟩

/-- Each statement that is taken into account keeps the keys of the document distinct. -/
theorem distinctEntries_take {before after : Progress} {statement : Statement}
    (h : before.take statement = some after) (hstatement : statement.Distinct)
    (hbefore : DistinctEntries before.entries) : DistinctEntries after.entries := by
  cases statement with
  | table path key =>
    obtain ⟨⟨kind, entries⟩, hchange, h⟩ := Option.bind_eq_some_iff.mp h
    exact Option.some.inj h ▸
      (keepsDistinct_nameTable key).changeAt false path _ _ _ hchange hbefore
  | element path key =>
    obtain ⟨⟨kind, entries⟩, hchange, h⟩ := Option.bind_eq_some_iff.mp h
    exact Option.some.inj h ▸
      (keepsDistinct_nameElement key).changeAt false path _ _ _ hchange hbefore
  | pair path key value =>
    obtain ⟨⟨kind, entries⟩, hchange, h⟩ := Option.bind_eq_some_iff.mp h
    exact Option.some.inj h ▸
      (keepsDistinct_addDotted path key hstatement).changeAt false _ _ _ _ hchange hbefore

/-- A document that was read has distinct keys, at the top and at every depth. -/
theorem distinctEntries_parse {text : List Char} {entries : Entries}
    (h : parse? text = some entries) : DistinctEntries entries := by
  obtain ⟨found, hfound, h⟩ := Option.bind_eq_some_iff.mp h
  obtain ⟨progress, hprogress, h⟩ := Option.bind_eq_some_iff.mp h
  obtain rfl := Option.some.inj h
  refine foldlM_keeps (P := fun progress => DistinctEntries progress.entries) ?_ hprogress
    distinctEntries_nil
  exact fun before statement hmem after hafter =>
    distinctEntries_take hafter (distinct_statements hfound statement hmem)

end Documents

end Chatdown.Toml
