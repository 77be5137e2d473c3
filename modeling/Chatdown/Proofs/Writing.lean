import Chatdown.Files.Tree

/-!
# What writing a file changes

A path leads to the same place before and after a file is written, since writing makes or
changes a file only and the walk along a path goes through directories. So what was
written is read back from the path, and at all other places there is what there was.
-/

namespace Chatdown.Files

/-- Two steps succeed when the first does, and the second with what the first gave. -/
theorem bind_eq_ok_iff {ε α β : Type} {first : Except ε α} {next : α → Except ε β}
    {result : β} :
    (first >>= next) = .ok result ↔ ∃ middle, first = .ok middle ∧ next middle = .ok result := by
  cases first with
  | error fault => exact ⟨fun h => by contradiction, fun ⟨_, h, _⟩ => by contradiction⟩
  | ok middle => exact ⟨fun h => ⟨middle, rfl, h⟩, fun ⟨_, hm, h⟩ => Except.ok.inj hm ▸ h⟩

/-- A step that succeeds hands on what it gave. -/
theorem ok_bind {ε α β : Type} (value : α) (next : α → Except ε β) :
    (Except.ok value >>= next) = next value := rfl

namespace Tree

/-- The place that a path leads to. -/
def locate (tree : Tree) (path : List Char) : Except Fault Place := do
  tree.walk (← tree.start path) (Path.names path)

variable {tree : Tree} {place : Place}

/-- At a place below the root, there is what was put there. -/
theorem at?_put_self (h : place ≠ []) (entry : Entry) :
    (tree.put place entry).at? place = some entry := by
  rw [at?, if_neg (by simpa using h)]
  exact lookup_putEntry_self place entry tree.entries

/-- At all other places, there is what there was. -/
theorem at?_put_of_ne {other : Place} (h : other ≠ place) (entry : Entry) :
    (tree.put place entry).at? other = tree.at? other := by
  rw [at?, at?]
  split
  · rfl
  · exact lookup_putEntry_of_ne h entry tree.entries

/-- A directory is where one is needed just when it is there. -/
theorem needDirectory_eq_ok_iff {directory : Place} :
    tree.needDirectory directory = .ok () ↔ tree.at? directory = some .directory := by
  rw [needDirectory]
  split <;> simp [*]

/-- A walk takes its last step from the directory where the walk before it ends. -/
theorem walk_concat (tree : Tree) (origin : Place) (names : List Name) (name : Name) :
    tree.walk origin (names ++ [name]) = (do
      let directory ← tree.walk origin names
      tree.needDirectory directory
      step directory name) := by
  induction names generalizing origin with
  | nil =>
    change (tree.needDirectory origin >>= fun _ => step origin name >>= pure) = _
    rw [bind_pure, walk, ok_bind]
  | cons first rest ih =>
    rw [List.cons_append, walk, walk]
    simp only [ih, bind_assoc]

/-- A walk goes the same way when something is put where no directory was. -/
theorem walk_put (hplace : tree.at? place ≠ some .directory) (entry : Entry) {names : List Name}
    {origin destination : Place} (h : tree.walk origin names = .ok destination) :
    (tree.put place entry).walk origin names = .ok destination := by
  induction names generalizing origin with
  | nil => exact h
  | cons name rest ih =>
    rw [walk] at h
    obtain ⟨_, hneed, hrest⟩ := bind_eq_ok_iff.mp h
    obtain ⟨next, hnext, hwalk⟩ := bind_eq_ok_iff.mp hrest
    have hthere := needDirectory_eq_ok_iff.mp hneed
    have hne : origin ≠ place := fun he => hplace (he ▸ hthere)
    have hput : (tree.put place entry).needDirectory origin = .ok () := by
      rw [needDirectory_eq_ok_iff, at?_put_of_ne hne, hthere]
    rw [walk, hput, hnext]
    exact ih hwalk

/-- To write is to put a file where the path leads, and there is no directory there. -/
theorem exists_of_write {after : Tree} {path : List Char} {content : List UInt8}
    (h : tree.write path content = .ok after) : ∃ place, tree.locate path = .ok place ∧
      tree.at? place ≠ some .directory ∧ Path.endsInSlash path = false ∧
        after = tree.put place (.file content) := by
  rw [write] at h
  obtain ⟨origin, hstart, h⟩ := bind_eq_ok_iff.mp h
  obtain ⟨directory, hwalk, h⟩ := bind_eq_ok_iff.mp h
  obtain ⟨_, hneed, h⟩ := bind_eq_ok_iff.mp h
  split at h
  · contradiction
  rename_i hslash
  obtain ⟨place, hstep, h⟩ := bind_eq_ok_iff.mp h
  have hfile : tree.at? place ≠ some .directory ∧ after = tree.put place (.file content) := by
    split at h
    · contradiction
    · rename_i hnot
      exact ⟨hnot, (Except.ok.inj h).symm⟩
  refine ⟨place, ?_, hfile.1, Bool.not_eq_true _ ▸ hslash, hfile.2⟩
  rw [locate, hstart, ok_bind]
  obtain hnil | ⟨front, last, hnames⟩ := List.eq_nil_or_concat (Path.names path)
  · -- Without a name, the path leads to the directory where the walk starts.
    rw [hnil] at hwalk hstep
    obtain rfl := Except.ok.inj hwalk
    obtain rfl : origin = place := Except.ok.inj hstep
    exact absurd (needDirectory_eq_ok_iff.mp hneed) hfile.1
  · rw [List.concat_eq_append] at hnames
    rw [hnames, List.dropLast_concat] at hwalk
    rw [hnames, List.getLast?_concat] at hstep
    rw [hnames, walk_concat, hwalk, ok_bind, hneed, ok_bind]
    exact hstep

/-- The content of the file that a path leads to is read. -/
theorem read_of_locate {path : List Char} {content : List UInt8}
    (hlocate : tree.locate path = .ok place) (hfile : tree.at? place = some (.file content))
    (hslash : Path.endsInSlash path = false) : tree.read path = .ok content := by
  obtain ⟨origin, hstart, hwalk⟩ := bind_eq_ok_iff.mp hlocate
  rw [read, hstart, ok_bind, hwalk, ok_bind, hfile]
  exact if_neg (Bool.not_eq_true _ ▸ hslash)

/-- A tree is what there was before, but for the content of the file that a path leads
to. -/
structure Overwritten (before after : Tree) (path : List Char) (content : List UInt8) :
    Prop where
  /-- The working directory is the same. -/
  working : after.working = before.working
  /-- The content is read back from the path. -/
  read : after.read path = .ok content
  /-- At the place that the path leads to, where no directory was, there is a file with the
  content, and at all other places there is what there was. -/
  places : ∃ place, before.locate path = .ok place ∧
    before.at? place ≠ some .directory ∧ after.at? place = some (.file content) ∧
      ∀ other, other ≠ place → after.at? other = before.at? other

/-- Writing changes nothing but the content of the file. -/
theorem overwritten_of_write {after : Tree} {path : List Char} {content : List UInt8}
    (h : tree.write path content = .ok after) : Overwritten tree after path content := by
  obtain ⟨place, hlocate, hplace, hslash, rfl⟩ := exists_of_write h
  have hroot : place ≠ [] := by
    rintro rfl
    exact hplace rfl
  have hthere : (tree.put place (.file content)).at? place = some (.file content) :=
    at?_put_self hroot _
  refine ⟨rfl, ?_, place, hlocate, hplace, hthere, fun other hne => at?_put_of_ne hne _⟩
  obtain ⟨origin, hstart, hwalk⟩ := bind_eq_ok_iff.mp hlocate
  have hlocate' : (tree.put place (.file content)).locate path = .ok place :=
    bind_eq_ok_iff.mpr ⟨origin, hstart, walk_put hplace _ hwalk⟩
  exact read_of_locate hlocate' hthere hslash

end Tree

end Chatdown.Files
