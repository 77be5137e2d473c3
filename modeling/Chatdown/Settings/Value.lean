import Chatdown.Toml.Value

/-!
# Values of settings

Settings are gathered in one table. Keys are read in lower case. When a table is put
where one is already, its entries are put into that one, key by key; any other value
takes the place of what was there. Sequences and tables that come from a file as a
whole know its name.
-/

namespace Chatdown.Settings

/-- A value of the settings. -/
inductive Value where
  | null
  | boolean (value : Bool)
  | integer (value : Int)
  | real (value : Number.Double)
  | text (value : String)
  | sequence (origin : Option String) (elements : List Value)
  | table (origin : Option String) (entries : List (String × Value))
deriving Repr

namespace Value

/-- The entries of a table. -/
abbrev Entries := List (String × Value)

mutual

/-- A TOML value from a file. -/
def ofToml (origin : String) : Toml → Value
  | .text value => .text value
  | .integer value => .integer value
  | .real value => .real value
  | .boolean value => .boolean value
  | .moment value => .text value
  | .array elements => .sequence (some origin) (ofElements origin elements)
  | .tables elements => .sequence (some origin) (ofTables origin elements)
  | .table _ entries => .table (some origin) (ofEntries origin entries)

/-- The elements of a TOML array from a file. -/
def ofElements (origin : String) : List Toml → List Value
  | [] => []
  | element :: rest => ofToml origin element :: ofElements origin rest

/-- The tables of a TOML array from a file. -/
def ofTables (origin : String) : List (List (String × Toml)) → List Value
  | [] => []
  | entries :: rest => .table (some origin) (ofEntries origin entries) :: ofTables origin rest

/-- The entries of a TOML table from a file. -/
def ofEntries (origin : String) : List (String × Toml) → Entries
  | [] => []
  | (key, value) :: rest => (key, ofToml origin value) :: ofEntries origin rest

end

/-- A key as it counts. -/
def foldKey (key : String) : String :=
  key.map Char.toLower

/-- Put a value in the place of the one with its key, or behind all others. -/
def putEntry (key : String) (value : Value) : Entries → Entries
  | [] => [(key, value)]
  | (other, old) :: rest =>
    if other = key then (key, value) :: rest else (other, old) :: putEntry key value rest

/-- The origin and the entries of a table; of anything else, those of a new table. -/
def asTable : Value → Option String × Entries
  | table origin entries => (origin, entries)
  | _ => (none, [])

/-- The origin and the elements of a sequence; of anything else, those of a new
sequence. -/
def asSequence : Value → Option String × List Value
  | sequence origin elements => (origin, elements)
  | _ => (none, [])

/-- Change what stands under a key, perhaps nothing, in a value that is made a table
unless it is one. -/
def changeEntry (key : String) (change : Option Value → Value) (value : Value) : Value :=
  let (origin, entries) := value.asTable
  let key := foldKey key
  table origin (putEntry key (change (entries.lookup key)) entries)

mutual

/-- What stands in the place of a value, or where nothing stood, when another one is
put there. -/
def merge (old : Option Value) : Value → Value
  | table _ entries => mergeEntries (old.getD (table none [])) entries
  | value => value

/-- A value with entries put into it. -/
def mergeEntries (value : Value) : Entries → Value
  | [] => value
  | (key, new) :: rest => mergeEntries (changeEntry key (fun old => merge old new) value) rest

end

/-- Elements, with null ones added until there are more than `index`. -/
def padTo (index : Nat) (elements : List Value) : List Value :=
  elements ++ List.replicate (index + 1 - elements.length) null

/-- Change an element of a value that is made a sequence unless it is one. A negative
index counts from the end. Null elements are added where the sequence is too short. -/
def changeElement (index : Int) (change : Value → Value) (value : Value) : Value :=
  let (origin, elements) := value.asSequence
  match index with
  | .ofNat index => sequence origin ((padTo index elements).modify index change)
  | .negSucc before =>
    let missing := before + 1 - elements.length
    let elements := List.replicate missing null ++ elements
    sequence origin (elements.modify (elements.length - (before + 1)) change)

/-- What is put under a key is found there. -/
theorem lookup_putEntry_self (key : String) (value : Value) (entries : Entries) :
    (putEntry key value entries).lookup key = some value := by
  induction entries with
  | nil => simp [putEntry]
  | cons head rest ih =>
    obtain ⟨other, old⟩ := head
    by_cases h : other = key
    · simp [putEntry, h]
    · have h' : (key == other) = false := by simpa using fun e => h e.symm
      simp [putEntry, h, List.lookup_cons, h', ih]

/-- What stands under all other keys stays as it is. -/
theorem lookup_putEntry_of_ne {key other : String} (h : other ≠ key) (value : Value)
    (entries : Entries) : (putEntry key value entries).lookup other = entries.lookup other := by
  induction entries with
  | nil =>
    have h' : (other == key) = false := by simpa using h
    simp [putEntry, List.lookup_cons, h']
  | cons head rest ih =>
    obtain ⟨first, old⟩ := head
    by_cases hf : first = key
    · have h' : (other == key) = false := by simpa using h
      simp [putEntry, hf, List.lookup_cons, h']
    · simp only [putEntry, hf, if_false, List.lookup_cons, ih]

end Value

end Chatdown.Settings
