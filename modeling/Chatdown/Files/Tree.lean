import Chatdown.Files.Path
import Chatdown.Text.Utf8

/-!
# Trees of files

Files and directories, each at the place that names lead to from the root, and the
working directory, from which relative paths lead. A path is walked name by name:
each place before its last must be a directory. Writing replaces the content of a
file or makes a new one, or it fails and changes nothing.
-/

namespace Chatdown.Files

open Text

/-- Why a path cannot be read or written. -/
inductive Fault where
  /-- Nothing is there, or a directory on the way is missing. -/
  | notFound
  /-- A file stands where a directory is needed. -/
  | notDirectory
  /-- A directory stands where a file is needed. -/
  | isDirectory
  /-- A name or the path as a whole is too long. -/
  | nameTooLong
deriving DecidableEq, Repr

/-- The text of a fault. -/
def Fault.message : Fault → String
  | notFound => "No such file or directory (os error 2)"
  | notDirectory => "Not a directory (os error 20)"
  | isDirectory => "Is a directory (os error 21)"
  | nameTooLong => "File name too long (os error 36)"

/-- What stands at a place. -/
inductive Entry where
  | file (content : List UInt8)
  | directory
deriving DecidableEq, Repr

/-- The names that lead to a place from the root. -/
abbrev Place := List Name

/-- Files and directories. -/
structure Tree where
  /-- The working directory. -/
  working : Place
  /-- What stands where. The root is a directory without being listed. -/
  entries : List (Place × Entry)
deriving Repr

/-- The most octets a name may have. -/
def maxName : Nat := 255

/-- The most octets a path may have. -/
def maxPath : Nat := 4095

namespace Tree

/-- A tree with nothing in it but its working directory and what leads there. -/
def empty (working : Place) : Tree :=
  ⟨working, (List.range working.length).map fun count => (working.take (count + 1), .directory)⟩

/-- What stands at a place. -/
def at? (tree : Tree) (place : Place) : Option Entry :=
  if place.isEmpty then some .directory else tree.entries.lookup place

/-- Put an entry in the place of the one there, or behind all others. -/
def putEntry (place : Place) (entry : Entry) :
    List (Place × Entry) → List (Place × Entry)
  | [] => [(place, entry)]
  | (other, old) :: rest =>
    if other = place then (place, entry) :: rest
    else (other, old) :: putEntry place entry rest

/-- The tree with an entry at a place. -/
def put (tree : Tree) (place : Place) (entry : Entry) : Tree :=
  { tree with entries := putEntry place entry tree.entries }

/-- The place that a name leads to from a directory. -/
def step (place : Place) (name : Name) : Except Fault Place :=
  if name = ['.'] then .ok place
  else if name = ['.', '.'] then .ok place.dropLast
  else if maxName < (Utf8.encode name).length then .error .nameTooLong
  else .ok (place ++ [name])

/-- Refuse a place that holds no directory. -/
def needDirectory (tree : Tree) (place : Place) : Except Fault Unit :=
  match tree.at? place with
  | none => .error .notFound
  | some (.file _) => .error .notDirectory
  | some .directory => .ok ()

/-- The place that names lead to from a place. -/
def walk (tree : Tree) (place : Place) : List Name → Except Fault Place
  | [] => .ok place
  | name :: rest => do
    tree.needDirectory place
    tree.walk (← step place name) rest

/-- Where the walk along a path starts. No walk starts for a path that is empty or
too long. -/
def start (tree : Tree) (path : List Char) : Except Fault Place :=
  if path.isEmpty then .error .notFound
  else if maxPath < (Utf8.encode path).length then .error .nameTooLong
  else .ok (if Path.isAbsolute path then [] else tree.working)

/-- The content of the file at the end of a path. -/
def read (tree : Tree) (path : List Char) : Except Fault (List UInt8) := do
  let place ← tree.walk (← tree.start path) (Path.names path)
  match tree.at? place with
  | none => .error .notFound
  | some .directory => .error .isDirectory
  | some (.file content) =>
    if Path.endsInSlash path then .error .notDirectory else .ok content

/-- Whether a path ends at a file. -/
def isFile (tree : Tree) (path : List Char) : Bool :=
  match tree.read path with
  | .ok _ => true
  | .error _ => false

/-- Make content the file at the end of a path. -/
def write (tree : Tree) (path : List Char) (content : List UInt8) : Except Fault Tree := do
  let names := Path.names path
  let directory ← tree.walk (← tree.start path) names.dropLast
  tree.needDirectory directory
  if Path.endsInSlash path then .error .isDirectory
  else
    let place ← step directory (names.getLast?.getD ['.'])
    match tree.at? place with
    | some .directory => .error .isDirectory
    | _ => .ok (tree.put place (.file content))

/-- The tree with an entry below its working directory, and the directories that
lead to it. -/
def withEntry (tree : Tree) (path : List Char) (entry : Entry) : Tree :=
  let place := tree.working ++ Path.names path
  let missing := (List.range place.length).map fun count => place.take count
  let tree := missing.foldl
    (fun tree place => if (tree.at? place).isSome then tree else tree.put place .directory) tree
  tree.put place entry

/-- The files of a tree that another one does not have or has with other content:
the names that lead to each from the working directory, and its content. -/
def changesSince (tree before : Tree) : List (List Char × List UInt8) :=
  tree.entries.filterMap fun (place, entry) =>
    match entry with
    | .directory => none
    | .file content =>
      if before.at? place = some entry then none
      else some (Path.ofNames (Path.between tree.working place), content)

/-- What is put at a place is found there. -/
theorem lookup_putEntry_self (place : Place) (entry : Entry) (entries : List (Place × Entry)) :
    (putEntry place entry entries).lookup place = some entry := by
  induction entries with
  | nil => simp [putEntry]
  | cons head rest ih =>
    obtain ⟨other, old⟩ := head
    by_cases h : other = place
    · simp [putEntry, h]
    · have h' : (place == other) = false := by simpa using fun e => h e.symm
      simp [putEntry, h, List.lookup_cons, h', ih]

/-- All other places stay as they are. -/
theorem lookup_putEntry_of_ne {place other : Place} (h : other ≠ place) (entry : Entry)
    (entries : List (Place × Entry)) :
    (putEntry place entry entries).lookup other = entries.lookup other := by
  induction entries with
  | nil =>
    have h' : (other == place) = false := by simpa using h
    simp [putEntry, List.lookup_cons, h']
  | cons head rest ih =>
    obtain ⟨first, old⟩ := head
    by_cases hf : first = place
    · have h' : (other == place) = false := by simpa using h
      simp [putEntry, hf, List.lookup_cons, h']
    · simp only [putEntry, hf, if_false, List.lookup_cons, ih]

end Tree

end Chatdown.Files
