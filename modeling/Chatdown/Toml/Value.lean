import Chatdown.Number.Double

/-!
# TOML values and tables

A table remembers how it came to be, because that decides what may still be added
to it: a table that stands in braces is complete, one that a header names must not
be named by another, one that only lies on the way to a named table may still be,
and one made by dotted keys grows by dotted keys alone.
-/

namespace Chatdown

/-- How a table came to be. -/
inductive Toml.TableKind where
  /-- Written in braces. -/
  | inline
  /-- Named by a header, or the whole document. -/
  | named
  /-- On the way to a table that a header names. -/
  | onTheWay
  /-- Made by a dotted key. -/
  | dotted
deriving DecidableEq, Repr

/-- A TOML value. -/
inductive Toml where
  | text (value : String)
  | integer (value : Int)
  | real (value : Number.Double)
  | boolean (value : Bool)
  /-- A date, a time or both, in its plainest text. -/
  | moment (value : String)
  | array (elements : List Toml)
  /-- An array of tables, each named by a header of its own. -/
  | tables (elements : List (List (String × Toml)))
  | table (kind : Toml.TableKind) (entries : List (String × Toml))
deriving Repr

namespace Toml

/-- The entries of a table. -/
abbrev Entries := List (String × Toml)

/-- Put a value in the place of the one with its key, or behind all others. -/
def putEntry (key : String) (value : Toml) : Entries → Entries
  | [] => [(key, value)]
  | (other, old) :: rest =>
    if other = key then (key, value) :: rest else (other, old) :: putEntry key value rest

/-- Change the last of a sequence, if there is one and the change succeeds. -/
def changeLast {α : Type} (change : α → Option α) : List α → Option (List α)
  | [] => none
  | [last] => (change last).map fun last => [last]
  | first :: rest => (changeLast change rest).map (first :: ·)

/-- Change the table that some keys lead to, from a table of some kind. Tables on
the way are made where they are missing, and an array of tables leads on to its last
one. Dotted keys do not lead into a table that a header named. -/
def changeAt (dotted : Bool) (change : TableKind → Entries → Option (TableKind × Entries)) :
    List String → TableKind → Entries → Option (TableKind × Entries)
  | [], kind, entries => change kind entries
  | key :: path, kind, entries =>
    match entries.lookup key with
    | none =>
      let made := if dotted then TableKind.dotted else .onTheWay
      (changeAt dotted change path made []).map fun (made, inner) =>
        (kind, putEntry key (.table made inner) entries)
    | some (.table below inner) =>
      if below = .inline ∨ (dotted ∧ below = .named) then none
      else
        (changeAt dotted change path below inner).map fun (below, inner) =>
          (kind, putEntry key (.table below inner) entries)
    | some (.tables elements) =>
      (changeLast (fun inner => (changeAt dotted change path .named inner).map (·.2))
        elements).map fun elements => (kind, putEntry key (.tables elements) entries)
    | some _ => none

/-- Add a value under a key that is not taken. -/
def addNew (key : String) (value : Toml) (entries : Entries) : Option Entries :=
  if (entries.lookup key).isSome then none else some (putEntry key value entries)

/-- Add a value under a dotted key, given as the keys before its last one and that
one. The table it goes to must be of dotted keys too, when keys lead there. -/
def addDotted (path : List String) (key : String) (value : Toml) (kind : TableKind)
    (entries : Entries) : Option (TableKind × Entries) :=
  changeAt true
    (fun kind entries =>
      if path.isEmpty || kind = .dotted then (addNew key value entries).map (kind, ·) else none)
    path kind entries

/-- Name a table by a header. It must be new, or lie on the way to others. -/
def nameTable (key : String) (kind : TableKind) (entries : Entries) :
    Option (TableKind × Entries) :=
  match entries.lookup key with
  | none => some (kind, putEntry key (.table .named []) entries)
  | some (.table .onTheWay inner) => some (kind, putEntry key (.table .named inner) entries)
  | some _ => none

/-- Name the next table of an array of tables by a header. -/
def nameElement (key : String) (kind : TableKind) (entries : Entries) :
    Option (TableKind × Entries) :=
  match entries.lookup key with
  | none => some (kind, putEntry key (.tables [[]]) entries)
  | some (.tables elements) => some (kind, putEntry key (.tables (elements ++ [[]])) entries)
  | some _ => none

end Toml

end Chatdown
