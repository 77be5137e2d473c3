import Chatdown.Settings.Value
import Chatdown.Text.Ascii

/-!
# Paths of keys

A path leads to a value in the settings: a key, and then further keys behind dots
and places in a sequence between brackets. Keys are of letters, digits, spaces,
underscores and hyphens.
-/

namespace Chatdown.Settings

open Text

/-- A step below a value. -/
inductive Step where
  | key (name : String)
  | element (index : Int)
deriving DecidableEq, Repr

/-- A path to a value: the key it starts with and the steps from there. -/
structure KeyPath where
  root : String
  steps : List Step
deriving DecidableEq, Repr

namespace KeyPath

/-- Whether a character may stand in a key. -/
def isKeyChar (c : Char) : Bool :=
  c.isAlphanum || c = ' ' || c = '_' || c = '-'

/-- A key and what follows it. -/
def key? (s : List Char) : Option (String × List Char) :=
  match s.takeWhile isKeyChar with
  | [] => none
  | key => some (String.ofList key, s.dropWhile isKeyChar)

/-- A whole number that fits into 64 bits with a sign, and what follows it. -/
def integer? (s : List Char) : Option (Int × List Char) :=
  let negative : Bool := s.head? = some '-'
  let s := if negative then s.drop 1 else s
  let digits := s.takeWhile Char.isDigit
  let size : Int := digits.foldl (fun n c => 10 * n + (c.toNat - 48)) 0
  let value := if negative then -size else size
  if digits.isEmpty ∨ value < -0x8000000000000000 ∨ 0x8000000000000000 ≤ value then none
  else some (value, s.dropWhile Char.isDigit)

/-- A step and what follows it. -/
def step? : List Char → Option (Step × List Char)
  | '.' :: rest => (key? rest).map fun (name, rest) => (.key name, rest)
  | '[' :: rest => do
    let (index, rest) ← integer? (rest.dropWhile isSpaceOrTab)
    match rest.dropWhile isSpaceOrTab with
    | ']' :: rest => return (.element index, rest)
    | _ => none
  | _ => none

/-- Steps up to the end of a text, given at least one fuel more than it has
characters. -/
def steps? : Nat → List Char → Option (List Step)
  | 0, _ => none
  | _ + 1, [] => some []
  | fuel + 1, s => (step? s).bind fun (step, rest) => (steps? fuel rest).map (step :: ·)

/-- The path that a text stands for. -/
def parse? (s : String) : Option KeyPath :=
  (key? s.toList).bind fun (root, rest) =>
    (steps? (rest.length + 1) rest).map fun steps => ⟨root, steps⟩

/-- Put a value at the end of steps from a value, of which the first is apart. What
lies on the way is made a table or a sequence unless it is one. -/
def putAt (new : Value) : Step → List Step → Value → Value
  | .key name, [], value => value.changeEntry name fun old => Value.merge old new
  | .element index, [], value => value.changeElement index fun _ => new
  | .key name, next :: rest, value =>
    value.changeEntry name fun old => putAt new next rest (old.getD .null)
  | .element index, next :: rest, value => value.changeElement index (putAt new next rest)

/-- Put a value at the end of a path. -/
def put (path : KeyPath) (new value : Value) : Value :=
  putAt new (.key path.root) path.steps value

end KeyPath

/-- Put a value from a file under a key of its outermost table, which is a path if it
reads as one. -/
def putTopEntry (value : Value) (entry : String × Value) : Value :=
  let path := (KeyPath.parse? entry.1).getD ⟨entry.1, []⟩
  path.put entry.2 value

end Chatdown.Settings
