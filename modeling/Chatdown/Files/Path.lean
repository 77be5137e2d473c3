/-!
# Paths

A path is a text in which slashes separate names. A path that starts with a slash
leads from the root. Slashes at the end of a path, and single dots between them,
do not change the name it ends in; the extension of a path is that of this name.
-/

namespace Chatdown.Files

/-- A name between two slashes of a path. -/
abbrev Name := List Char

namespace Path

/-- The pieces of a path between its slashes; there is always a last one. -/
def pieces : List Char → List Name
  | [] => [[]]
  | c :: rest =>
    if c = '/' then [] :: pieces rest
    else
      match pieces rest with
      | piece :: others => (c :: piece) :: others
      | [] => [[c]]

/-- The names of a path: its pieces that are not empty. -/
def names (path : List Char) : List Name :=
  (pieces path).filter fun piece => !piece.isEmpty

/-- Whether a path leads from the root. -/
def isAbsolute (path : List Char) : Bool :=
  path.head? = some '/'

/-- Whether a slash ends a path. -/
def endsInSlash (path : List Char) : Bool :=
  path.getLast? = some '/'

/-- A reversed path without slashes at its front, and without dots that stand
alone between them. -/
def dropReversedEnd : List Char → List Char
  | '/' :: rest => dropReversedEnd rest
  | '.' :: '/' :: rest => dropReversedEnd rest
  | path => path

/-- A path without the slashes it ends in, and without dots that stand alone
between them. -/
def withoutEnd (path : List Char) : List Char :=
  (dropReversedEnd path.reverse).reverse

/-- The name a path ends in. -/
def lastName (path : List Char) : Name :=
  ((dropReversedEnd path.reverse).takeWhile (· ≠ '/')).reverse

/-- What follows the last dot of a name. The dots of `..` do not count, nor does
one that starts a name. -/
def nameExtension? (name : Name) : Option (List Char) :=
  if name = ['.', '.'] then none
  else
    match name.reverse.dropWhile (· ≠ '.') with
    | _ :: _ :: _ => some (name.reverse.takeWhile (· ≠ '.')).reverse
    | _ => none

/-- The extension of the name a path ends in. -/
def extension? (path : List Char) : Option (List Char) :=
  nameExtension? (lastName path)

/-- A path below a directory. An absolute path stands for itself. -/
def join (directory path : List Char) : List Char :=
  if isAbsolute path || directory.isEmpty then path
  else if endsInSlash directory then directory ++ path
  else directory ++ '/' :: path

/-- Names with slashes between them. -/
def ofNames (names : List Name) : List Char :=
  ['/'].intercalate names

/-- How to get from the place that some names lead to, to the one that others lead
to. -/
def between (base : List Name) (names : List Name) : List Name :=
  match base, names with
  | b :: base, n :: names =>
    if b = n then between base names
    else List.replicate (base.length + 1) ['.', '.'] ++ n :: names
  | base, names => List.replicate base.length ['.', '.'] ++ names

/-- There is always a piece. -/
theorem pieces_ne_nil (path : List Char) : pieces path ≠ [] := by
  cases path with
  | nil => simp [pieces]
  | cons c rest =>
    simp only [pieces]
    split
    · simp
    · split <;> simp

/-- The pieces hold no slash. -/
theorem slash_not_mem_of_mem_pieces {path : List Char} {piece : Name}
    (h : piece ∈ pieces path) : '/' ∉ piece := by
  induction path generalizing piece with
  | nil => simp_all [pieces]
  | cons c rest ih =>
    simp only [pieces] at h
    split at h
    · rcases List.mem_cons.1 h with rfl | h
      · simp
      · exact ih h
    · rename_i hc
      split at h
      · rename_i first others he
        rcases List.mem_cons.1 h with rfl | h
        · have := ih (he ▸ List.mem_cons_self)
          simp only [List.mem_cons, not_or]
          exact ⟨fun e => hc e.symm, this⟩
        · exact ih (he ▸ List.mem_cons_of_mem _ h)
      · rename_i he
        exact absurd he (pieces_ne_nil rest)

end Path

end Chatdown.Files
