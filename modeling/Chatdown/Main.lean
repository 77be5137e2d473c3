import Chatdown.Command.Run

/-!
# The command

The outer layer of the command: it gathers the files that the arguments name, runs
the command on them, and brings about what the run leaves.
-/

namespace Chatdown.Command

open Files

/-- The platform this is built for. -/
def platform : String := "linux/x86_64"

/-- What stands at the end of a path in the file system, if anything does. A file in
the place of a directory counts as one here; the walk along the path notices it. -/
def probe (path : List Char) : IO (Option Entry) := do
  try
    let content ← IO.FS.readBinFile (String.ofList path)
    return some (.file content.toList)
  catch error =>
    match error with
    | .noFileOrDirectory .. | .invalidArgument .. => return none
    | .inappropriateType .. => return some .directory
    | error => throw error

/-- A tree with what stands at the end of a path and on the way there. -/
def gather (tree : Tree) (path : List Char) : IO Tree := do
  let names := Path.names path
  let mut tree := tree
  for count in [1 : names.length + 1] do
    let front := Path.ofNames (names.take count)
    let front := if Path.isAbsolute path then '/' :: front else front
    match tree.start front, ← probe front with
    | .ok start, some entry =>
      match tree.walk start (names.take count) with
      | .ok place => tree := tree.put place entry
      | .error _ => pure ()
    | _, _ => pure ()
  return tree

/-- The paths that arguments may lead a run to. -/
def pathsOf (arguments : Arguments) : List (List Char) :=
  let settings :=
    (Settings.directoryFile "." :: (arguments.config.map String.toList).toList).flatMap
      fun path => path :: (Settings.withSuffix? path).toList
  let source := match arguments.source?.map Source.ofArgument with
    | some (.file path) => [path.toList]
    | _ => []
  settings ++ source ++ (arguments.invocation.output.map String.toList).toList

/-- What a run with arguments works on. Standard input is only read when it is the
input. -/
def worldFor (arguments : Arguments) : IO World := do
  let working := Path.names (← IO.currentDir).toString.toList
  let files ← (pathsOf arguments).foldlM gather (Tree.empty working)
  let stdin ←
    if arguments.source? = some "-" then (← IO.getStdin).readBinToEnd else pure .empty
  return ⟨files, stdin.toList, platform⟩

/-- Bring about what a run leaves, and return its exit code. -/
def settle (files : Tree) (outcome : Outcome) : IO UInt32 := do
  for (path, content) in outcome.files.changesSince files do
    IO.FS.writeBinFile (String.ofList path) ⟨content.toArray⟩
  (← IO.getStdout).write ⟨outcome.stdout.toArray⟩
  if let some text := outcome.stderr then (← IO.getStderr).putStr text
  if outcome.code = 2 then
    (← IO.getStderr).putStr "error: invalid arguments\n\nFor more information, try '--help'.\n"
  return outcome.code.toUInt32

end Chatdown.Command

/-- Run the command with the arguments of the process. -/
def main (arguments : List String) : IO UInt32 := do
  let world ←
    match Chatdown.Command.Request.ofArguments arguments with
    | .run parsed => Chatdown.Command.worldFor parsed
    | _ => pure ⟨.empty [], [], Chatdown.Command.platform⟩
  Chatdown.Command.settle world.files (Chatdown.Command.run world arguments)
