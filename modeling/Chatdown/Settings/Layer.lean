import Chatdown.Files.Tree
import Chatdown.Settings.Basic
import Chatdown.Settings.KeyPath
import Chatdown.Toml.Parse

/-!
# Layers of settings

Settings are loaded in layers over the built-in ones. Files come first, in order,
and are merged key by key; single values put at a path come last, wherever they
stand among the layers. The file of a directory may be missing or unreadable, a file
that is named must not be. A file is also found when `.toml` is missing at the end
of its path.
-/

namespace Chatdown.Settings

open Files

/-- A layer of settings. -/
inductive Layer where
  /-- The settings file of a directory, if there is one. -/
  | directory (path : String)
  /-- A file of settings. -/
  | file (path : String)
  /-- A value at the path that a key stands for. -/
  | override (key : String) (value : Value)

/-- The name of the settings file of a directory. -/
def fileName : String := "markdownconverter.toml"

/-- The path of the settings file of a directory. -/
def directoryFile (directory : String) : List Char :=
  Path.join directory.toList fileName.toList

/-- A path with `.toml` behind the name it ends in, if it ends in one. -/
def withSuffix? (path : List Char) : Option (List Char) :=
  if [[], ['.'], ['.', '.']].contains (Path.lastName path) then none
  else some (Path.withoutEnd path ++ ".toml".toList)

/-- The file that a path of settings stands for. -/
def findFile? (tree : Tree) (path : List Char) : Option (List Char) :=
  if tree.isFile path then some path
  else (withSuffix? path).filter fun path => tree.isFile path

/-- The names that lead from the working directory to the end of a path, as they
stand in the path. -/
def originOf (tree : Tree) (path : List Char) : String :=
  let names := (Path.names path).filter (· ≠ ['.'])
  String.ofList (Path.ofNames
    (if Path.isAbsolute path then Path.between tree.working names else names))

/-- The text of a settings file and the name it goes by. -/
def readFile (tree : Tree) (path : List Char) : Except LoadError (String × List Char) :=
  match findFile? tree path with
  | none => .error (.fileNotFound (String.ofList path))
  | some found =>
    match tree.read found with
    | .error _ => .error (.fileNotFound (String.ofList path))
    | .ok content =>
      match Text.Utf8.decode content with
      | .ok text => .ok (originOf tree found, text)
      | .error _ => .error .notUtf8

/-- Merge the text of a settings file into a value. -/
def mergeText (value : Value) (origin : String) (text : List Char) : Except LoadError Value :=
  match Toml.parse? text with
  | none => .error .badSyntax
  | some entries => .ok ((Value.ofEntries origin entries).foldl putTopEntry value)

/-- Merge a layer into a value, if it is a file. -/
def mergeFile (tree : Tree) (value : Value) : Layer → Except LoadError Value
  | .directory path =>
    match readFile tree (directoryFile path) with
    | .ok (origin, text) => mergeText value origin text
    | .error _ => .ok value
  | .file path => do
    let (origin, text) ← readFile tree path.toList
    mergeText value origin text
  | .override _ _ => .ok value

/-- The path and the value of a layer, if it is no file. -/
def override? : Layer → Except LoadError (Option (KeyPath × Value))
  | .override key value =>
    match KeyPath.parse? key with
    | some path => .ok (some (path, value))
    | none => .error .badPath
  | _ => .ok none

/-- The settings of layers over the built-in ones. A bad path is found before any
file is read. -/
def load (tree : Tree) (layers : List Layer) : Except LoadError Settings := do
  let overrides ← layers.mapM override?
  let merged ← layers.foldlM (mergeFile tree) builtin
  let value := overrides.reduceOption.foldl (fun value (path, new) => path.put new value) merged
  ofEntries value.asTable.2

/-- The settings for a directory, and a file if one is named. -/
def loadFrom (tree : Tree) (directory : String) (file : Option String) :
    Except LoadError Settings :=
  load tree (.directory directory :: (file.map Layer.file).toList)

end Chatdown.Settings
