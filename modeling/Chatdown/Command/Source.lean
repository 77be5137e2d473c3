import Chatdown.Files.Tree

/-!
# Where input comes from

The input argument of a command is a hyphen, which stands for standard input, or a
path, when it ends in a name with an extension, or else the text itself. A name
that ends in a dot has an empty extension, which does not count: a sentence is
text.
-/

namespace Chatdown.Command

open Files

/-- Where the input of a command comes from. -/
inductive Source where
  | stdin
  | file (path : String)
  | literal (text : String)
deriving DecidableEq, Repr

namespace Source

/-- What an input argument means. -/
def ofArgument (argument : String) : Source :=
  if argument = "-" then .stdin
  else
    match Path.extension? argument.toList with
    | some (_ :: _) => .file argument
    | _ => .literal argument

/-- The octets that a source stands for. -/
def read (source : Source) (tree : Tree) (stdin : List UInt8) : Except Fault (List UInt8) :=
  match source with
  | .stdin => .ok stdin
  | .file path => tree.read path.toList
  | .literal text => .ok (Text.Utf8.encode text.toList)

end Source

end Chatdown.Command
