import Chatdown.Command.Arguments

/-!
# Format, input and output of a run

Each of the three is the value of its option, unless that is missing or empty, and
else the next of the arguments that stand for themselves; an empty argument is taken
but says nothing. When the document tree is asked for, only an input is needed: a
lone argument is the input, and of several the first is the format.
-/

namespace Chatdown.Command

/-- A text unless it is empty. -/
def nonEmpty (value : Option String) : Option String :=
  value.filter fun value => value ≠ ""

/-- The value of an option, or else the next argument, and the arguments that are
left. -/
def take (value : Option String) (rest : List String) : Option String × List String :=
  match nonEmpty value with
  | some value => (some value, rest)
  | none => (nonEmpty rest.head?, rest.drop 1)

/-- What is converted to what, and where the result goes. -/
structure Invocation where
  format : Option String
  input : Option String
  output : Option String
deriving DecidableEq, Repr

/-- Match the values of options with the arguments that stand for themselves. -/
def Invocation.resolve (format input output : Option String) (positionals : List String) :
    Invocation :=
  let (format, rest) := take format positionals
  let (input, rest) := take input rest
  let (output, _) := take output rest
  ⟨format, input, output⟩

/-- The input whose document tree is asked for. -/
def treeInput (input : Option String) (positionals : List String) : Option String :=
  (nonEmpty input).or (nonEmpty positionals[if 1 < positionals.length then 1 else 0]?)

namespace Arguments

/-- What the arguments convert to what, and where the result goes. -/
def invocation (arguments : Arguments) : Invocation :=
  .resolve arguments.format arguments.input arguments.output arguments.positionals

/-- The input that the arguments name. -/
def source? (arguments : Arguments) : Option String :=
  if arguments.tree then treeInput arguments.input arguments.positionals
  else arguments.invocation.input

end Arguments

end Chatdown.Command
