/-!
# Command line arguments

An argument is an option, with its value attached or in the next argument, or a
switch, or stands for itself. At most three stand for themselves, one right behind
the other, and no option is given twice. Behind `--` all stand for themselves. The
arguments are read in order, and the first request for help or for the version ends
the reading, as the first misuse does.
-/

namespace Chatdown.Command

/-- An option that takes a value. -/
inductive Slot where
  | format
  | input
  | output
  | config
deriving DecidableEq, Repr

/-- What the arguments say, apart from requests for help and the version. -/
structure Arguments where
  format : Option String
  input : Option String
  output : Option String
  config : Option String
  /-- Whether the document tree is asked for. -/
  tree : Bool
  /-- The arguments that stand for themselves. -/
  positionals : List String
deriving DecidableEq, Repr

/-- What a command line asks for. -/
inductive Request where
  | help
  | version
  | run (arguments : Arguments)
  /-- The arguments are no proper command line. -/
  | misuse
deriving DecidableEq, Repr

/-- What an argument is by itself. -/
inductive Word where
  | help
  | version
  | tree
  /-- An option, with its value if it is attached. -/
  | slot (slot : Slot) (value : Option String)
  /-- All further arguments stand for themselves. -/
  | escape
  | positional
  | unknown
deriving DecidableEq, Repr

/-- The option of a letter. -/
def Slot.ofLetter? (letter : Char) : Option Slot :=
  if letter = 'f' then some .format
  else if letter = 'i' then some .input
  else if letter = 'o' then some .output
  else none

/-- The option of a name. -/
def Slot.ofName? (name : List Char) : Option Slot :=
  if name = "format".toList then some .format
  else if name = "input".toList then some .input
  else if name = "output".toList then some .output
  else if name = "config".toList then some .config
  else none

/-- What a name behind two hyphens is, with the value behind an equals sign if there
is one. -/
def Word.ofName (name : List Char) (value : Option String) : Word :=
  match Slot.ofName? name with
  | some which => .slot which value
  | none =>
    if value.isSome then .unknown
    else if name = "help".toList then .help
    else if name = "version".toList then .version
    else if name = "tree".toList then .tree
    else .unknown

/-- What a letter behind a hyphen is, with what follows it in the same argument. -/
def Word.ofLetter (letter : Char) (rest : List Char) : Word :=
  match Slot.ofLetter? letter with
  | some which =>
    match rest with
    | [] => .slot which none
    | '=' :: value => .slot which (some (String.ofList value))
    | value => .slot which (some (String.ofList value))
  | none =>
    if letter = 'h' then .help
    else if letter = 'V' then .version
    else .unknown

/-- What an argument is by itself. -/
def Word.ofArgument (argument : String) : Word :=
  match argument.toList with
  | ['-', '-'] => .escape
  | '-' :: '-' :: long =>
    match long.dropWhile (· ≠ '=') with
    | _ :: value => Word.ofName (long.takeWhile (· ≠ '=')) (some (String.ofList value))
    | [] => Word.ofName long none
  | '-' :: letter :: rest => Word.ofLetter letter rest
  | _ => .positional

namespace Arguments

/-- No arguments at all. -/
def none : Arguments :=
  ⟨.none, .none, .none, .none, false, []⟩

/-- The value of an option. -/
def get (arguments : Arguments) : Slot → Option String
  | .format => arguments.format
  | .input => arguments.input
  | .output => arguments.output
  | .config => arguments.config

/-- Give an option a value, unless it has one. -/
def set? (arguments : Arguments) (slot : Slot) (value : String) : Option Arguments :=
  if (arguments.get slot).isSome then .none
  else
    match slot with
    | .format => some { arguments with format := value }
    | .input => some { arguments with input := value }
    | .output => some { arguments with output := value }
    | .config => some { arguments with config := value }

/-- The most arguments that stand for themselves. -/
def maxPositionals : Nat := 3

/-- Add an argument that stands for itself, unless there are too many. -/
def addPositional? (arguments : Arguments) (argument : String) : Option Arguments :=
  if arguments.positionals.length < maxPositionals then
    some { arguments with positionals := arguments.positionals ++ [argument] }
  else .none

/-- Add arguments that all stand for themselves. -/
def addPositionals? (arguments : Arguments) (rest : List String) : Option Arguments :=
  rest.foldlM addPositional? arguments

end Arguments

/-- Whether an argument may be the value of an option that stands before it. Only
the input may start with a hyphen, unless that is all of the value. -/
def mayBeValue (slot : Slot) (argument : String) : Bool :=
  slot = .input || Word.ofArgument argument = .positional

/-- Read arguments. `closed` tells whether anything else came behind those that stand
for themselves, so that no more of these may follow. -/
def Request.read (arguments : Arguments) (closed : Bool) : List String → Request
  | [] => .run arguments
  | argument :: rest =>
    let closes := closed || !arguments.positionals.isEmpty
    match Word.ofArgument argument with
    | .help => .help
    | .version => .version
    | .tree =>
      if arguments.tree then .misuse
      else Request.read { arguments with tree := true } closes rest
    | .slot slot (some value) =>
      match arguments.set? slot value with
      | some arguments => Request.read arguments closes rest
      | none => .misuse
    | .slot slot none =>
      match rest with
      | [] => .misuse
      | value :: rest =>
        if mayBeValue slot value then
          match arguments.set? slot value with
          | some arguments => Request.read arguments closes rest
          | none => .misuse
        else .misuse
    | .escape =>
      if closed && !rest.isEmpty then .misuse
      else
        match arguments.addPositionals? rest with
        | some arguments => .run arguments
        | none => .misuse
    | .positional =>
      if closed then .misuse
      else
        match arguments.addPositional? argument with
        | some arguments => Request.read arguments closed rest
        | none => .misuse
    | .unknown => .misuse

/-- What a command line asks for. -/
def Request.ofArguments (arguments : List String) : Request :=
  Request.read .none false arguments

end Chatdown.Command
