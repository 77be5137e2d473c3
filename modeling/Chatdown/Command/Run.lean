import Chatdown.Command.Help
import Chatdown.Command.Invocation
import Chatdown.Command.Source
import Chatdown.Document.Dump
import Chatdown.Format.Builtin
import Chatdown.Settings.Layer

/-!
# Running the command

A run loads the settings of the working directory, then reads the input, converts it
and writes the result to standard output or to a file. Its stages come one after the
other and work on what the stages before them have left; a stage that fails takes
nothing of it back.
-/

namespace Chatdown.Command

open Files Format

/-- Why a run fails. -/
inductive Failure where
  | settings (error : Settings.LoadError)
  | formatUndefined
  | inputUndefined
  /-- There is no such format. -/
  | format (error : ConvertError)
  | read (input : String) (fault : Fault)
  /-- The input could not be converted. -/
  | convert (error : ConvertError)
  | write (output : String) (fault : Fault)
deriving Repr

/-- The text of a failure. -/
def Failure.message : Failure → String
  | settings error => "failed to load configuration: " ++ error.message
  | formatUndefined => "format undefined"
  | inputUndefined => "input undefined"
  | format error => error.message
  | read input fault => "failed to read input '" ++ input ++ "': " ++ fault.message
  | convert error => "failed to parse " ++ error.message
  | write output fault => "failed to write output '" ++ output ++ "': " ++ fault.message

/-- What a run works on. -/
structure World where
  /-- The files and the working directory. -/
  files : Tree
  /-- What standard input holds. -/
  stdin : List UInt8
  /-- The name of the platform. -/
  platform : String

/-- What a run has brought about so far: its standard output, and the files. -/
structure Result where
  stdout : List UInt8
  files : Tree

/-- A stage of a run. When it fails, what was brought about before stays. -/
abbrev Stage := ExceptT Failure (StateM Result)

/-- Fail with a cause where something is missing. -/
def need {α : Type} (failure : Failure) : Option α → Stage α
  | some value => pure value
  | none => throw failure

/-- Fail with a cause where something went wrong. -/
def attempt {ε α : Type} (failure : ε → Failure) : Except ε α → Stage α
  | .ok value => pure value
  | .error error => throw (failure error)

/-- Put content on standard output. -/
def print (content : List UInt8) : Stage Unit :=
  modify fun result => { result with stdout := result.stdout ++ content }

/-- Read an input. -/
def readInput (stdin : List UInt8) (input : String) : Stage (List UInt8) := do
  attempt (.read input) ((Source.ofArgument input).read (← get).files stdin)

/-- Write content to a file, or to standard output. -/
def writeOutput (output : Option String) (content : List UInt8) : Stage Unit :=
  match output with
  | none => print content
  | some path => do
    let files ← attempt (.write path) ((← get).files.write path.toList content)
    modify fun result => { result with files }

/-- The document tree of an input, as JSON on standard output. -/
def showTree (stdin : List UInt8) (input : Option String) : Stage Unit := do
  let content ← readInput stdin (← need .inputUndefined input)
  let node ← attempt .convert (Node.parseBytes content)
  print (Text.Utf8.encode (node.dump ++ ['\n']))

/-- Convert an input to a format. -/
def convertInput (stdin : List UInt8) (settings : Settings) (invocation : Invocation) :
    Stage Unit := do
  let format ← need .formatUndefined (invocation.format.or settings.chosenFormat)
  let converter ← attempt .format (Registry.withDefaults.get format)
  let content ← readInput stdin (← need .inputUndefined invocation.input)
  let converted ← attempt .convert (converter.convertBytes content)
  writeOutput invocation.output converted

/-- Say something on standard output. -/
def say (text : String) : Stage Unit :=
  print (encodeText text)

/-- Do what the arguments say. The first argument that stands for itself may ask for
help or the version; nothing is loaded or read then. -/
def perform (world : World) (arguments : Arguments) : Stage Unit :=
  if arguments.positionals.head? = some "help" then say helpText
  else if arguments.positionals.head? = some "version" then say (platformText world.platform)
  else do
    let settings ←
      attempt .settings (Settings.loadFrom (← get).files "." arguments.config)
    if arguments.tree then showTree world.stdin arguments.source?
    else convertInput world.stdin settings arguments.invocation

/-- How a run ends. -/
structure Outcome where
  /-- The exit code: 0 for success, 1 for a failure, 2 for a misuse of the command. -/
  code : Nat
  stdout : List UInt8
  /-- Why the run failed, if it did. -/
  failure : Option Failure
  /-- The files afterwards. -/
  files : Tree

/-- How a run of stages ends that starts with nothing on standard output. -/
def Outcome.ofStage (world : World) (stage : Stage Unit) : Outcome :=
  match stage.run ⟨[], world.files⟩ with
  | (.ok (), result) => ⟨0, result.stdout, none, result.files⟩
  | (.error failure, result) => ⟨1, result.stdout, some failure, result.files⟩

/-- Run the command with arguments. -/
def run (world : World) (arguments : List String) : Outcome :=
  match Request.ofArguments arguments with
  | .help => .ofStage world (say helpText)
  | .version => .ofStage world (say versionText)
  | .run arguments => .ofStage world (perform world arguments)
  | .misuse => ⟨2, [], none, world.files⟩

/-- What a failed run writes to standard error. -/
def Outcome.stderr (outcome : Outcome) : Option String :=
  outcome.failure.map fun failure => "failed: " ++ failure.message ++ "\n"

end Chatdown.Command
