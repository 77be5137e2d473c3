import Chatdown.Proofs.Atomicity

/-!
# What a run is asked to do

A command line asks for one of a few tasks, and a run does its task and nothing else: which
options gave the arguments of the task, and which arguments stood for themselves, does not
matter any more. The settings and the task alone decide whether an input is read at all, which
one it is, and what is done with its content.
-/

namespace Chatdown.Command

open Files Format

/-- What a command line asks for. -/
inductive Task where
  /-- The help. -/
  | help
  /-- The version, asked for by an option. -/
  | version
  /-- The version, asked for by an argument, and the platform. -/
  | platform
  /-- The document tree of an input. -/
  | tree (config input : Option String)
  /-- A conversion. -/
  | conversion (config : Option String) (invocation : Invocation)
deriving DecidableEq, Repr

/-- What arguments ask for. -/
def Arguments.task (arguments : Arguments) : Task :=
  if arguments.positionals.head? = some "help" then .help
  else if arguments.positionals.head? = some "version" then .platform
  else if arguments.tree then .tree arguments.config arguments.source?
  else .conversion arguments.config arguments.invocation

/-- What a request asks for, unless it is a misuse. -/
def Request.task? : Request → Option Task
  | .help => some .help
  | .version => some .version
  | .run arguments => some arguments.task
  | .misuse => none

/-- The file of settings that a task names. -/
def Task.config : Task → Option String
  | .tree config _ => config
  | .conversion config _ => config
  | .help | .version | .platform => none

/-- What is to be done once the settings are loaded. -/
inductive Plan where
  /-- Fail, and read nothing. -/
  | refuse (failure : Failure)
  /-- Print a text, and read nothing. -/
  | say (text : String)
  /-- Read an input and do something with its content. -/
  | work (input : String) (next : List UInt8 → Stage Unit)

/-- The stages of a plan. -/
def Plan.stage (stdin : List UInt8) : Plan → Stage Unit
  | .refuse failure => throw failure
  | .say text => Command.say text
  | .work input next => readInput stdin input >>= next

/-- Print the document tree that content stands for. -/
def showContent (content : List UInt8) : Stage Unit := do
  let node ← attempt .convert (Node.parseBytes content)
  print (Text.Utf8.encode (node.dump ++ ['\n']))

/-- Convert content and write the result. -/
def convertContent (converter : Converter) (output : Option String) (content : List UInt8) :
    Stage Unit := do
  let converted ← attempt .convert (converter.convertBytes content)
  writeOutput output converted

/-- What a task comes to with the settings that were loaded for it, if they could be. -/
def Task.plan (platform : String) (loaded : Except Settings.LoadError Settings) : Task → Plan
  | .help => .say helpText
  | .version => .say versionText
  | .platform => .say (platformText platform)
  | .tree _ input =>
    match loaded with
    | .error error => .refuse (.settings error)
    | .ok _ =>
      match input with
      | none => .refuse .inputUndefined
      | some input => .work input showContent
  | .conversion _ invocation =>
    match loaded with
    | .error error => .refuse (.settings error)
    | .ok settings =>
      match invocation.format.or settings.chosenFormat with
      | none => .refuse .formatUndefined
      | some format =>
        match Registry.withDefaults.get format with
        | .error error => .refuse (.format error)
        | .ok converter =>
          match invocation.input with
          | none => .refuse .inputUndefined
          | some input => .work input (convertContent converter invocation.output)

/-- A task says something whatever the settings are, or it is refused where they cannot be
loaded. -/
theorem Task.plan_error (task : Task) (platform : String) :
    (∃ text, ∀ loaded, task.plan platform loaded = .say text) ∨
      ∀ error, task.plan platform (.error error) = .refuse (.settings error) := by
  cases task with
  | help => exact .inl ⟨_, fun _ => rfl⟩
  | version => exact .inl ⟨_, fun _ => rfl⟩
  | platform => exact .inl ⟨_, fun _ => rfl⟩
  | tree config input => exact .inr fun _ => rfl
  | conversion config invocation => exact .inr fun _ => rfl

/-- A task reads an input when its settings could be loaded and the input is named, and when a
conversion has a format with a converter. -/
theorem Task.plan_eq_work {task : Task} {platform : String}
    {loaded : Except Settings.LoadError Settings} {input : String}
    {next : List UInt8 → Stage Unit} (h : task.plan platform loaded = .work input next) :
    ∃ settings, loaded = .ok settings ∧
      ((∃ config, task = .tree config (some input) ∧ next = showContent) ∨
        ∃ config invocation format converter, task = .conversion config invocation ∧
          invocation.format.or settings.chosenFormat = some format ∧
            Registry.withDefaults.get format = .ok converter ∧ invocation.input = some input ∧
              next = convertContent converter invocation.output) := by
  rw [Task.plan.eq_def] at h
  cases task with
  | help | version | platform => contradiction
  | tree config named =>
    dsimp only at h
    split at h
    · contradiction
    rename_i settings
    split at h
    · contradiction
    obtain ⟨rfl, rfl⟩ := Plan.work.inj h
    exact ⟨settings, rfl, .inl ⟨config, rfl, rfl⟩⟩
  | conversion config invocation =>
    dsimp only at h
    split at h
    · contradiction
    rename_i settings
    split at h
    · contradiction
    rename_i format hformat
    split at h
    · contradiction
    rename_i converter hconverter
    split at h
    · contradiction
    rename_i named hnamed
    obtain ⟨rfl, rfl⟩ := Plan.work.inj h
    exact ⟨settings, rfl,
      .inr ⟨config, invocation, format, converter, rfl, hformat, hconverter, hnamed, rfl⟩⟩

/-- How a run of a task ends. -/
def Task.outcome (world : World) (task : Task) : Outcome :=
  .ofStage world
    ((task.plan world.platform (Settings.loadFrom world.files "." task.config)).stage world.stdin)

section Stages

variable {α β ε : Type} {before : Result}

/-- A run goes on with the settings, or ends where they cannot be loaded. -/
theorem run_load_bind (config : Option String) (next : Settings → Stage β) :
    (do
      let settings ← attempt .settings (Settings.loadFrom (← get).files "." config)
      next settings : Stage β).run before =
      match Settings.loadFrom before.files "." config with
      | .error error => (.error (.settings error), before)
      | .ok settings => (next settings).run before := by
  change (attempt .settings (Settings.loadFrom before.files "." config) >>= next).run before = _
  rw [run_bind, run_attempt]
  cases Settings.loadFrom before.files "." config <;> rfl

/-- A run goes on with what it needs, or ends where that is missing. -/
theorem run_need_bind (failure : Failure) (found : Option α) (next : α → Stage β) :
    (need failure found >>= next).run before =
      match found with
      | none => (.error failure, before)
      | some value => (next value).run before := by
  rw [run_bind, run_need]
  cases found <;> rfl

/-- A run goes on with what it attempted, or ends where that went wrong. -/
theorem run_attempt_bind (failure : ε → Failure) (attempted : Except ε α)
    (next : α → Stage β) :
    (attempt failure attempted >>= next).run before =
      match attempted with
      | .error error => (.error (failure error), before)
      | .ok value => (next value).run before := by
  rw [run_bind, run_attempt]
  cases attempted <;> rfl

/-- A run goes on with what it read, or ends where that cannot be read. -/
theorem run_readInput_bind (stdin : List UInt8) (input : String)
    (next : List UInt8 → Stage β) :
    (readInput stdin input >>= next).run before =
      match (Source.ofArgument input).read before.files stdin with
      | .error fault => (.error (.read input fault), before)
      | .ok content => (next content).run before := by
  rw [run_bind, run_readInput]
  cases (Source.ofArgument input).read before.files stdin <;> rfl

end Stages

section Runs

variable {world : World} {before : Result} {task : Task} {failure : Failure}

/-- To show a tree is to carry out the plan of this task. -/
theorem run_showTree (settings : Settings) (config input : Option String) :
    (showTree world.stdin input).run before =
      (((Task.tree config input).plan world.platform (.ok settings)).stage world.stdin).run
        before := by
  change (need .inputUndefined input >>= fun input => readInput world.stdin input >>=
    showContent).run before = _
  rw [run_need_bind]
  cases input <;> rfl

/-- To convert is to carry out the plan of this task. -/
theorem run_convertInput (settings : Settings) (config : Option String)
    (invocation : Invocation) :
    (convertInput world.stdin settings invocation).run before =
      (((Task.conversion config invocation).plan world.platform (.ok settings)).stage
        world.stdin).run before := by
  change (need .formatUndefined (invocation.format.or settings.chosenFormat) >>= fun format =>
    attempt .format (Registry.withDefaults.get format) >>= fun converter =>
      need .inputUndefined invocation.input >>= fun input =>
        readInput world.stdin input >>= convertContent converter invocation.output).run before = _
  rw [run_need_bind, Task.plan]
  cases invocation.format.or settings.chosenFormat with
  | none => rfl
  | some format =>
    dsimp only
    rw [run_attempt_bind]
    cases Registry.withDefaults.get format with
    | error error => rfl
    | ok converter =>
      dsimp only
      rw [run_need_bind]
      cases invocation.input <;> rfl

/-- To do what the arguments say is to carry out the plan of their task. -/
theorem run_perform (arguments : Arguments) :
    (perform world arguments).run before =
      ((arguments.task.plan world.platform
        (Settings.loadFrom before.files "." arguments.task.config)).stage world.stdin).run
          before := by
  rw [perform, Arguments.task]
  split
  · rfl
  split
  · rfl
  cases htree : arguments.tree with
  | true =>
    change (do
      let settings ← attempt .settings (Settings.loadFrom (← get).files "." arguments.config)
      (fun _ => showTree world.stdin arguments.source?) settings : Stage Unit).run before = _
    rw [run_load_bind]
    change _ = (((Task.tree arguments.config arguments.source?).plan _
      (Settings.loadFrom before.files "." arguments.config)).stage _).run before
    cases Settings.loadFrom before.files "." arguments.config with
    | error error => rfl
    | ok settings => exact run_showTree settings arguments.config arguments.source?
  | false =>
    change (do
      let settings ← attempt .settings (Settings.loadFrom (← get).files "." arguments.config)
      convertInput world.stdin settings arguments.invocation : Stage Unit).run before = _
    rw [run_load_bind]
    change _ = (((Task.conversion arguments.config arguments.invocation).plan _
      (Settings.loadFrom before.files "." arguments.config)).stage _).run before
    cases Settings.loadFrom before.files "." arguments.config with
    | error error => rfl
    | ok settings => exact run_convertInput settings arguments.config arguments.invocation

/-- Stages that run alike end alike. -/
theorem ofStage_congr {stage other : Stage Unit}
    (h : stage.run ⟨[], world.files⟩ = other.run ⟨[], world.files⟩) :
    Outcome.ofStage world stage = .ofStage world other := by
  rw [Outcome.ofStage, Outcome.ofStage, h]

/-- A plan to refuse is carried out by failing, and nothing changes. -/
theorem outcome_of_refuse
    (h : task.plan world.platform (Settings.loadFrom world.files "." task.config) =
      .refuse failure) : task.outcome world = ⟨1, [], some failure, world.files⟩ := by
  rw [Task.outcome, h]
  rfl

/-- A plan to say something is carried out by printing it, and no file changes. -/
theorem outcome_of_say {text : String}
    (h : task.plan world.platform (Settings.loadFrom world.files "." task.config) = .say text) :
    task.outcome world = ⟨0, encodeText text, none, world.files⟩ := by
  rw [Task.outcome, h]
  rfl

/-- A plan to read an input goes on with the content, if that can be read. -/
theorem outcome_of_work {input : String} {next : List UInt8 → Stage Unit} {content : List UInt8}
    (h : task.plan world.platform (Settings.loadFrom world.files "." task.config) =
      .work input next)
    (hread : (Source.ofArgument input).read world.files world.stdin = .ok content) :
    task.outcome world = .ofStage world (next content) := by
  rw [Task.outcome, h]
  refine ofStage_congr ?_
  rw [Plan.stage, run_readInput_bind, hread]

/-- A run does the task that its command line asks for. -/
theorem run_eq (world : World) (line : List String) :
    run world line = match (Request.ofArguments line).task? with
      | some task => task.outcome world
      | none => ⟨2, [], none, world.files⟩ := by
  rw [run]
  cases Request.ofArguments line with
  | run arguments => exact ofStage_congr (run_perform arguments)
  | _ => rfl

/-- Command lines that ask for the same task are run alike. -/
theorem run_congr {line other : List String}
    (h : (Request.ofArguments line).task? = (Request.ofArguments other).task?) (world : World) :
    run world line = run world other := by
  rw [run_eq, run_eq, h]

end Runs

end Chatdown.Command
