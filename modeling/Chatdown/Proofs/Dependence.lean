import Chatdown.Proofs.Task

/-!
# What a run depends on

A run that only says something about the command looks at nothing. All others look at their
settings first, and a run that is refused for its settings, its format or a missing input has
looked at nothing else. Standard input is looked at last, by a run whose input it is and that
nothing has kept from reading it.
-/

namespace Chatdown.Command

open Files Format

/-- A failure that keeps a run from reading its input. -/
def Failure.Early : Failure → Prop
  | .settings _ | .formatUndefined | .inputUndefined | .format _ => True
  | .read _ _ | .convert _ | .write _ _ => False

/-- It is decidable whether a failure is early. -/
instance : (failure : Failure) → Decidable failure.Early
  | .settings _ | .formatUndefined | .inputUndefined | .format _ => isTrue trivial
  | .read _ _ | .convert _ | .write _ _ => isFalse id

/-- A run that was kept from reading its input. -/
def Outcome.Refused (outcome : Outcome) : Prop :=
  ∃ failure ∈ outcome.failure, failure.Early

/-- It is decidable whether a run was kept from reading. -/
instance (outcome : Outcome) : Decidable outcome.Refused :=
  inferInstanceAs (Decidable (∃ failure ∈ outcome.failure, failure.Early))

section Refusals

variable {task : Task} {world : World} {platform : String} {failure : Failure}
  {loaded other : Except Settings.LoadError Settings}

/-- Stages that fail for nothing that would have kept a run from reading. -/
def Late (stage : Stage Unit) : Prop :=
  ∀ before failure after, stage.run before = (.error failure, after) → ¬failure.Early

/-- Content that is no text is found out late. -/
theorem late_showContent (content : List UInt8) : Late (showContent content) := by
  intro before failure after hrun
  rw [showContent, run_attempt_bind] at hrun
  split at hrun
  · obtain ⟨herror, -⟩ := Prod.mk.inj hrun
    exact Except.error.inj herror ▸ id
  · obtain ⟨hok, -⟩ := Prod.mk.inj hrun
    contradiction

/-- What keeps content from being converted or the result from being written is found out
late. -/
theorem late_convertContent (converter : Converter) (output : Option String)
    (content : List UInt8) : Late (convertContent converter output content) := by
  intro before failure after hrun
  rw [convertContent, run_attempt_bind] at hrun
  split at hrun
  · obtain ⟨herror, -⟩ := Prod.mk.inj hrun
    exact Except.error.inj herror ▸ id
  cases output with
  | none =>
    obtain ⟨hok, -⟩ := Prod.mk.inj hrun
    contradiction
  | some path =>
    change (attempt (.write path) (before.files.write path.toList _) >>= fun files =>
      modify fun result => { result with files }).run before = _ at hrun
    rw [run_attempt_bind] at hrun
    split at hrun
    · obtain ⟨herror, -⟩ := Prod.mk.inj hrun
      exact Except.error.inj herror ▸ id
    · obtain ⟨hok, -⟩ := Prod.mk.inj hrun
      contradiction

/-- All that is done with the content of an input fails late. -/
theorem late_of_plan {input : String} {next : List UInt8 → Stage Unit}
    (h : task.plan platform loaded = .work input next) (content : List UInt8) :
    Late (next content) := by
  obtain ⟨settings, -, ⟨config, -, rfl⟩ | ⟨config, invocation, format, converter, -, -, -, -, rfl⟩⟩ :=
    Task.plan_eq_work h
  · exact late_showContent content
  · exact late_convertContent converter invocation.output content

/-- A run that fails early was refused. -/
theorem refuse_of_early (h : (task.outcome world).failure = some failure)
    (hearly : failure.Early) :
    task.plan world.platform (Settings.loadFrom world.files "." task.config) =
      .refuse failure := by
  cases hplan : task.plan world.platform (Settings.loadFrom world.files "." task.config) with
  | refuse given =>
    rw [outcome_of_refuse hplan] at h
    rw [Option.some.inj h]
  | say text =>
    rw [outcome_of_say hplan] at h
    contradiction
  | work input next =>
    rw [Task.outcome, hplan, Plan.stage, Outcome.ofStage, run_readInput_bind] at h
    cases hread : (Source.ofArgument input).read world.files world.stdin with
    | error fault =>
      rw [hread] at h
      exact absurd hearly (Option.some.inj h ▸ id)
    | ok content =>
      rw [hread] at h
      dsimp only at h
      split at h
      · contradiction
      · rename_i hrun
        exact absurd hearly (Option.some.inj h ▸ late_of_plan hplan content _ _ _ hrun)

/-- What is refused with some settings is refused with others that read the same, and for the
same reason. -/
theorem refuse_congr (h : loaded.mapError (·.message) = other.mapError (·.message))
    (hplan : task.plan platform loaded = .refuse failure) :
    ∃ same, task.plan platform other = .refuse same ∧ same.message = failure.message := by
  cases loaded with
  | ok settings =>
    cases other with
    | error error =>
      have hfalse : (Except.ok settings : Except String Settings) = .error error.message := h
      contradiction
    | ok others =>
      obtain rfl : settings = others := Except.ok.inj h
      exact ⟨failure, hplan, rfl⟩
  | error error =>
    cases other with
    | ok others =>
      have hfalse : (Except.error error.message : Except String Settings) = .ok others := h
      contradiction
    | error another =>
      have hmessage : error.message = another.message := Except.error.inj h
      obtain ⟨text, hsay⟩ | hrefuse := task.plan_error platform
      · simp only [hsay, reduceCtorEq] at hplan
      · rw [hrefuse] at hplan
        obtain rfl := Plan.refuse.inj hplan
        exact ⟨.settings another, hrefuse another,
          congrArg ("failed to load configuration: " ++ ·) hmessage.symm⟩

end Refusals

section Reading

variable {files : Tree} {arguments : Arguments} {input : String}

/-- Nothing keeps a run from reading its input. -/
inductive Reaches (files : Tree) (arguments : Arguments) (input : String) : Prop
  /-- The arguments ask neither for help nor for the version, the settings can be loaded, a
  conversion has a format and a converter for it, and the input is named. -/
  | intro {settings : Settings} (noHelp : arguments.positionals.head? ≠ some "help")
      (noVersion : arguments.positionals.head? ≠ some "version")
      (loaded : Settings.loadFrom files "." arguments.config = .ok settings)
      (ready : arguments.tree = false → ∃ format converter,
        arguments.invocation.format.or settings.chosenFormat = some format ∧
          Registry.withDefaults.get format = .ok converter)
      (named : arguments.source? = some input) : Reaches files arguments input

/-- A run with a plan to read is kept from it by nothing. -/
theorem reaches_of_plan {platform : String} {next : List UInt8 → Stage Unit}
    (h : arguments.task.plan platform (Settings.loadFrom files "." arguments.task.config) =
      .work input next) : Reaches files arguments input := by
  obtain ⟨settings, hloaded, htask⟩ := Task.plan_eq_work h
  rw [Arguments.task] at htask hloaded
  split at htask
  · obtain ⟨_, hfalse, -⟩ | ⟨_, _, _, _, hfalse, -⟩ := htask <;> contradiction
  rename_i hhelp
  split at htask
  · obtain ⟨_, hfalse, -⟩ | ⟨_, _, _, _, hfalse, -⟩ := htask <;> contradiction
  rename_i hversion
  rw [if_neg hhelp, if_neg hversion] at hloaded
  cases htree : arguments.tree with
  | true =>
    rw [htree, if_pos rfl] at htask hloaded
    obtain ⟨_, he, -⟩ | ⟨_, _, _, _, hfalse, -⟩ := htask
    · obtain ⟨-, hsource⟩ := Task.tree.inj he
      exact .intro hhelp hversion hloaded (fun hfalse => by rw [htree] at hfalse; contradiction)
        hsource
    · contradiction
  | false =>
    rw [htree, if_neg Bool.false_ne_true] at htask hloaded
    obtain ⟨_, hfalse, -⟩ | ⟨_, _, format, converter, he, hformat, hget, hinput, -⟩ := htask
    · contradiction
    · obtain ⟨-, rfl⟩ := Task.conversion.inj he
      have hsource : arguments.source? = some input := by
        rw [Arguments.source?, htree]
        exact hinput
      exact .intro hhelp hversion hloaded (fun _ => ⟨format, converter, hformat, hget⟩) hsource

/-- What is read does not depend on standard input unless that is the input. -/
theorem read_congr_stdin (h : input ≠ "-") (stdin other : List UInt8) :
    (Source.ofArgument input).read files stdin = (Source.ofArgument input).read files other := by
  rw [Source.ofArgument, if_neg h]
  split <;> rfl

end Reading

section Environments

/-- A request to say something about the command, or a misuse of it. -/
def Request.Aside : Request → Prop
  | .run arguments => arguments.positionals.head? = some "help" ∨
      arguments.positionals.head? = some "version"
  | .help | .version | .misuse => True

/-- It is decidable whether a request is no more than that. -/
instance : (request : Request) → Decidable request.Aside
  | .run _ => inferInstanceAs (Decidable (_ ∨ _))
  | .help | .version | .misuse => isTrue trivial

/-- A command line has the same answer in two worlds, and changes no file in either. -/
structure SameAnswer (line : List String) (world other : World) : Prop where
  /-- The exit codes are the same. -/
  code : (run world line).code = (run other line).code
  /-- The same is printed. -/
  stdout : (run world line).stdout = (run other line).stdout
  /-- The same failure is reported, if there is one. -/
  stderr : (run world line).stderr = (run other line).stderr
  /-- No file changes. -/
  files : (run world line).files = world.files ∧ (run other line).files = other.files

variable {line : List String} {files others : Tree} {stdin input : List UInt8}
  {platform : String}

/-- A command line that says something about the command is a misuse, or says the same whatever
the settings are. -/
theorem say_of_aside (h : (Request.ofArguments line).Aside) (platform : String) :
    (Request.ofArguments line).task? = none ∨
      ∃ task text, (Request.ofArguments line).task? = some task ∧
        ∀ loaded, task.plan platform loaded = .say text := by
  cases hrequest : Request.ofArguments line with
  | help => exact .inr ⟨.help, helpText, rfl, fun _ => rfl⟩
  | version => exact .inr ⟨.version, versionText, rfl, fun _ => rfl⟩
  | misuse => exact .inl rfl
  | run arguments =>
    rw [hrequest] at h
    rcases h with hhelp | hversion
    · have htask : arguments.task = .help := by rw [Arguments.task, if_pos hhelp]
      exact .inr ⟨.help, helpText, congrArg some htask, fun _ => rfl⟩
    · have hne : arguments.positionals.head? ≠ some "help" := by
        rw [hversion]
        decide
      have htask : arguments.task = .platform := by
        rw [Arguments.task, if_neg hne, if_pos hversion]
      exact .inr ⟨.platform, platformText platform, congrArg some htask, fun _ => rfl⟩

/-- A command line that says something about the command has one answer everywhere. -/
theorem sameAnswer_of_aside (h : (Request.ofArguments line).Aside) :
    SameAnswer line ⟨files, stdin, platform⟩ ⟨others, input, platform⟩ := by
  obtain hnone | ⟨task, text, htask, hsay⟩ := say_of_aside h platform
  · have hrun : ∀ world, run world line = ⟨2, [], none, world.files⟩ := by
      intro world
      rw [run_eq, hnone]
    constructor <;> simp only [hrun, Outcome.stderr, and_self]
  · have hrun : ∀ files stdin, run ⟨files, stdin, platform⟩ line =
        ⟨0, encodeText text, none, files⟩ := by
      intro files stdin
      rw [run_eq, htask]
      exact outcome_of_say (hsay _)
    constructor <;> simp only [hrun, Outcome.stderr, and_self]

/-- A run that is refused in one world is refused in another where the settings are loaded
alike. -/
theorem sameAnswer_of_refused {arguments : Arguments}
    (hrequest : Request.ofArguments line = .run arguments)
    (hloaded : (Settings.loadFrom files "." arguments.config).mapError (·.message) =
      (Settings.loadFrom others "." arguments.config).mapError (·.message))
    (hrefused : (run ⟨files, stdin, platform⟩ line).Refused) :
    SameAnswer line ⟨files, stdin, platform⟩ ⟨others, input, platform⟩ := by
  have hrun : ∀ world, run world line = arguments.task.outcome world := by
    intro world
    rw [run_eq, hrequest]
    rfl
  rw [hrun] at hrefused
  obtain ⟨failure, hfailure, hearly⟩ := hrefused
  have hrefuse := refuse_of_early hfailure hearly
  have hconfig : arguments.task.config = arguments.config := by
    rw [Arguments.task] at hrefuse ⊢
    split at hrefuse
    · contradiction
    split at hrefuse
    · contradiction
    rename_i hhelp hversion
    rw [if_neg hhelp, if_neg hversion]
    cases arguments.tree <;> rfl
  rw [← hconfig] at hloaded
  obtain ⟨same, hsame, hmessage⟩ := refuse_congr hloaded hrefuse
  have hfirst : run ⟨files, stdin, platform⟩ line = ⟨1, [], some failure, files⟩ :=
    (hrun _).trans (outcome_of_refuse hrefuse)
  have hsecond : run ⟨others, input, platform⟩ line = ⟨1, [], some same, others⟩ :=
    (hrun _).trans (outcome_of_refuse hsame)
  constructor <;>
    simp only [hfirst, hsecond, Outcome.stderr, Option.map_some, hmessage, and_self]

/-- Among the same files, runs differ only where standard input is the input and nothing keeps
them from reading it. -/
theorem reaches_of_run_ne
    (h : run ⟨files, stdin, platform⟩ line ≠ run ⟨files, input, platform⟩ line) :
    ∃ arguments, Request.ofArguments line = .run arguments ∧ Reaches files arguments "-" := by
  cases hrequest : Request.ofArguments line with
  | help | version | misuse =>
    rw [run_eq, run_eq, hrequest] at h
    exact absurd rfl h
  | run arguments =>
    refine ⟨arguments, rfl, ?_⟩
    rw [run_eq, run_eq, hrequest] at h
    change arguments.task.outcome ⟨files, stdin, platform⟩ ≠
      arguments.task.outcome ⟨files, input, platform⟩ at h
    cases hplan : arguments.task.plan platform
        (Settings.loadFrom files "." arguments.task.config) with
    | refuse failure =>
      have hrefused : ∀ stdin, arguments.task.outcome ⟨files, stdin, platform⟩ =
          ⟨1, [], some failure, files⟩ := fun stdin => outcome_of_refuse hplan
      exact absurd ((hrefused stdin).trans (hrefused input).symm) h
    | say text =>
      have hsaid : ∀ stdin, arguments.task.outcome ⟨files, stdin, platform⟩ =
          ⟨0, encodeText text, none, files⟩ := fun stdin => outcome_of_say hplan
      exact absurd ((hsaid stdin).trans (hsaid input).symm) h
    | work named next =>
      by_cases hnamed : named = "-"
      · exact hnamed ▸ reaches_of_plan hplan
      · -- The same is read from both worlds, and the same is done with it.
        have hrun : (readInput stdin named >>= next).run ⟨[], files⟩ =
            (readInput input named >>= next).run ⟨[], files⟩ := by
          rw [run_readInput_bind, run_readInput_bind, read_congr_stdin hnamed stdin input]
        refine absurd ?_ h
        rw [Task.outcome, Task.outcome, hplan]
        exact ofStage_congr hrun

/-- What a run looks at decides where two worlds may give different answers: a command line
that says something about the command has one answer everywhere; where the settings are loaded
alike, a run that is refused in one world is refused in the other, for the same reason; and
among the same files, the answer is another one only where standard input is the input and
nothing keeps the run from reading it. -/
theorem answer_depends (line : List String) (files others : Tree) (stdin input : List UInt8)
    (platform : String) :
    ((Request.ofArguments line).Aside →
      SameAnswer line ⟨files, stdin, platform⟩ ⟨others, input, platform⟩) ∧
      (∀ arguments, Request.ofArguments line = .run arguments →
        (Settings.loadFrom files "." arguments.config).mapError (·.message) =
          (Settings.loadFrom others "." arguments.config).mapError (·.message) →
        (run ⟨files, stdin, platform⟩ line).Refused →
          SameAnswer line ⟨files, stdin, platform⟩ ⟨others, input, platform⟩) ∧
      (run ⟨files, stdin, platform⟩ line ≠ run ⟨files, input, platform⟩ line →
        ∃ arguments, Request.ofArguments line = .run arguments ∧
          Reaches files arguments "-") :=
  ⟨sameAnswer_of_aside, fun _ => sameAnswer_of_refused, reaches_of_run_ne⟩

/-- Help is the same everywhere, an unknown format is refused before the missing input is
noticed, and standard input counts where it is the input. -/
theorem answer_depends_samples :
    SameAnswer ["help"] ⟨.empty [['w']], [], ""⟩ ⟨.empty [['v']], [98], ""⟩ ∧
      SameAnswer ["pdf", "a.md"] ⟨.empty [['w']], [], ""⟩ ⟨.empty [['v']], [98], ""⟩ ∧
      ∃ arguments, Request.ofArguments ["slack", "-"] = .run arguments ∧
        Reaches (.empty [['w']]) arguments "-" := by
  have hhelp : (Request.ofArguments ["help"]).Aside := by decide
  have hload : (Settings.loadFrom (.empty [['w']]) "." none).mapError (·.message) =
      (Settings.loadFrom (.empty [['v']]) "." none).mapError (·.message) := by rfl
  have hrefused : (run ⟨.empty [['w']], [], ""⟩ ["pdf", "a.md"]).Refused := by decide +kernel
  have hne : (run ⟨.empty [['w']], [], ""⟩ ["slack", "-"]).stdout ≠
      (run ⟨.empty [['w']], [98], ""⟩ ["slack", "-"]).stdout := by decide +kernel
  exact ⟨(answer_depends _ _ _ _ _ _).1 hhelp,
    (answer_depends _ _ _ _ _ _).2.1 _ rfl hload hrefused,
    (answer_depends _ _ (.empty [['v']]) _ _ _).2.2 fun h => hne (congrArg Outcome.stdout h)⟩

end Environments

end Chatdown.Command
