import Chatdown.Proofs.Mentions
import Chatdown.Proofs.TreeInput

/-!
# The ways of an input

An input that is text may be given as it is, come by standard input, or be what a file holds.
Settings, format and output do not depend on where it comes from, and once it is read, the run
goes on with its octets alone. So all three ways end alike, in success and in failure.
-/

namespace Chatdown.Command

open Files Format Arguments

section Inputs

variable {task : Task} {world : World} {input : String}

/-- The same task for this input. -/
def Task.withInput (input : String) : Task → Task
  | .tree config _ => .tree config (some input)
  | .conversion config invocation => .conversion config { invocation with input := some input }
  | .help => .help
  | .version => .version
  | .platform => .platform

/-- The settings of a task do not depend on its input. -/
@[simp]
theorem Task.config_withInput (task : Task) (input : String) :
    (task.withInput input).config = task.config := by
  cases task <;> rfl

/-- Whether a task comes to reading its input, and what it does with the content, does not depend
on the input. -/
theorem Task.plan_withInput (task : Task) (platform : String)
    (loaded : Except Settings.LoadError Settings) :
    (∃ failure, ∀ input, (task.withInput input).plan platform loaded = .refuse failure) ∨
      (∃ text, ∀ input, (task.withInput input).plan platform loaded = .say text) ∨
        ∃ next, ∀ input, (task.withInput input).plan platform loaded = .work input next := by
  cases task with
  | help => exact .inr (.inl ⟨_, fun _ => rfl⟩)
  | version => exact .inr (.inl ⟨_, fun _ => rfl⟩)
  | platform => exact .inr (.inl ⟨_, fun _ => rfl⟩)
  | tree config named =>
    cases loaded with
    | error error => exact .inl ⟨_, fun _ => rfl⟩
    | ok settings => exact .inr (.inr ⟨_, fun _ => rfl⟩)
  | conversion config invocation =>
    cases loaded with
    | error error => exact .inl ⟨_, fun _ => rfl⟩
    | ok settings =>
      cases hformat : invocation.format.or settings.chosenFormat with
      | none =>
        refine .inl ⟨.formatUndefined, fun input => ?_⟩
        simp only [withInput, plan, hformat]
      | some format =>
        cases hconverter : Registry.withDefaults.get format with
        | error error =>
          refine .inl ⟨.format error, fun input => ?_⟩
          simp only [withInput, plan, hformat, hconverter]
        | ok converter =>
          refine .inr (.inr ⟨convertContent converter invocation.output, fun input => ?_⟩)
          simp only [withInput, plan, hformat, hconverter]

/-- How a task ends depends on the content that its input stands for, and not on the input. -/
theorem exists_outcome_withInput (task : Task) (files : Tree) (content : List UInt8)
    (platform : String) :
    ∃ outcome, ∀ input stdin, (Source.ofArgument input).read files stdin = .ok content →
      (task.withInput input).outcome ⟨files, stdin, platform⟩ = outcome := by
  obtain ⟨failure, hplan⟩ | ⟨text, hplan⟩ | ⟨next, hplan⟩ :=
    task.plan_withInput platform (Settings.loadFrom files "." task.config)
  · refine ⟨⟨1, [], some failure, files⟩, fun input stdin _ => outcome_of_refuse ?_⟩
    rw [Task.config_withInput]
    exact hplan input
  · refine ⟨⟨0, encodeText text, none, files⟩, fun input stdin _ => outcome_of_say ?_⟩
    rw [Task.config_withInput]
    exact hplan input
  · refine ⟨.ofStage ⟨files, [], platform⟩ (next content), fun input stdin hread => ?_⟩
    refine outcome_of_work ?_ hread
    rw [Task.config_withInput]
    exact hplan input

end Inputs

section Lines

variable {front : List String}

/-- With another value of the option for the input, the arguments ask for the same with this
input. -/
theorem task_put_input {arguments : Arguments} {old input : String}
    (hold : arguments.input = some old) (holdNe : old ≠ "") (hne : input ≠ "") :
    (arguments.put .input input).task = arguments.task.withInput input := by
  have hfull : ∀ {value : String}, value ≠ "" → nonEmpty (some value) = some value :=
    fun hvalue => nonEmpty_eq_some_iff.mpr ⟨rfl, hvalue⟩
  have htake : ∀ {value : String}, value ≠ "" →
      take (some value) = fun rest => (some value, rest) := by
    intro value hvalue
    funext rest
    rw [take, hfull hvalue]
  have hinvocation : (arguments.put .input input).invocation =
      { arguments.invocation with input := some input } := by
    change Invocation.resolve arguments.format (some input) arguments.output
      arguments.positionals = _
    rw [Arguments.invocation, hold, Invocation.resolve, Invocation.resolve, htake holdNe,
      htake hne]
  have hsource : arguments.tree = true →
      (arguments.put .input input).source? = some input := by
    intro htree
    rw [Arguments.source?, tree_put, if_pos htree]
    change (nonEmpty (some input)).or _ = _
    rw [hfull hne, Option.some_or]
  rw [Arguments.task, Arguments.task, positionals_put, tree_put]
  split
  · rfl
  split
  · rfl
  split
  · rename_i htree
    rw [hsource htree]
    rfl
  · rw [hinvocation]
    rfl

/-- A command line with an option for the input between other arguments. -/
def inputLine (front back : List String) (spelling : Spelling) (input : String) : List String :=
  front ++ (Mention.words ⟨.input, spelling, input⟩ ++ back)

/-- Where a command line is divided, the value of an option for the input decides the input and
nothing else, or the line is a misuse with all of them. -/
theorem task?_inputLine (hfront : whole front = true) (back : List String) :
    (∀ spelling input,
        (Request.ofArguments (inputLine front back spelling input)).task? = Option.none) ∨
      ∃ task : Task, ∀ spelling input, input ≠ "" →
        (Request.ofArguments (inputLine front back spelling input)).task? =
          some (task.withInput input) := by
  obtain ⟨request, hidle, hends⟩ | ⟨more, closes, hgoes⟩ :=
    divides_of_whole hfront Arguments.none false
  · have htask : ∀ spelling input,
        (Request.ofArguments (inputLine front back spelling input)).task? = request.task? :=
      fun spelling input => congrArg Request.task? (hends _)
    cases request with
    | help => exact .inr ⟨.help, fun spelling input _ => htask spelling input⟩
    | version => exact .inr ⟨.version, fun spelling input _ => htask spelling input⟩
    | run parsed => exact absurd rfl (hidle parsed)
    | misuse => exact .inl htask
  have hread : ∀ spelling input, Request.ofArguments (inputLine front back spelling input) =
      Request.read more closes (Mention.words ⟨.input, spelling, input⟩ ++ back) :=
    fun spelling input => hgoes _
  cases hget : more.get .input with
  | some given =>
    have hset : (more.get .input).isSome := hget ▸ rfl
    exact .inl fun spelling input => congrArg Request.task?
      ((hread spelling input).trans (read_words_of_isSome rfl hset closes back))
  | none =>
    have hput : ∀ spelling input, Request.ofArguments (inputLine front back spelling input) =
        (Request.read (more.put .input "-") (closes || !more.positionals.isEmpty) back).put
          .input input := by
      intro spelling input
      rw [hread, ← read_put_value]
      exact read_words_of_none rfl hget closes back
    cases hdash : Request.read (more.put .input "-") (closes || !more.positionals.isEmpty) back with
    | help => exact .inr ⟨.help, fun spelling input _ => by rw [hput, hdash]; rfl⟩
    | version => exact .inr ⟨.version, fun spelling input _ => by rw [hput, hdash]; rfl⟩
    | run parsed =>
      have hinput : parsed.input = some "-" :=
        (get_of_read (isSome_get_put more .input "-") hdash).trans (get_put_self _ _ _)
      refine .inr ⟨parsed.task, fun spelling input hne => ?_⟩
      rw [hput, hdash]
      exact congrArg some (task_put_input hinput (by decide) hne)
    | misuse => exact .inl fun spelling input => by rw [hput, hdash]; rfl

end Lines

/-- Text is converted alike whether it is the input as it is, or comes by standard input, or is
what a file holds that is the input; and so is its tree shown. Command lines that ask for the same
with these inputs are run alike, and so are those that differ in the value of an option for the
input, however this is written. -/
theorem channels_agree {world : World} {text path : String} (hne : text ≠ "")
    (htext : Source.ofArgument text = .literal text)
    (hpath : Source.ofArgument path = .file path)
    (hfile : world.files.read path.toList = .ok (encodeText text)) :
    (∀ (task : Task) (literal piped named : List String),
      (Request.ofArguments literal).task? = some (task.withInput text) →
        (Request.ofArguments piped).task? = some (task.withInput "-") →
          (Request.ofArguments named).task? = some (task.withInput path) →
            run world literal = run { world with stdin := encodeText text } piped ∧
              run world literal = run world named) ∧
      ∀ (front back : List String) (first second third : Spelling), whole front = true →
        run world (inputLine front back first text) =
            run { world with stdin := encodeText text } (inputLine front back second "-") ∧
          run world (inputLine front back first text) =
            run world (inputLine front back third path) := by
  have hliteral : (Source.ofArgument text).read world.files world.stdin =
      .ok (encodeText text) := by
    rw [htext]
    rfl
  have hpiped : (Source.ofArgument "-").read world.files (encodeText text) =
      .ok (encodeText text) := rfl
  have hnamed : (Source.ofArgument path).read world.files world.stdin =
      .ok (encodeText text) := by
    rw [hpath]
    exact hfile
  have hpathNe : path ≠ "" := by
    rintro rfl
    exact absurd hpath (by decide)
  have hlines : ∀ (task : Task) (literal piped named : List String),
      (Request.ofArguments literal).task? = some (task.withInput text) →
        (Request.ofArguments piped).task? = some (task.withInput "-") →
          (Request.ofArguments named).task? = some (task.withInput path) →
            run world literal = run { world with stdin := encodeText text } piped ∧
              run world literal = run world named := by
    intro task literal piped named hfirst hsecond hthird
    obtain ⟨outcome, houtcome⟩ :=
      exists_outcome_withInput task world.files (encodeText text) world.platform
    have hrun := houtcome text world.stdin hliteral
    simp only [run_eq, hfirst, hsecond, hthird]
    exact ⟨hrun.trans (houtcome "-" (encodeText text) hpiped).symm,
      hrun.trans (houtcome path world.stdin hnamed).symm⟩
  refine ⟨hlines, fun front back first second third hfront => ?_⟩
  obtain hmisuse | ⟨task, htask⟩ := task?_inputLine hfront back
  · simp only [run_eq, hmisuse, and_self]
  · exact hlines task _ _ _ (htask first text hne) (htask second "-" (by decide))
      (htask third path hpathNe)

/-- A directory with a file in it, and nothing on standard input. -/
def sampleWorld : World :=
  ⟨(Tree.empty [['w']]).put [['w'], "in.md".toList] (.file (encodeText "- one")), [], ""⟩

/-- The tree of a text that begins with a hyphen, and its conversion to a file. -/
theorem channels_agree_samples :
    (run sampleWorld ["--tree", "--input=- one"] =
          run { sampleWorld with stdin := encodeText "- one" } ["--tree", "-"] ∧
        run sampleWorld ["--tree", "--input=- one"] = run sampleWorld ["--tree", "in.md"]) ∧
      run sampleWorld ["slack", "--input=- one", "-o", "out.txt"] =
          run { sampleWorld with stdin := encodeText "- one" }
            ["slack", "-i", "-", "-o", "out.txt"] ∧
        run sampleWorld ["slack", "--input=- one", "-o", "out.txt"] =
          run sampleWorld ["slack", "--input", "in.md", "-o", "out.txt"] := by
  have hne : "- one" ≠ "" := by decide
  have htext : Source.ofArgument "- one" = .literal "- one" := by decide
  have hpath : Source.ofArgument "in.md" = .file "in.md" := by decide
  have hfile : sampleWorld.files.read "in.md".toList = .ok (encodeText "- one") := by rfl
  have hwhole : whole ["slack"] = true := by decide
  exact ⟨(channels_agree hne htext hpath hfile).1 (.tree none none) _ _ _ (by decide) (by decide)
      (by decide),
    (channels_agree hne htext hpath hfile).2 ["slack"] ["-o", "out.txt"] .longJoined .short .long
      hwhole⟩

end Chatdown.Command
