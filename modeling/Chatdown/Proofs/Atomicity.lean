import Chatdown.Command.Run
import Chatdown.Proofs.Writing

/-!
# What a run changes

All stages of a run but the last only look at what there is, and the last one, which
prints or writes, changes nothing when it fails. So a run that fails changes nothing, and
a conversion that succeeds has delivered its result and changed nothing else.
-/

namespace Chatdown.Command

open Files Format

section Stages

variable {α β γ : Type} {stage first : Stage α} {next : α → Stage β}

/-- Two stages, one after the other: the second works on what the first has left. -/
theorem run_bind (first : Stage α) (next : α → Stage β) (before : Result) :
    (first >>= next).run before = match first.run before with
      | (.ok value, middle) => (next value).run middle
      | (.error failure, middle) => (.error failure, middle) := by
  change ExceptT.bindCont next (first.run before).1 (first.run before).2 = _
  obtain ⟨given | failure, middle⟩ := first.run before <;> rfl

/-- Two stages succeed when the first does, and the second on what the first has left. -/
theorem bind_run_eq_ok_iff {before after : Result} {value : β} :
    (first >>= next).run before = (.ok value, after) ↔
      ∃ given middle, first.run before = (.ok given, middle) ∧
        (next given).run middle = (.ok value, after) := by
  rw [run_bind]
  constructor
  · intro h
    split at h
    · rename_i given middle hfirst
      exact ⟨given, middle, hfirst, h⟩
    · exact absurd (congrArg Prod.fst h) (by simp)
  · rintro ⟨given, middle, hfirst, hnext⟩
    rw [hfirst]
    exact hnext

/-- However a stage ends, a part of the result is what it was before. -/
def Preserves (part : Result → γ) (stage : Stage α) : Prop :=
  ∀ before, part (stage.run before).2 = part before

/-- When a stage fails, the result is what it was before. -/
def Atomic (stage : Stage α) : Prop :=
  ∀ before failure after, stage.run before = (.error failure, after) → after = before

/-- Two stages preserve what each of them preserves. -/
theorem Preserves.bind {part : Result → γ} (hfirst : Preserves part first)
    (hnext : ∀ value, Preserves part (next value)) : Preserves part (first >>= next) := by
  intro before
  rw [run_bind]
  have hmiddle := hfirst before
  split
  · rename_i value middle heq
    rw [heq] at hmiddle
    rw [hnext value middle, hmiddle]
  · rename_i failure middle heq
    rw [heq] at hmiddle
    exact hmiddle

/-- A stage that changes nothing preserves every part of the result. -/
theorem Preserves.part (h : Preserves id stage) (part : Result → γ) : Preserves part stage :=
  fun before => congrArg part (h before)

/-- A stage may come before one that changes nothing when it fails, as long as it changes
nothing itself. -/
theorem Atomic.bind (hfirst : Preserves id first) (hnext : ∀ value, Atomic (next value)) :
    Atomic (first >>= next) := by
  intro before failure after hrun
  have hmiddle := hfirst before
  rw [run_bind] at hrun
  split at hrun
  · rename_i value middle heq
    rw [heq] at hmiddle
    rw [hnext value middle failure after hrun]
    exact hmiddle
  · rename_i other middle heq
    rw [heq] at hmiddle
    obtain ⟨-, rfl⟩ := Prod.mk.inj hrun
    exact hmiddle

end Stages

section Parts

variable {α ε : Type} {before after : Result}

/-- What is needed is given when it is there, and nothing changes. -/
theorem run_need (failure : Failure) (found : Option α) (before : Result) :
    (need failure found).run before = (found.elim (.error failure) .ok, before) := by
  cases found <;> rfl

/-- What is attempted is given when it went well, and nothing changes. -/
theorem run_attempt (failure : ε → Failure) (attempted : Except ε α) (before : Result) :
    (attempt failure attempted).run before = (attempted.mapError failure, before) := by
  cases attempted <;> rfl

/-- An input is read from the files that there are, and nothing changes. -/
theorem run_readInput (stdin : List UInt8) (input : String) (before : Result) :
    (readInput stdin input).run before =
      (((Source.ofArgument input).read before.files stdin).mapError (.read input), before) := by
  rw [readInput, run_bind]
  exact run_attempt _ _ _

/-- To look at the result changes nothing. -/
theorem preserves_get : Preserves id (get : Stage Result) := fun _ => rfl

/-- To need something changes nothing. -/
theorem preserves_need (failure : Failure) (found : Option α) :
    Preserves id (need failure found) := fun before => by rw [run_need]

/-- To attempt something changes nothing. -/
theorem preserves_attempt (failure : ε → Failure) (attempted : Except ε α) :
    Preserves id (attempt failure attempted) := fun before => by rw [run_attempt]

/-- Reading changes nothing. -/
theorem preserves_readInput (stdin : List UInt8) (input : String) :
    Preserves id (readInput stdin input) := fun before => by rw [run_readInput]

/-- To change the result does not fail. -/
theorem atomic_modify (change : Result → Result) : Atomic (modify change) := by
  intro before failure after h
  have hrun : (modify change : Stage Unit).run before = (.ok (), change before) := rfl
  rw [hrun] at h
  obtain ⟨hok, -⟩ := Prod.mk.inj h
  contradiction

/-- Output is delivered as a whole, or nothing changes. -/
theorem atomic_writeOutput (output : Option String) (content : List UInt8) :
    Atomic (writeOutput output content) := by
  cases output with
  | none => exact atomic_modify _
  | some path =>
    exact Atomic.bind preserves_get fun _ =>
      Atomic.bind (preserves_attempt _ _) fun _ => atomic_modify _

/-- A tree is shown at last, or nothing changes. -/
theorem atomic_showTree (stdin : List UInt8) (input : Option String) :
    Atomic (showTree stdin input) :=
  Atomic.bind (preserves_need _ _) fun input =>
    Atomic.bind (preserves_readInput stdin input) fun _ =>
      Atomic.bind (preserves_attempt _ _) fun _ => atomic_modify _

/-- What was converted is delivered at last, or nothing changes. -/
theorem atomic_convertInput (stdin : List UInt8) (settings : Settings)
    (invocation : Invocation) : Atomic (convertInput stdin settings invocation) :=
  Atomic.bind (preserves_need _ _) fun _ =>
    Atomic.bind (preserves_attempt _ _) fun _ =>
      Atomic.bind (preserves_need _ _) fun input =>
        Atomic.bind (preserves_readInput stdin input) fun _ =>
          Atomic.bind (preserves_attempt _ _) fun _ => atomic_writeOutput _ _

/-- What the arguments say is done, or nothing changes. -/
theorem atomic_perform (world : World) (arguments : Arguments) :
    Atomic (perform world arguments) := by
  rw [perform]
  split
  · exact atomic_modify _
  split
  · exact atomic_modify _
  refine Atomic.bind preserves_get fun _ => Atomic.bind (preserves_attempt _ _) fun _ => ?_
  split
  · exact atomic_showTree _ _
  · exact atomic_convertInput _ _ _

/-- Printing changes no file. -/
theorem files_print (content : List UInt8) : Preserves Result.files (print content) :=
  fun _ => rfl

/-- Showing a tree changes no file. -/
theorem files_showTree (stdin : List UInt8) (input : Option String) :
    Preserves Result.files (showTree stdin input) :=
  ((preserves_need _ _).part _).bind fun input =>
    ((preserves_readInput stdin input).part _).bind fun _ =>
      ((preserves_attempt _ _).part _).bind fun _ => files_print _

/-- What is needed is given just when it is there. -/
theorem need_run_eq_ok_iff {failure : Failure} {found : Option α} {value : α} :
    (need failure found).run before = (.ok value, after) ↔ found = some value ∧ after = before := by
  rw [run_need, Prod.mk.injEq]
  cases found <;> simp [eq_comm]

/-- What is attempted is given just when it went well. -/
theorem attempt_run_eq_ok_iff {failure : ε → Failure} {attempted : Except ε α} {value : α} :
    (attempt failure attempted).run before = (.ok value, after) ↔
      attempted = .ok value ∧ after = before := by
  rw [run_attempt, Prod.mk.injEq, eq_comm (a := before)]
  cases attempted with
  | error fault =>
    change Except.error (failure fault) = Except.ok value ∧ _ ↔ _
    simp
  | ok given =>
    change Except.ok given = Except.ok value ∧ _ ↔ _
    simp

/-- An input is read just when its source can be read. -/
theorem readInput_run_eq_ok_iff {stdin content : List UInt8} {input : String} :
    (readInput stdin input).run before = (.ok content, after) ↔
      (Source.ofArgument input).read before.files stdin = .ok content ∧ after = before := by
  rw [run_readInput, ← run_attempt, attempt_run_eq_ok_iff]

/-- Content is written to standard output, or else just when the path can be written. -/
theorem writeOutput_run_eq_ok_iff {output : Option String} {content : List UInt8} :
    (writeOutput output content).run before = (.ok (), after) ↔
      match output with
      | none => after = { before with stdout := before.stdout ++ content }
      | some path => ∃ files, before.files.write path.toList content = .ok files ∧
          after = { before with files } := by
  cases output with
  | none =>
    change (Except.ok (), { before with stdout := before.stdout ++ content }) = _ ↔ _
    rw [Prod.mk.injEq, eq_comm (a := after)]
    exact and_iff_right rfl
  | some path =>
    change (attempt (.write path) (before.files.write path.toList content) >>= fun files =>
      modify fun result => { result with files }).run before = _ ↔ _
    rw [bind_run_eq_ok_iff]
    constructor
    · rintro ⟨files, middle, hattempt, hmodify⟩
      obtain ⟨hwrite, rfl⟩ := attempt_run_eq_ok_iff.mp hattempt
      exact ⟨files, hwrite, (Prod.mk.inj hmodify).2.symm⟩
    · rintro ⟨files, hwrite, rfl⟩
      exact ⟨files, before, attempt_run_eq_ok_iff.mpr ⟨hwrite, rfl⟩, rfl⟩

end Parts

section Conversions

variable {world : World} {line : List String} {arguments : Arguments} {before after : Result}

/-- Arguments ask for a conversion when they ask neither for a document tree nor for help or
the version. -/
def Arguments.Converting (arguments : Arguments) : Prop :=
  arguments.tree = false ∧ arguments.positionals.head? ≠ some "help" ∧
    arguments.positionals.head? ≠ some "version"

/-- It is decidable whether arguments ask for a conversion. -/
instance (arguments : Arguments) : Decidable arguments.Converting :=
  inferInstanceAs (Decidable (_ ∧ _ ∧ _))

/-- The arguments of a command line that asks for a conversion. -/
def conversion? (line : List String) : Option Arguments :=
  match Request.ofArguments line with
  | .run arguments => if arguments.Converting then some arguments else none
  | .help | .version | .misuse => none

/-- The arguments of a conversion ask for it. -/
theorem conversion?_eq_some_iff : conversion? line = some arguments ↔
    Request.ofArguments line = .run arguments ∧ arguments.Converting := by
  rw [conversion?]
  cases Request.ofArguments line with
  | run given =>
    change (if given.Converting then some given else none) = some arguments ↔ _
    rw [Option.ite_none_right_eq_some, Request.run.injEq, Option.some.injEq]
    exact ⟨fun ⟨h, he⟩ => ⟨he, he ▸ h⟩, fun ⟨he, h⟩ => ⟨he ▸ h, he⟩⟩
  | _ => simp

/-- What a conversion makes of the input and the files that there are before it. -/
inductive Converts (world : World) (arguments : Arguments) : List UInt8 → Prop
  /-- The format that was chosen has a converter, the input can be read, and the converter
  takes it. -/
  | intro {settings : Settings} {format input : String} {converter : Converter}
      {content converted : List UInt8}
      (loaded : Settings.loadFrom world.files "." arguments.config = .ok settings)
      (chosen : arguments.invocation.format.or settings.chosenFormat = some format)
      (found : Registry.withDefaults.get format = .ok converter)
      (named : arguments.invocation.input = some input)
      (read : (Source.ofArgument input).read world.files world.stdin = .ok content)
      (taken : converter.convertBytes content = .ok converted) :
      Converts world arguments converted

/-- What was converted is the output of a run, and nothing else has changed. -/
def Delivered (files : Tree) (output : Option String) (converted : List UInt8)
    (outcome : Outcome) : Prop :=
  match output with
  | none => outcome.stdout = converted ∧ outcome.files = files
  | some path =>
    outcome.stdout = [] ∧ Tree.Overwritten files outcome.files path.toList converted

/-- What a run of a command line may change. -/
structure Contained (world : World) (line : List String) (outcome : Outcome) : Prop where
  /-- A run that fails prints nothing and changes no file. -/
  failed : outcome.code ≠ 0 → outcome.stdout = [] ∧ outcome.files = world.files
  /-- A run that is no conversion changes no file. -/
  looking : conversion? line = none → outcome.files = world.files
  /-- A conversion that does not fail delivers what the converter makes of the input. -/
  converted : ∀ arguments, conversion? line = some arguments → outcome.code = 0 →
    ∃ converted, Converts world arguments converted ∧
      Delivered world.files arguments.invocation.output converted outcome

/-- A conversion goes well just when each of its stages does. -/
theorem convertInput_run_eq_ok_iff {stdin : List UInt8} {settings : Settings}
    {invocation : Invocation} :
    (convertInput stdin settings invocation).run before = (.ok (), after) ↔
      ∃ format converter input content converted,
        invocation.format.or settings.chosenFormat = some format ∧
        Registry.withDefaults.get format = .ok converter ∧
        invocation.input = some input ∧
        (Source.ofArgument input).read before.files stdin = .ok content ∧
        converter.convertBytes content = .ok converted ∧
        (writeOutput invocation.output converted).run before = (.ok (), after) := by
  simp only [convertInput, bind_run_eq_ok_iff, need_run_eq_ok_iff, attempt_run_eq_ok_iff,
    readInput_run_eq_ok_iff]
  constructor
  · rintro ⟨format, _, ⟨hchosen, rfl⟩, converter, _, ⟨hfound, rfl⟩, input, _, ⟨hnamed, rfl⟩,
      content, _, ⟨hread, rfl⟩, converted, _, ⟨htaken, rfl⟩, hwrite⟩
    exact ⟨format, converter, input, content, converted, hchosen, hfound, hnamed, hread, htaken,
      hwrite⟩
  · rintro ⟨format, converter, input, content, converted, hchosen, hfound, hnamed, hread, htaken,
      hwrite⟩
    exact ⟨format, _, ⟨hchosen, rfl⟩, converter, _, ⟨hfound, rfl⟩, input, _, ⟨hnamed, rfl⟩,
      content, _, ⟨hread, rfl⟩, converted, _, ⟨htaken, rfl⟩, hwrite⟩

/-- Arguments that ask for a conversion are done just when the settings can be loaded and the
input can be converted. -/
theorem perform_run_eq_ok_iff (h : arguments.Converting) :
    (perform world arguments).run before = (.ok (), after) ↔
      ∃ settings, Settings.loadFrom before.files "." arguments.config = .ok settings ∧
        (convertInput world.stdin settings arguments.invocation).run before =
          (.ok (), after) := by
  obtain ⟨htree, hhelp, hversion⟩ := h
  have hperform : perform world arguments = (do
      let settings ← attempt .settings (Settings.loadFrom (← get).files "." arguments.config)
      convertInput world.stdin settings arguments.invocation) := by
    rw [perform, if_neg hhelp, if_neg hversion, htree]
    rfl
  rw [hperform]
  change (attempt .settings (Settings.loadFrom before.files "." arguments.config) >>= fun settings =>
    convertInput world.stdin settings arguments.invocation).run before = _ ↔ _
  rw [bind_run_eq_ok_iff]
  constructor
  · rintro ⟨settings, _, hattempt, hconvert⟩
    obtain ⟨hload, rfl⟩ := attempt_run_eq_ok_iff.mp hattempt
    exact ⟨settings, hload, hconvert⟩
  · rintro ⟨settings, hload, hconvert⟩
    exact ⟨settings, before, attempt_run_eq_ok_iff.mpr ⟨hload, rfl⟩, hconvert⟩

/-- Arguments that ask for no conversion change no file. -/
theorem files_perform (h : ¬ arguments.Converting) :
    Preserves Result.files (perform world arguments) := by
  rw [perform]
  split
  · exact files_print _
  split
  · exact files_print _
  rename_i hhelp hversion
  have htree : arguments.tree = true :=
    Bool.of_not_eq_false fun hfalse => h ⟨hfalse, hhelp, hversion⟩
  refine (preserves_get.part _).bind fun _ => ((preserves_attempt _ _).part _).bind fun _ => ?_
  rw [if_pos htree]
  exact files_showTree _ _

end Conversions

section Runs

variable {world : World} {stage : Stage Unit}

/-- A run of stages that change nothing when they fail prints nothing and changes no file when
it fails. -/
theorem Atomic.ofStage (h : Atomic stage) (hcode : (Outcome.ofStage world stage).code ≠ 0) :
    (Outcome.ofStage world stage).stdout = [] ∧
      (Outcome.ofStage world stage).files = world.files := by
  rw [Outcome.ofStage] at hcode ⊢
  split
  · rename_i after heq
    rw [heq] at hcode
    exact absurd rfl hcode
  · rename_i failure after heq
    rw [h _ failure after heq]
    exact ⟨rfl, rfl⟩

/-- A run of stages that change no file changes no file. -/
theorem Preserves.ofStage (h : Preserves Result.files stage) :
    (Outcome.ofStage world stage).files = world.files := by
  have hfiles := h ⟨[], world.files⟩
  rw [Outcome.ofStage]
  split <;> rename_i heq <;> rw [heq] at hfiles <;> exact hfiles

/-- A run of stages succeeds just when they do. -/
theorem ofStage_code_eq_zero_iff : (Outcome.ofStage world stage).code = 0 ↔
    ∃ after, stage.run ⟨[], world.files⟩ = (.ok (), after) := by
  rw [Outcome.ofStage]
  split
  · rename_i after heq
    exact ⟨fun _ => ⟨after, heq⟩, fun _ => rfl⟩
  · rename_i failure after heq
    refine ⟨fun h => absurd h Nat.one_ne_zero, fun ⟨other, hok⟩ => ?_⟩
    rw [heq] at hok
    obtain ⟨herror, -⟩ := Prod.mk.inj hok
    contradiction

/-- A run of stages that succeed ends with what they have brought about. -/
theorem ofStage_of_ok {after : Result} (h : stage.run ⟨[], world.files⟩ = (.ok (), after)) :
    Outcome.ofStage world stage = ⟨0, after.stdout, none, after.files⟩ := by
  rw [Outcome.ofStage, h]

/-- A conversion that succeeds delivers what the converter makes of the input. -/
theorem delivered_of_perform {arguments : Arguments} (h : arguments.Converting)
    (hcode : (Outcome.ofStage world (perform world arguments)).code = 0) :
    ∃ converted, Converts world arguments converted ∧
      Delivered world.files arguments.invocation.output converted
        (Outcome.ofStage world (perform world arguments)) := by
  obtain ⟨after, hrun⟩ := ofStage_code_eq_zero_iff.mp hcode
  obtain ⟨settings, hload, hconvert⟩ := (perform_run_eq_ok_iff h).mp hrun
  obtain ⟨format, converter, input, content, converted, hchosen, hfound, hnamed, hread, htaken,
    hwrite⟩ := convertInput_run_eq_ok_iff.mp hconvert
  refine ⟨converted, .intro hload hchosen hfound hnamed hread htaken, ?_⟩
  rw [ofStage_of_ok hrun]
  rw [writeOutput_run_eq_ok_iff] at hwrite
  cases houtput : arguments.invocation.output with
  | none =>
    rw [houtput] at hwrite
    obtain rfl := hwrite
    exact ⟨rfl, rfl⟩
  | some path =>
    rw [houtput] at hwrite
    obtain ⟨files, hfiles, rfl⟩ := hwrite
    exact ⟨rfl, Tree.overwritten_of_write hfiles⟩

/-- A conversion succeeds when its result can be written to the output, if there is one. -/
theorem Converts.run_code {line : List String} {arguments : Arguments} {converted : List UInt8}
    (h : Converts world arguments converted) (hline : conversion? line = some arguments)
    (hwrite : ∀ path, arguments.invocation.output = some path →
      ∃ files, world.files.write path.toList converted = .ok files) :
    (run world line).code = 0 := by
  obtain ⟨hrequest, hconverting⟩ := conversion?_eq_some_iff.mp hline
  obtain @⟨settings, format, input, converter, content, _, hload, hchosen, hfound, hnamed, hread,
    htaken⟩ := h
  have houtput : ∃ after, (writeOutput arguments.invocation.output converted).run
      ⟨[], world.files⟩ = (.ok (), after) := by
    simp only [writeOutput_run_eq_ok_iff]
    cases hpath : arguments.invocation.output with
    | none => exact ⟨_, rfl⟩
    | some path =>
      obtain ⟨files, hfiles⟩ := hwrite path hpath
      exact ⟨_, files, hfiles, rfl⟩
  obtain ⟨after, hafter⟩ := houtput
  have hconvert : (convertInput world.stdin settings arguments.invocation).run
      ⟨[], world.files⟩ = (.ok (), after) := convertInput_run_eq_ok_iff.mpr
    ⟨format, converter, input, content, converted, hchosen, hfound, hnamed, hread, htaken, hafter⟩
  rw [run, hrequest]
  exact ofStage_code_eq_zero_iff.mpr
    ⟨after, (perform_run_eq_ok_iff hconverting).mpr ⟨settings, hload, hconvert⟩⟩

/-- A run changes nothing when it fails, and nothing but its output when it succeeds, whatever
the command line, the files and standard input are. -/
theorem run_contained (world : World) (line : List String) :
    Contained world line (run world line) where
  failed := by
    rw [run]
    split
    · exact (atomic_modify _).ofStage
    · exact (atomic_modify _).ofStage
    · exact (atomic_perform _ _).ofStage
    · exact fun _ => ⟨rfl, rfl⟩
  looking := by
    rw [run, conversion?]
    cases Request.ofArguments line with
    | help => exact fun _ => (files_print _).ofStage
    | version => exact fun _ => (files_print _).ofStage
    | run arguments =>
      intro hnone
      refine (files_perform fun hconverting => ?_).ofStage
      change (if arguments.Converting then some arguments else none) = none at hnone
      rw [if_pos hconverting] at hnone
      contradiction
    | misuse => exact fun _ => rfl
  converted := by
    intro arguments hconversion
    obtain ⟨hrequest, hconverting⟩ := conversion?_eq_some_iff.mp hconversion
    rw [run, hrequest]
    exact delivered_of_perform hconverting

/-- An input may be converted in place. -/
example : (run ⟨(Tree.empty [['w']]).put [['w'], "a.md".toList] (.file (encodeText "# b")), [], ""⟩
    ["slack", "a.md", "a.md"]).files.at? [['w'], "a.md".toList] =
      some (.file (encodeText "*b*")) := by
  decide +kernel

end Runs

end Chatdown.Command
