import Chatdown.Proofs.Mentions
import Chatdown.Proofs.TreeInput

/-!
# The same conversion in other words

A conversion is told a format, an input and perhaps an output. Each of them may be the value of
an option or an argument that stands for itself, and a command line may have its options in any
order on both sides of these arguments: it is the same conversion. An option with an empty value
leaves its place open, and so a line is read as if that option were not there.
-/

namespace Chatdown.Command

open Arguments

/-- A value that says something, and is not taken for an option or for a request for help or
the version. -/
structure Plain (value : String) : Prop where
  /-- It is not empty. -/
  nonempty : value ≠ ""
  /-- It does not ask for help. -/
  noHelp : value ≠ "help"
  /-- It does not ask for the version. -/
  noVersion : value ≠ "version"
  /-- It does not start with a hyphen, or it is no more than that. -/
  noHyphen : value.toList.head? = some '-' → value = "-"

/-- A plain value may stand for itself. -/
theorem Plain.word {value : String} (h : Plain value) : Word.ofArgument value = .positional := by
  have hone : value.toList.head? = some '-' → value.toList = ['-'] :=
    fun hhead => congrArg String.toList (h.noHyphen hhead)
  rw [Word.ofArgument]
  split
  · rename_i heq
    rw [heq] at hone
    exact absurd (hone rfl) (by decide)
  · rename_i heq
    rw [heq] at hone
    exact absurd (List.cons.inj (hone rfl)).2 (List.cons_ne_nil _ _)
  · rename_i heq
    rw [heq] at hone
    exact absurd (List.cons.inj (hone rfl)).2 (List.cons_ne_nil _ _)
  · rfl

/-- What stands for itself may be the value of an option. -/
theorem mayBeValue_of_word {slot : Slot} {value : String}
    (h : Word.ofArgument value = .positional) : mayBeValue slot value = true := by
  rw [mayBeValue, h, decide_eq_true (Eq.refl Word.positional), Bool.or_true]

/-- A command line with options on both sides of the arguments that stand for themselves. -/
structure Layout where
  /-- The options in front of them. -/
  before : List Mention
  /-- The arguments that stand for themselves, one right behind the other. -/
  positionals : List String
  /-- The options behind them. -/
  after : List Mention
deriving DecidableEq, Repr

namespace Layout

/-- All options of a command line. -/
def mentions (layout : Layout) : List Mention :=
  layout.before ++ layout.after

/-- The arguments on the command line. -/
def line (layout : Layout) : List String :=
  layout.before.flatMap (·.words) ++ (layout.positionals ++ layout.after.flatMap (·.words))

/-- No option says this, or it has an empty value. -/
def Open (layout : Layout) (part : Part) : Prop :=
  ∀ mention ∈ layout.mentions, mention.part = part → mention.value = ""

/-- It is decidable whether an option says it. -/
instance (layout : Layout) (part : Part) : Decidable (layout.Open part) :=
  inferInstanceAs (Decidable (∀ mention ∈ layout.mentions, mention.part = part → _))

/-- A command line tells a conversion just this. -/
structure Gives (layout : Layout) (wanted : Invocation) : Prop where
  /-- No option is given twice. -/
  once : (layout.mentions.map (·.part)).Nodup
  /-- An option has the value that is wanted, or an empty one. -/
  valued : ∀ mention ∈ layout.mentions,
    mention.value = "" ∨ wanted.get mention.part = some mention.value
  /-- What no option says, an argument that stands for itself says, in this order. -/
  rest : layout.positionals = [Part.format, .input, .output].flatMap fun part =>
    if layout.Open part then (wanted.get part).toList else []

/-- What the options and the other arguments of a command line come to. -/
def arguments (layout : Layout) : Arguments :=
  { Arguments.none.putAll layout.mentions with positionals := layout.positionals }

section Telling

variable {layout : Layout} {wanted : Invocation} {part : Part}

/-- An argument that stands for itself says something that is wanted. -/
theorem Gives.exists_of_mem (h : layout.Gives wanted) {argument : String}
    (hmem : argument ∈ layout.positionals) : ∃ part, wanted.get part = some argument := by
  rw [h.rest] at hmem
  obtain ⟨part, -, hpart⟩ := List.mem_flatMap.mp hmem
  split at hpart
  · exact ⟨part, Option.mem_toList.mp hpart⟩
  · contradiction

/-- There is room for all arguments that stand for themselves. -/
theorem Gives.length_positionals (h : layout.Gives wanted) :
    layout.positionals.length ≤ maxPositionals := by
  have hone : ∀ part,
      (if layout.Open part then (wanted.get part).toList else []).length ≤ 1 := by
    intro part
    split
    · cases wanted.get part with
      | none => exact Nat.zero_le 1
      | some value => exact Nat.le_refl 1
    · exact Nat.zero_le 1
  have hformat := hone .format
  have hinput := hone .input
  have houtput := hone .output
  rw [h.rest, maxPositionals]
  simp only [List.flatMap_cons, List.flatMap_nil, List.length_append, List.length_nil]
  omega

/-- The value of an option is empty or plain, so it may be one. -/
theorem Gives.mayBeValue (h : layout.Gives wanted)
    (hplain : ∀ part, ∀ value ∈ wanted.get part, Plain value) :
    ∀ mention ∈ layout.mentions, mayBeValue mention.part.slot mention.value = true := by
  intro mention hmem
  rcases h.valued mention hmem with hempty | hwanted
  · exact mayBeValue_of_word (hempty ▸ by decide)
  · exact mayBeValue_of_word (hplain mention.part mention.value hwanted).word

/-- A command line that tells a conversion what is wanted is a proper one. -/
theorem Gives.ofArguments_line (h : layout.Gives wanted)
    (hplain : ∀ part, ∀ value ∈ wanted.get part, Plain value) :
    Request.ofArguments layout.line = .run layout.arguments := by
  have honce := h.once
  have hmay := h.mayBeValue hplain
  rw [mentions, List.map_append, List.nodup_append] at honce
  obtain ⟨hbefore, hafter, hdisjoint⟩ := honce
  let first := Arguments.none.putAll layout.before
  let middle := { first with positionals := layout.positionals }
  have hnil : first.positionals = [] := positionals_putAll _ _
  -- No option stands on both sides, so those behind have no values yet.
  have hunset : ∀ mention ∈ layout.after, middle.get mention.part.slot = .none := by
    intro mention hmem
    have hne : ∀ other ∈ layout.before, other.part ≠ mention.part := fun other hother =>
      hdisjoint _ (List.mem_map_of_mem hother) _ (List.mem_map_of_mem hmem)
    calc middle.get mention.part.slot
      _ = first.get mention.part.slot := by cases mention.part <;> rfl
      _ = Arguments.none.get mention.part.slot := get_putAll_of_forall_ne hne _
      _ = .none := by cases mention.part <;> rfl
  have hwords : ∀ argument ∈ layout.positionals, Word.ofArgument argument = .positional := by
    intro argument hmem
    obtain ⟨part, hpart⟩ := h.exists_of_mem hmem
    exact (hplain part argument hpart).word
  have hlength : first.positionals.length + layout.positionals.length ≤ maxPositionals := by
    rw [hnil, List.length_nil, Nat.zero_add]
    exact h.length_positionals
  obtain ⟨closes, hcloses, hfront⟩ := read_mentions hbefore
    (fun mention hmem => hmay mention (List.mem_append_left _ hmem))
    (fun mention _ => show Arguments.none.get mention.part.slot = .none by
      cases mention.part <;> rfl) false
  obtain rfl := hcloses rfl
  obtain ⟨_, -, hback⟩ := read_mentions hafter
    (fun mention hmem => hmay mention (List.mem_append_right _ hmem)) hunset false
  calc Request.ofArguments layout.line
    _ = Request.read first false (layout.positionals ++ layout.after.flatMap (·.words)) :=
        hfront _
    _ = Request.read middle false (layout.after.flatMap (·.words) ++ []) := by
        rw [read_positionals hwords hlength, hnil, List.nil_append, List.append_nil]
    _ = .run (middle.putAll layout.after) := hback []
    _ = .run layout.arguments := by
        rw [putAll_positionals, arguments, mentions, Arguments.putAll, Arguments.putAll,
          List.foldl_append]
        rfl

/-- What an option says, unless it leaves that open. -/
theorem Gives.nonEmpty_get (h : layout.Gives wanted) (part : Part) :
    nonEmpty (layout.arguments.get part.slot) =
      if layout.Open part then .none else wanted.get part := by
  have hget : layout.arguments.get part.slot =
      (Arguments.none.putAll layout.mentions).get part.slot := by cases part <;> rfl
  rw [hget]
  by_cases hmentioned : ∃ mention ∈ layout.mentions, mention.part = part
  · obtain ⟨mention, hmem, rfl⟩ := hmentioned
    rw [get_putAll_of_mem h.once hmem]
    split
    · rename_i hopen
      rw [hopen mention hmem rfl]
      rfl
    · rename_i hsaid
      -- There is one option for this at most, so its value is not empty.
      have hne : mention.value ≠ "" := by
        refine fun hempty => hsaid fun other hother hpart => ?_
        have hsame := get_putAll_of_mem h.once hother Arguments.none
        rw [hpart, get_putAll_of_mem h.once hmem] at hsame
        exact (Option.some.inj hsame).symm.trans hempty
      have hwanted := (h.valued mention hmem).resolve_left hne
      rw [hwanted, nonEmpty_eq_some_iff]
      exact ⟨rfl, hne⟩
  · have hne : ∀ mention ∈ layout.mentions, mention.part ≠ part :=
      fun mention hmem hpart => hmentioned ⟨mention, hmem, hpart⟩
    have hopen : layout.Open part := fun mention hmem hpart => absurd hpart (hne mention hmem)
    rw [get_putAll_of_forall_ne hne, if_pos hopen]
    cases part <;> rfl

/-- What is wanted is taken, from an option or from the arguments that stand for themselves. -/
theorem take_eq {given wanted : Option String} {rest : List String} {left : Prop} [Decidable left]
    (hgiven : nonEmpty given = if left then .none else wanted)
    (hwanted : ∀ value ∈ wanted, value ≠ "") (hlast : wanted = .none → rest = []) :
    take given ((if left then wanted.toList else []) ++ rest) = (wanted, rest) := by
  by_cases hleft : left
  · rw [if_pos hleft] at hgiven ⊢
    rw [take, hgiven]
    cases wanted with
    | none =>
      rw [hlast rfl]
      rfl
    | some value =>
      have hvalue : nonEmpty (some value) = some value :=
        nonEmpty_eq_some_iff.mpr ⟨rfl, hwanted value rfl⟩
      exact congrArg (·, rest) hvalue
  · rw [if_neg hleft] at hgiven ⊢
    rw [take, hgiven]
    cases wanted with
    | none =>
      rw [hlast rfl]
      rfl
    | some value => rfl

/-- A command line that tells a conversion what is wanted is understood. -/
theorem Gives.invocation_arguments (h : layout.Gives wanted)
    (hplain : ∀ part, ∀ value ∈ wanted.get part, Plain value)
    (hformat : wanted.format ≠ .none) (hinput : wanted.input ≠ .none) :
    layout.arguments.invocation = wanted := by
  have hne : ∀ part, ∀ value ∈ wanted.get part, value ≠ "" :=
    fun part value hvalue => (hplain part value hvalue).nonempty
  have hlist := h.rest
  simp only [List.flatMap_cons, List.flatMap_nil] at hlist
  change Invocation.resolve (layout.arguments.get Part.format.slot)
    (layout.arguments.get Part.input.slot) (layout.arguments.get Part.output.slot)
    layout.positionals = wanted
  rw [Invocation.resolve, hlist, take_eq (h.nonEmpty_get .format) (hne .format)
    (fun hnone => absurd hnone hformat)]
  dsimp only
  rw [take_eq (h.nonEmpty_get .input) (hne .input) (fun hnone => absurd hnone hinput)]
  dsimp only
  rw [take_eq (h.nonEmpty_get .output) (hne .output) (fun _ => rfl)]
  rfl

/-- A command line that tells a conversion what is wanted asks for this conversion. -/
theorem Gives.task (h : layout.Gives wanted)
    (hplain : ∀ part, ∀ value ∈ wanted.get part, Plain value)
    (hformat : wanted.format ≠ .none) (hinput : wanted.input ≠ .none) :
    (Request.ofArguments layout.line).task? = some (.conversion .none wanted) := by
  have hhead : ∀ {argument}, layout.arguments.positionals.head? = some argument →
      Plain argument := by
    intro argument hhead
    obtain ⟨part, hpart⟩ := h.exists_of_mem (List.mem_of_mem_head? hhead)
    exact hplain part argument hpart
  have htree : layout.arguments.tree = false := tree_putAll _ layout.mentions
  have hconfig : layout.arguments.config = .none := config_putAll _ layout.mentions
  rw [h.ofArguments_line hplain, Request.task?, Arguments.task,
    if_neg fun hhelp => (hhead hhelp).noHelp rfl,
    if_neg fun hversion => (hhead hversion).noVersion rfl, htree, hconfig,
    h.invocation_arguments hplain hformat hinput]
  rfl

end Telling

end Layout

section Empty

variable {front back : List String} {mention : Mention}

/-- An option with an empty value says no more than one that is missing. -/
theorem task_put_none {arguments : Arguments} {part : Part}
    (h : arguments.get part.slot = some "") :
    (arguments.put part.slot .none).task = arguments.task := by
  have htake : take (some "") = take none := rfl
  have hinvocation : (arguments.put part.slot .none).invocation = arguments.invocation := by
    rw [Arguments.invocation, Arguments.invocation, Invocation.resolve, Invocation.resolve]
    cases part with
    | format => rw [show arguments.format = some "" from h, htake]; rfl
    | input => rw [show arguments.input = some "" from h, htake]; rfl
    | output => rw [show arguments.output = some "" from h, htake]; rfl
  have htreeInput : treeInput (arguments.put part.slot .none).input arguments.positionals =
      treeInput arguments.input arguments.positionals := by
    cases part with
    | input => rw [show arguments.input = some "" from h]; rfl
    | format | output => rfl
  have hsource : (arguments.put part.slot .none).source? = arguments.source? := by
    rw [Arguments.source?, Arguments.source?, tree_put, positionals_put, hinvocation, htreeInput]
  have hconfig : (arguments.put part.slot .none).config = arguments.config := by
    cases part <;> rfl
  rw [Arguments.task, Arguments.task, positionals_put, tree_put, hsource, hinvocation, hconfig]

/-- Where a command line is divided, an option with an empty value may stand or not: if it is
accepted, the same is asked for. -/
theorem task?_of_empty (hfront : whole front = true) (hempty : mention.value = "")
    (h : Request.ofArguments (front ++ (mention.words ++ back)) ≠ .misuse) :
    (Request.ofArguments (front ++ (mention.words ++ back))).task? =
      (Request.ofArguments (front ++ back)).task? := by
  rw [Request.ofArguments, Request.ofArguments] at *
  obtain ⟨request, -, hends⟩ | ⟨more, closes, hgoes⟩ := divides_of_whole hfront Arguments.none false
  · rw [hends, hends]
  have hmay : mayBeValue mention.part.slot mention.value = true :=
    mayBeValue_of_word (hempty ▸ by decide)
  rw [hgoes] at h
  rw [hgoes, hgoes]
  cases hget : more.get mention.part.slot with
  | some given => exact absurd (read_words_of_isSome hmay (hget ▸ rfl) closes back) h
  | none =>
    have hset := isSome_get_put more mention.part.slot mention.value
    rw [read_words_of_none hmay hget] at h ⊢
    -- Without the option the rest is read from where it began.
    have hback := read_put hset h .none closes
      (fun hcloses => Bool.or_eq_true_iff.mpr (.inl hcloses))
    rw [put_put, ← hget, put_get] at hback
    rw [hback]
    cases hread : Request.read (more.put mention.part.slot mention.value)
        (closes || !more.positionals.isEmpty) back with
    | run parsed =>
      have hparsed := get_of_read hset hread
      rw [get_put_self, hempty] at hparsed
      rw [hget]
      exact congrArg some (task_put_none hparsed).symm
    | _ => rfl

/-- An option can stand between these arguments: it is not given by them, and it does not part
those that stand for themselves. -/
def Fits (slot : Slot) (front back : List String) : Prop :=
  ∃ first parsed, Request.ofArguments front = .run first ∧
    Request.ofArguments (front ++ back) = .run parsed ∧ parsed.get slot = .none ∧
      (first.positionals = [] ∨ first.positionals = parsed.positionals)

/-- An option with an empty value is accepted where it fits. -/
theorem Fits.accepts (h : Fits mention.part.slot front back) (hfront : whole front = true)
    (hempty : mention.value = "") :
    Request.ofArguments (front ++ (mention.words ++ back)) ≠ .misuse := by
  obtain ⟨first, parsed, hfirst, hline, hnone, hroom⟩ := h
  have hmay : mayBeValue mention.part.slot mention.value = true :=
    mayBeValue_of_word (hempty ▸ by decide)
  rw [Request.ofArguments] at hfirst hline ⊢
  obtain ⟨request, hidle, hends⟩ | ⟨more, closes, hgoes⟩ :=
    divides_of_whole hfront Arguments.none false
  · exact absurd ((hends back).symm.trans hline) (hidle parsed)
  rw [hgoes] at hline
  obtain rfl : more = first := by
    have hnil := hgoes []
    rw [List.append_nil, hfirst] at hnil
    exact (Request.run.inj hnil).symm
  have hunset : more.get mention.part.slot = .none := by
    cases hget : more.get mention.part.slot with
    | none => rfl
    | some given =>
      rw [get_of_read (hget ▸ rfl) hline, hget] at hnone
      contradiction
  have hends : (closes || !more.positionals.isEmpty) = true →
      closes = true ∨ parsed.positionals.length ≤ more.positionals.length := by
    intro hor
    rcases Bool.or_eq_true_iff.mp hor with hcloses | hstarted
    · exact .inl hcloses
    · rcases hroom with hnil | hsame
      · rw [hnil] at hstarted
        contradiction
      · exact .inr (Nat.le_of_eq (congrArg List.length hsame.symm))
  rw [hgoes, read_words_of_none hmay hunset, read_put_of_none hnone hline _ _ hends]
  exact Request.noConfusion

end Empty

/-- A conversion is the same in all wordings: command lines that tell it the same format, input
and output ask for this conversion and are run alike, whichever of the three options say, however
the options are written and wherever they stand. And an option with an empty value makes no
difference: arguments are carried out as if it were missing, and where it fits on a command line,
or is accepted, that is run as the one without it. -/
theorem wordings_agree (world : World) :
    (∀ (format input : String) (output : Option String),
      Plain format → Plain input → (∀ value ∈ output, Plain value) →
        ∀ layout other : Layout, layout.Gives ⟨format, input, output⟩ →
          other.Gives ⟨format, input, output⟩ →
            (Request.ofArguments layout.line).task? =
                some (.conversion none ⟨format, input, output⟩) ∧
              run world layout.line = run world other.line) ∧
      (∀ (arguments : Arguments) (part : Part) (before : Result),
        arguments.get part.slot = some "" →
          (perform world arguments).run before =
            (perform world (arguments.put part.slot .none)).run before) ∧
      ∀ (front back : List String) (mention : Mention), whole front = true →
        mention.value = "" → (Fits mention.part.slot front back ∨
          Request.ofArguments (front ++ (mention.words ++ back)) ≠ .misuse) →
            run world (front ++ (mention.words ++ back)) = run world (front ++ back) := by
  refine ⟨fun format input output hformat hinput houtput layout other hlayout hother => ?_,
    fun arguments part before hempty => ?_, fun front back mention hfront hempty h => ?_⟩
  · have hplain : ∀ part, ∀ value ∈ (⟨format, input, output⟩ : Invocation).get part,
        Plain value := by
      intro part value hvalue
      cases part with
      | format => exact Option.some.inj hvalue ▸ hformat
      | input => exact Option.some.inj hvalue ▸ hinput
      | output => exact houtput value hvalue
    have htask := hlayout.task hplain (Option.some_ne_none _) (Option.some_ne_none _)
    have hsame := hother.task hplain (Option.some_ne_none _) (Option.some_ne_none _)
    exact ⟨htask, run_congr (htask.trans hsame.symm) world⟩
  · rw [run_perform, run_perform, task_put_none hempty]
  · have haccepted := h.elim (fun hfits => hfits.accepts hfront hempty) id
    exact run_congr (task?_of_empty hfront hempty haccepted) world

/-- Options behind the arguments say what options alone say in another order, and an option with
an empty value leaves the input open. -/
theorem wordings_agree_samples :
    run ⟨.empty [['w']], [], ""⟩ ["slack", "a.md", "-o", "out.txt"] =
        run ⟨.empty [['w']], [], ""⟩ ["--output=out.txt", "-i", "a.md", "--format", "slack"] ∧
      (perform ⟨.empty [['w']], [], ""⟩ ⟨none, some "", none, none, false, ["slack", "a.md"]⟩).run
          ⟨[], .empty [['w']]⟩ =
        (perform ⟨.empty [['w']], [], ""⟩ ⟨none, none, none, none, false, ["slack", "a.md"]⟩).run
          ⟨[], .empty [['w']]⟩ ∧
      run ⟨.empty [['w']], [], ""⟩ ["-i", "", "slack", "a.md"] =
        run ⟨.empty [['w']], [], ""⟩ ["slack", "a.md"] := by
  let mixed : Layout := ⟨[], ["slack", "a.md"], [⟨.output, .short, "out.txt"⟩]⟩
  let named : Layout := ⟨[⟨.output, .longJoined, "out.txt"⟩, ⟨.input, .short, "a.md"⟩,
    ⟨.format, .long, "slack"⟩], [], []⟩
  have hslack : Plain "slack" := ⟨by decide, by decide, by decide, by decide⟩
  have hinput : Plain "a.md" := ⟨by decide, by decide, by decide, by decide⟩
  have houtput : ∀ value ∈ some "out.txt", Plain value := by
    rintro value ⟨⟩
    exact ⟨by decide, by decide, by decide, by decide⟩
  have hmixed : mixed.Gives ⟨"slack", "a.md", "out.txt"⟩ := ⟨by decide, by decide, by decide⟩
  have hnamed : named.Gives ⟨"slack", "a.md", "out.txt"⟩ := ⟨by decide, by decide, by decide⟩
  have hfits : Fits .input [] ["slack", "a.md"] := ⟨_, _, rfl, rfl, rfl, .inl rfl⟩
  exact ⟨((wordings_agree _).1 _ _ _ hslack hinput houtput mixed named hmixed hnamed).2,
    (wordings_agree _).2.1 _ .input _ rfl,
    (wordings_agree _).2.2 [] ["slack", "a.md"] ⟨.input, .short, ""⟩ rfl rfl (.inl hfits)⟩

/-- An option may not be given twice, also where its value is empty. -/
example : Request.ofArguments ["--input=", "--input=a.md", "slack"] = .misuse := by decide

end Chatdown.Command
