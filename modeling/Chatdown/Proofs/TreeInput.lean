import Chatdown.Command.Invocation

/-!
# The input whose tree is shown

A conversion looks for its input behind the format, if no option gives the format. The
document tree of an input is looked for behind the format whenever there is more than one
argument that stands for itself. So both find the same input, unless an option gives the
format and none the input, and there are different arguments where the two look.
-/

namespace Chatdown.Command

section Slots

variable (format input output : Option String) (positionals : List String)

/-- Where a conversion looks for its input: at the option, and else at the first argument
that the format leaves. -/
theorem input_resolve : (Invocation.resolve format input output positionals).input =
    (nonEmpty input).or (nonEmpty positionals[if (nonEmpty format).isSome then 0 else 1]?) := by
  have htake : (Invocation.resolve format input output positionals).input =
      (take input (take format positionals).2).1 := rfl
  rw [htake]
  cases hinput : nonEmpty input with
  | some value => simp [take, hinput]
  | none =>
    cases hformat : nonEmpty format with
    | some value => simp [take, hinput, hformat, List.head?_eq_getElem?]
    | none => simp [take, hinput, hformat, List.head?_eq_getElem?]

/-- Nothing keeps the tree of an input from being looked for where a conversion looks for
it: there is an option for the input, or none for the format, or there are no two
different arguments to choose from. -/
def SameInput : Prop :=
  nonEmpty input ≠ none ∨ nonEmpty format = none ∨ positionals.length ≤ 1 ∨
    positionals[1]? = positionals[0]?

/-- It is decidable whether both look in the same place. -/
instance : Decidable (SameInput format input positionals) :=
  inferInstanceAs (Decidable (_ ∨ _ ∨ _ ∨ _))

variable {format input output positionals} {found : String}

/-- A text that is not empty stands where it was found. -/
theorem nonEmpty_eq_some_iff {value : Option String} :
    nonEmpty value = some found ↔ value = some found ∧ found ≠ "" := by
  simp [nonEmpty, Option.filter_eq_some_iff]

/-- Of an input that a conversion finds, the tree is looked for in the same place, save
where an option gives the format and there are different arguments to choose from. -/
theorem treeInput_eq_iff
    (h : (Invocation.resolve format input output positionals).input = some found) :
    treeInput input positionals = some found ↔ SameInput format input positionals := by
  rw [input_resolve] at h
  rw [treeInput, SameInput]
  cases hinput : nonEmpty input with
  | some value =>
    rw [hinput, Option.some_or] at h
    simp [h]
  | none =>
    rw [hinput, Option.none_or, nonEmpty_eq_some_iff] at h
    obtain ⟨hfound, hne⟩ := h
    rw [Option.none_or, nonEmpty_eq_some_iff]
    cases hformat : nonEmpty format with
    | none =>
      -- The format took the first argument, so there is a second one.
      rw [hformat, Option.isSome_none, if_neg Bool.false_ne_true] at hfound
      have hlt : 1 < positionals.length := (List.getElem?_eq_some_iff.mp hfound).1
      rw [if_pos hlt, hfound]
      simp [hne]
    | some value =>
      rw [hformat, Option.isSome_some, if_pos rfl] at hfound
      by_cases hlt : 1 < positionals.length
      · simp [hlt, hfound, hne, Nat.not_le.mpr hlt]
      · simp [hlt, hfound, hne, Nat.not_lt.mp hlt]

end Slots

namespace Arguments

/-- The arguments, and that the tree is asked for. -/
def withTree (arguments : Arguments) : Arguments :=
  { arguments with tree := true }

variable {arguments more : Arguments}

/-- An option is set alike when the tree is asked for. -/
theorem set?_withTree (arguments : Arguments) (slot : Slot) (value : String) :
    arguments.withTree.set? slot value = (arguments.set? slot value).map withTree := by
  have hget : arguments.withTree.get slot = arguments.get slot := by cases slot <;> rfl
  rw [set?.eq_def, set?.eq_def, hget]
  split
  · rfl
  · cases slot <;> rfl

/-- An argument is added alike when the tree is asked for. -/
theorem addPositional?_withTree (arguments : Arguments) (argument : String) :
    arguments.withTree.addPositional? argument =
      (arguments.addPositional? argument).map withTree := by
  rw [addPositional?, addPositional?]
  change (if arguments.positionals.length < _ then _ else _) = _
  split <;> rfl

/-- Arguments are added alike when the tree is asked for. -/
theorem addPositionals?_withTree (arguments : Arguments) (rest : List String) :
    arguments.withTree.addPositionals? rest = (arguments.addPositionals? rest).map withTree := by
  rw [addPositionals?, addPositionals?]
  induction rest generalizing arguments with
  | nil => rfl
  | cons argument rest ih =>
    rw [List.foldlM_cons, List.foldlM_cons, addPositional?_withTree]
    cases arguments.addPositional? argument with
    | none => rfl
    | some more => exact ih more

/-- To set an option does not ask for the tree. -/
theorem tree_of_set? {slot : Slot} {value : String} (h : arguments.set? slot value = some more) :
    more.tree = arguments.tree := by
  rw [set?.eq_def] at h
  split at h
  · contradiction
  · cases slot <;> exact Option.some.inj h ▸ rfl

/-- To add an argument does not ask for the tree. -/
theorem tree_of_addPositional? {argument : String}
    (h : arguments.addPositional? argument = some more) : more.tree = arguments.tree := by
  rw [addPositional?] at h
  split at h
  · exact Option.some.inj h ▸ rfl
  · contradiction

/-- To add arguments does not ask for the tree. -/
theorem tree_of_addPositionals? {rest : List String}
    (h : arguments.addPositionals? rest = some more) : more.tree = arguments.tree := by
  rw [addPositionals?] at h
  induction rest generalizing arguments with
  | nil => exact Option.some.inj h ▸ rfl
  | cons argument rest ih =>
    rw [List.foldlM_cons] at h
    obtain ⟨first, hfirst, hrest⟩ := Option.bind_eq_some_iff.mp h
    rw [ih hrest, tree_of_addPositional? hfirst]

end Arguments

open Arguments

/-- Reading does not take back that the tree is asked for; and what is read without that
is read alike when it was asked for before. -/
theorem read_withTree {arguments parsed : Arguments} {closed : Bool} {line : List String}
    (h : Request.read arguments closed line = .run parsed) :
    (arguments.tree = true → parsed.tree = true) ∧
      (parsed.tree = false →
        Request.read arguments.withTree closed line = .run parsed.withTree) := by
  fun_induction Request.read arguments closed line with
  | case1 arguments closed =>
    obtain rfl := Request.run.inj h
    exact ⟨id, fun _ => rfl⟩
  | case5 arguments closed argument rest closes hword hfirst ih =>
    -- The tree is asked for here, so reading ends with that.
    have htree := (ih h).1 rfl
    exact ⟨fun _ => htree, fun hnot => absurd htree (Bool.not_eq_true _ ▸ hnot)⟩
  | case6 arguments closed argument rest closes slot value hword more hset ih =>
    -- An option with its value attached.
    obtain ⟨hkeeps, hread⟩ := ih h
    refine ⟨fun htree => hkeeps ((tree_of_set? hset).trans htree), fun hnot => ?_⟩
    rw [Request.read.eq_def]
    simp only [hword, set?_withTree, hset, Option.map_some]
    exact hread hnot
  | case9 arguments closed argument closes slot hword value rest hmay more hset ih =>
    -- An option with its value in the next argument.
    obtain ⟨hkeeps, hread⟩ := ih h
    refine ⟨fun htree => hkeeps ((tree_of_set? hset).trans htree), fun hnot => ?_⟩
    rw [Request.read.eq_def]
    simp only [hword, hmay, if_true, set?_withTree, hset, Option.map_some]
    exact hread hnot
  | case13 arguments closed argument rest hword hopen more hadd =>
    -- All further arguments stand for themselves.
    obtain rfl := Request.run.inj h
    refine ⟨fun htree => (tree_of_addPositionals? hadd).trans htree, fun _ => ?_⟩
    rw [Request.read.eq_def]
    simp only [hword, hopen, Bool.false_eq_true, if_false, addPositionals?_withTree, hadd,
      Option.map_some]
  | case16 arguments closed argument rest hword hopen more hadd ih =>
    -- An argument that stands for itself.
    obtain ⟨hkeeps, hread⟩ := ih h
    refine ⟨fun htree => hkeeps ((tree_of_addPositional? hadd).trans htree), fun hnot => ?_⟩
    obtain rfl : closed = false := Bool.not_eq_true closed ▸ hopen
    rw [Request.read.eq_def]
    simp only [hword, Bool.false_eq_true, if_false, addPositional?_withTree, hadd,
      Option.map_some]
    exact hread hnot
  | _ => contradiction

/-- A command line that does not ask for the tree asks for it when `--tree` is put in
front, and for nothing else. -/
theorem ofArguments_tree_cons {line : List String} {arguments : Arguments}
    (h : Request.ofArguments line = .run arguments) (htree : arguments.tree = false) :
    Request.ofArguments ("--tree" :: line) = .run arguments.withTree := by
  have hword : Word.ofArgument "--tree" = .tree := by decide
  rw [Request.ofArguments, Request.read.eq_def]
  simp only [hword]
  exact (read_withTree h).2 htree

/-- Of an input that a conversion finds, the tree is shown just when both look in the same
place, and so it is for each command line that says this and the one with `--tree` in
front. They look in the same place unless an option gives the format, none gives the
input, and there are different arguments that stand for themselves. -/
theorem tree_input_iff {format input output : Option String} {positionals : List String}
    {found : String}
    (h : (Invocation.resolve format input output positionals).input = some found) :
    (treeInput input positionals = some found ↔ SameInput format input positionals) ∧
      ∀ (line : List String) (config : Option String),
        Request.ofArguments line = .run ⟨format, input, output, config, false, positionals⟩ →
          ∃ asked : Arguments, Request.ofArguments ("--tree" :: line) = .run asked ∧
            asked.tree = true ∧
              (asked.source? = some found ↔ SameInput format input positionals) := by
  refine ⟨treeInput_eq_iff h, fun line config hline => ?_⟩
  exact ⟨_, ofArguments_tree_cons hline rfl, rfl, treeInput_eq_iff h⟩

/-- With a format given by position, the tree is that of the input that follows it. -/
theorem tree_input_positional :
    (Invocation.resolve none none none ["slack", "notes.md", "out.txt"]).input =
        some "notes.md" ∧
      SameInput none none ["slack", "notes.md", "out.txt"] ∧
      treeInput none ["slack", "notes.md", "out.txt"] = some "notes.md" := by
  have hinput : (Invocation.resolve none none none ["slack", "notes.md", "out.txt"]).input =
      some "notes.md" := by decide
  have hsame : SameInput none none ["slack", "notes.md", "out.txt"] := by decide
  exact ⟨hinput, hsame, (tree_input_iff hinput).1.mpr hsame⟩

/-- With a format given by an option, the tree is looked for in the output. -/
theorem tree_of_output :
    ¬∀ (format input output : Option String) (positionals : List String) (name found : String),
      (Invocation.resolve format input output positionals).format = some name →
        (Invocation.resolve format input output positionals).input = some found →
          treeInput input positionals = some found := by
  intro h
  have hsame := h (some "slack") none none ["notes.md", "out.txt"] "slack" "notes.md"
    (by decide) (by decide)
  have hout : treeInput none ["notes.md", "out.txt"] = some "out.txt" := by decide
  rw [hout] at hsame
  exact absurd hsame (by decide)

end Chatdown.Command
