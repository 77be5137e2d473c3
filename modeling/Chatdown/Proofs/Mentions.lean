import Chatdown.Proofs.Options

/-!
# The options of a conversion

Format, input and output each have an option with a letter and a name, and its value stands
behind an equals sign or in the next argument. However it is written, it is the same option; and
where no option is given twice, each has the value that it stands with.
-/

namespace Chatdown.Command

open Arguments

/-- One of the things that a conversion is told. -/
inductive Part where
  | format
  | input
  | output
deriving DecidableEq, Repr

namespace Part

/-- The option for it. -/
def slot : Part → Slot
  | format => .format
  | input => .input
  | output => .output

/-- The letter of its option. -/
def letter : Part → Char
  | format => 'f'
  | input => 'i'
  | output => 'o'

/-- The name of its option. -/
def name : Part → String
  | format => "format"
  | input => "input"
  | output => "output"

/-- Different things have different options. -/
theorem slot_injective {part other : Part} (h : part.slot = other.slot) : part = other := by
  cases part <;> cases other <;> first | rfl | contradiction

end Part

/-- What a conversion is told of this. -/
def Invocation.get (invocation : Invocation) : Part → Option String
  | .format => invocation.format
  | .input => invocation.input
  | .output => invocation.output

/-- How an option is written. -/
inductive Spelling where
  /-- By its letter, and the value is the next argument. -/
  | short
  /-- By its letter, and the value behind an equals sign. -/
  | shortJoined
  /-- By its name, and the value is the next argument. -/
  | long
  /-- By its name, and the value behind an equals sign. -/
  | longJoined
deriving DecidableEq, Repr

/-- An option as it stands on a command line. -/
structure Mention where
  /-- What it is the option for. -/
  part : Part
  /-- How it is written. -/
  spelling : Spelling
  /-- Its value. -/
  value : String
deriving DecidableEq, Repr

namespace Mention

/-- The arguments that an option is written with. -/
def words (mention : Mention) : List String :=
  match mention.spelling with
  | .short => [String.ofList ['-', mention.part.letter], mention.value]
  | .shortJoined => [String.ofList ('-' :: mention.part.letter :: '=' :: mention.value.toList)]
  | .long => ["--" ++ mention.part.name, mention.value]
  | .longJoined => ["--" ++ mention.part.name ++ "=" ++ mention.value]

/-- A letter behind a hyphen is an option without its value. -/
theorem word_short (part : Part) :
    Word.ofArgument (String.ofList ['-', part.letter]) = .slot part.slot none := by
  cases part <;> decide

/-- A name behind two hyphens is an option without its value. -/
theorem word_long (part : Part) :
    Word.ofArgument ("--" ++ part.name) = .slot part.slot none := by
  cases part <;> decide

/-- What stands behind the letter and an equals sign is the value, whatever it is. -/
theorem word_shortJoined (part : Part) (value : String) :
    Word.ofArgument (String.ofList ('-' :: part.letter :: '=' :: value.toList)) =
      .slot part.slot (some value) := by
  rw [Word.ofArgument, String.toList_ofList]
  cases part <;> simp [Part.letter, Word.ofLetter, Slot.ofLetter?, Part.slot]

/-- What stands behind the name and an equals sign is the value, whatever it is. -/
theorem word_longJoined (part : Part) (value : String) :
    Word.ofArgument ("--" ++ part.name ++ "=" ++ value) = .slot part.slot (some value) := by
  rw [Word.ofArgument]
  cases part <;> simp [String.toList_append, Part.name, Word.ofName, Slot.ofName?, Part.slot]

end Mention

namespace Arguments

/-- The arguments with the values of some options. -/
def putAll (arguments : Arguments) (mentions : List Mention) : Arguments :=
  mentions.foldl (fun arguments mention => arguments.put mention.part.slot mention.value) arguments

variable {mention : Mention} {mentions : List Mention} {part : Part}

/-- An option that is not among them has the value that it had. -/
theorem get_putAll_of_forall_ne (h : ∀ mention ∈ mentions, mention.part ≠ part)
    (arguments : Arguments) :
    (arguments.putAll mentions).get part.slot = arguments.get part.slot := by
  induction mentions generalizing arguments with
  | nil => rfl
  | cons mention mentions ih =>
    have hne : mention.part.slot ≠ part.slot :=
      fun hslot => h mention List.mem_cons_self (Part.slot_injective hslot)
    calc (arguments.putAll (mention :: mentions)).get part.slot
      _ = (arguments.put mention.part.slot mention.value).get part.slot :=
          ih (fun other hother => h other (List.mem_cons_of_mem mention hother)) _
      _ = arguments.get part.slot := get_put_of_ne hne

/-- An option that is among them, and but once, has its value there. -/
theorem get_putAll_of_mem (hnodup : (mentions.map (·.part)).Nodup) (hmem : mention ∈ mentions)
    (arguments : Arguments) :
    (arguments.putAll mentions).get mention.part.slot = some mention.value := by
  induction mentions generalizing arguments with
  | nil => contradiction
  | cons first mentions ih =>
    obtain ⟨hfirst, hrest⟩ := List.nodup_cons.mp hnodup
    rcases List.mem_cons.mp hmem with rfl | hmem
    · have hne : ∀ other ∈ mentions, other.part ≠ mention.part :=
        fun other hother heq => hfirst (List.mem_map.mpr ⟨other, hother, heq⟩)
      exact (get_putAll_of_forall_ne hne _).trans (get_put_self _ _ _)
    · exact ih hrest hmem _

/-- Values of options are no arguments that stand for themselves. -/
theorem positionals_putAll (arguments : Arguments) (mentions : List Mention) :
    (arguments.putAll mentions).positionals = arguments.positionals := by
  induction mentions generalizing arguments with
  | nil => rfl
  | cons mention mentions ih => exact (ih _).trans (positionals_put _ _ _)

/-- Values of options do not ask for the tree. -/
theorem tree_putAll (arguments : Arguments) (mentions : List Mention) :
    (arguments.putAll mentions).tree = arguments.tree := by
  induction mentions generalizing arguments with
  | nil => rfl
  | cons mention mentions ih => exact (ih _).trans (tree_put _ _ _)

/-- None of these options names a file of settings. -/
theorem config_putAll (arguments : Arguments) (mentions : List Mention) :
    (arguments.putAll mentions).config = arguments.config := by
  induction mentions generalizing arguments with
  | nil => rfl
  | cons mention mentions ih =>
    have hne : mention.part.slot ≠ .config := by cases mention.part <;> exact Slot.noConfusion
    exact (ih _).trans (get_put_of_ne hne)

/-- Arguments that stand for themselves may be added before the values of options. -/
theorem putAll_positionals (arguments : Arguments) (mentions : List Mention)
    (positionals : List String) :
    { arguments with positionals }.putAll mentions =
      { arguments.putAll mentions with positionals } := by
  induction mentions generalizing arguments with
  | nil => rfl
  | cons mention mentions ih =>
    refine Eq.trans ?_ (ih (arguments.put mention.part.slot mention.value))
    cases mention with
    | mk part spelling value => cases part <;> rfl

end Arguments

section Reading

variable {arguments : Arguments} {mention : Mention} {mentions : List Mention}

/-- However an option is written, it takes its value unless it has one. -/
theorem read_words (hmay : mayBeValue mention.part.slot mention.value = true)
    (arguments : Arguments) (closed : Bool) (back : List String) :
    Request.read arguments closed (mention.words ++ back) =
      match arguments.set? mention.part.slot mention.value with
      | some more => Request.read more (closed || !arguments.positionals.isEmpty) back
      | .none => .misuse := by
  rw [Mention.words]
  cases mention.spelling with
  | short => exact (read_apart (Mention.word_short _)).trans (if_pos hmay)
  | shortJoined => exact read_attached (Mention.word_shortJoined _ _)
  | long => exact (read_apart (Mention.word_long _)).trans (if_pos hmay)
  | longJoined => exact read_attached (Mention.word_longJoined _ _)

/-- However it is written, an option that has no value takes the one that it is given. -/
theorem read_words_of_none (hmay : mayBeValue mention.part.slot mention.value = true)
    (hnone : arguments.get mention.part.slot = .none) (closed : Bool) (back : List String) :
    Request.read arguments closed (mention.words ++ back) =
      Request.read (arguments.put mention.part.slot mention.value)
        (closed || !arguments.positionals.isEmpty) back := by
  rw [read_words hmay, set?_of_none hnone]

/-- However it is written, an option that has a value is not given another one. -/
theorem read_words_of_isSome (hmay : mayBeValue mention.part.slot mention.value = true)
    (hset : (arguments.get mention.part.slot).isSome) (closed : Bool) (back : List String) :
    Request.read arguments closed (mention.words ++ back) = .misuse := by
  rw [read_words hmay, set?_of_isSome hset]

/-- Different options that have no values yet take theirs one after the other. -/
theorem read_mentions (hnodup : (mentions.map (·.part)).Nodup)
    (hmay : ∀ mention ∈ mentions, mayBeValue mention.part.slot mention.value = true)
    (hunset : ∀ mention ∈ mentions, arguments.get mention.part.slot = .none) (closed : Bool) :
    ∃ closes, (arguments.positionals = [] → closes = closed) ∧ ∀ back,
      Request.read arguments closed (mentions.flatMap (·.words) ++ back) =
        Request.read (arguments.putAll mentions) closes back := by
  induction mentions generalizing arguments closed with
  | nil => exact ⟨closed, fun _ => rfl, fun _ => rfl⟩
  | cons mention mentions ih =>
    obtain ⟨hfirst, hrest⟩ := List.nodup_cons.mp hnodup
    have hstill : ∀ other ∈ mentions,
        (arguments.put mention.part.slot mention.value).get other.part.slot = .none := by
      intro other hother
      have hne : mention.part.slot ≠ other.part.slot := fun hslot =>
        hfirst (List.mem_map.mpr ⟨other, hother, (Part.slot_injective hslot).symm⟩)
      exact (get_put_of_ne hne).trans (hunset other (List.mem_cons_of_mem mention hother))
    obtain ⟨closes, hcloses, hread⟩ := ih hrest
      (fun other hother => hmay other (List.mem_cons_of_mem mention hother)) hstill
      (closed || !arguments.positionals.isEmpty)
    refine ⟨closes, fun hnil => ?_, fun back => ?_⟩
    · rw [hcloses ((positionals_put _ _ _).trans hnil), hnil]
      exact Bool.or_false closed
    · rw [List.flatMap_cons, List.append_assoc,
        read_words_of_none (hmay mention List.mem_cons_self) (hunset mention List.mem_cons_self)]
      exact hread back

/-- Arguments that stand for themselves are added one after the other, if they are not too
many. -/
theorem read_positionals {arguments : Arguments} {given : List String}
    (hgiven : ∀ argument ∈ given, Word.ofArgument argument = .positional)
    (hlength : arguments.positionals.length + given.length ≤ maxPositionals)
    (back : List String) :
    Request.read arguments false (given ++ back) =
      Request.read { arguments with positionals := arguments.positionals ++ given } false back := by
  induction given generalizing arguments with
  | nil => rw [List.append_nil, List.nil_append]
  | cons argument given ih =>
    rw [List.length_cons] at hlength
    have hadd : arguments.addPositional? argument =
        some { arguments with positionals := arguments.positionals ++ [argument] } := by
      rw [addPositional?, if_pos (by omega)]
    rw [List.cons_append, read_positional (hgiven argument List.mem_cons_self), hadd]
    refine Eq.trans
      (ih (fun other hother => hgiven other (List.mem_cons_of_mem argument hother)) ?_) ?_
    · rw [List.length_append, List.length_singleton]
      omega
    · rw [List.append_assoc, List.singleton_append]

end Reading

end Chatdown.Command
