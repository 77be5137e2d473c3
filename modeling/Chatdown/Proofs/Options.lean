import Chatdown.Proofs.Task

/-!
# Options among the arguments

A command line is read argument by argument, and what has been read does not say how the rest
of the line is divided. So a line can be cut where an argument begins, and the value that an
option has got makes no difference to what is read after it: with another value for it, or with
none, the rest is read alike.
-/

namespace Chatdown.Command

namespace Arguments

/-- The arguments with this as the value of an option, whatever it was before. -/
def put (arguments : Arguments) (slot : Slot) (value : Option String) : Arguments :=
  match slot with
  | .format => { arguments with format := value }
  | .input => { arguments with input := value }
  | .output => { arguments with output := value }
  | .config => { arguments with config := value }

variable {arguments more : Arguments} {slot other : Slot} {value : Option String}
  {given argument : String}

/-- An option has the value that it was given. -/
@[simp]
theorem get_put_self (arguments : Arguments) (slot : Slot) (value : Option String) :
    (arguments.put slot value).get slot = value := by
  cases slot <;> rfl

/-- An option that was given a value has one. -/
theorem isSome_get_put (arguments : Arguments) (slot : Slot) (given : String) :
    ((arguments.put slot given).get slot).isSome := by
  rw [get_put_self]
  rfl

/-- All other options have the values that they had. -/
theorem get_put_of_ne (h : slot ≠ other) :
    (arguments.put slot value).get other = arguments.get other := by
  cases slot <;> cases other <;> first | rfl | exact absurd rfl h

/-- The value that an option is given last counts. -/
@[simp]
theorem put_put (arguments : Arguments) (slot : Slot) (first second : Option String) :
    (arguments.put slot first).put slot second = arguments.put slot second := by
  cases slot <;> rfl

/-- To give an option the value that it has changes nothing. -/
@[simp]
theorem put_get (arguments : Arguments) (slot : Slot) :
    arguments.put slot (arguments.get slot) = arguments := by
  cases slot <;> rfl

/-- Values of different options may be given in either order. -/
theorem put_comm (h : slot ≠ other) (value second : Option String) :
    (arguments.put slot value).put other second = (arguments.put other second).put slot value := by
  cases slot <;> cases other <;> first | rfl | exact absurd rfl h

/-- The arguments that stand for themselves are no options. -/
@[simp]
theorem positionals_put (arguments : Arguments) (slot : Slot) (value : Option String) :
    (arguments.put slot value).positionals = arguments.positionals := by
  cases slot <;> rfl

/-- Whether the tree is asked for is no matter of these options. -/
@[simp]
theorem tree_put (arguments : Arguments) (slot : Slot) (value : Option String) :
    (arguments.put slot value).tree = arguments.tree := by
  cases slot <;> rfl

/-- An option that has no value takes one. -/
theorem set?_of_none (h : arguments.get slot = .none) (given : String) :
    arguments.set? slot given = some (arguments.put slot given) := by
  rw [set?.eq_def, h]
  cases slot <;> rfl

/-- An option that has a value takes no other. -/
theorem set?_of_isSome (h : (arguments.get slot).isSome) (given : String) :
    arguments.set? slot given = .none := by
  rw [set?.eq_def, if_pos h]

/-- What an option is set to, it had no value before. -/
theorem of_set? (h : arguments.set? slot given = some more) :
    arguments.get slot = .none ∧ more = arguments.put slot given := by
  cases hget : arguments.get slot with
  | none =>
    rw [set?_of_none hget] at h
    exact ⟨rfl, (Option.some.inj h).symm⟩
  | some value =>
    rw [set?_of_isSome (hget ▸ rfl)] at h
    contradiction

/-- An argument is added alike whatever the values of the options are. -/
theorem addPositional?_put (arguments : Arguments) (slot : Slot) (value : Option String)
    (argument : String) :
    (arguments.put slot value).addPositional? argument =
      (arguments.addPositional? argument).map (·.put slot value) := by
  rw [addPositional?, addPositional?, positionals_put]
  split
  · cases slot <;> rfl
  · rfl

/-- Arguments are added alike whatever the values of the options are. -/
theorem addPositionals?_put (arguments : Arguments) (slot : Slot) (value : Option String)
    (rest : List String) :
    (arguments.put slot value).addPositionals? rest =
      (arguments.addPositionals? rest).map (·.put slot value) := by
  rw [addPositionals?, addPositionals?]
  induction rest generalizing arguments with
  | nil => rfl
  | cons argument rest ih =>
    rw [List.foldlM_cons, List.foldlM_cons, addPositional?_put]
    cases arguments.addPositional? argument with
    | none => rfl
    | some more => exact ih more

/-- What an argument is added to, it is added behind. -/
theorem of_addPositional? (h : arguments.addPositional? argument = some more) :
    more = { arguments with positionals := arguments.positionals ++ [argument] } := by
  rw [addPositional?] at h
  split at h
  · exact (Option.some.inj h).symm
  · contradiction

/-- What arguments are added to, they are added behind, one after the other. -/
theorem of_addPositionals? {rest : List String} (h : arguments.addPositionals? rest = some more) :
    more = { arguments with positionals := arguments.positionals ++ rest } := by
  rw [addPositionals?] at h
  induction rest generalizing arguments with
  | nil =>
    obtain rfl := Option.some.inj h
    rw [List.append_nil]
  | cons argument rest ih =>
    rw [List.foldlM_cons] at h
    obtain ⟨first, hfirst, hrest⟩ := Option.bind_eq_some_iff.mp h
    rw [ih hrest, of_addPositional? hfirst, List.append_assoc, List.singleton_append]

/-- Arguments that stand for themselves give no option a value. -/
theorem get_with_positionals (arguments : Arguments) (positionals : List String) (slot : Slot) :
    { arguments with positionals }.get slot = arguments.get slot := by
  cases slot <;> rfl

end Arguments

open Arguments

/-- A request with this as the value of an option. -/
def Request.put (request : Request) (slot : Slot) (value : Option String) : Request :=
  match request with
  | .run arguments => .run (arguments.put slot value)
  | other => other

section Steps

variable {arguments : Arguments} {closed : Bool} {slot : Slot} {argument given : String}
  {rest : List String}

/-- The first request for the help ends the reading. -/
theorem read_help (h : Word.ofArgument argument = .help) :
    Request.read arguments closed (argument :: rest) = .help := by
  rw [Request.read.eq_def]
  simp only [h]

/-- The first request for the version ends the reading. -/
theorem read_version (h : Word.ofArgument argument = .version) :
    Request.read arguments closed (argument :: rest) = .version := by
  rw [Request.read.eq_def]
  simp only [h]

/-- The tree is asked for once at most. -/
theorem read_tree (h : Word.ofArgument argument = .tree) :
    Request.read arguments closed (argument :: rest) =
      if arguments.tree then .misuse
      else Request.read { arguments with tree := true }
        (closed || !arguments.positionals.isEmpty) rest := by
  rw [Request.read.eq_def]
  simp only [h]

/-- An option with its value attached takes it, unless it has one. -/
theorem read_attached (h : Word.ofArgument argument = .slot slot (some given)) :
    Request.read arguments closed (argument :: rest) =
      match arguments.set? slot given with
      | some more => Request.read more (closed || !arguments.positionals.isEmpty) rest
      | .none => .misuse := by
  have hread := Request.read.eq_def arguments closed (argument :: rest)
  simp only [h] at hread
  exact hread

/-- An option takes its value from the next argument, unless it has one, or unless that may not
be a value. -/
theorem read_apart (h : Word.ofArgument argument = .slot slot none) :
    Request.read arguments closed (argument :: given :: rest) =
      if mayBeValue slot given then
        match arguments.set? slot given with
        | some more => Request.read more (closed || !arguments.positionals.isEmpty) rest
        | .none => .misuse
      else .misuse := by
  have hread := Request.read.eq_def arguments closed (argument :: given :: rest)
  simp only [h] at hread
  exact hread

/-- After this, all arguments stand for themselves. -/
theorem read_escape (h : Word.ofArgument argument = .escape) :
    Request.read arguments closed (argument :: rest) =
      if closed && !rest.isEmpty then .misuse
      else
        match arguments.addPositionals? rest with
        | some more => .run more
        | .none => .misuse := by
  have hread := Request.read.eq_def arguments closed (argument :: rest)
  simp only [h] at hread
  exact hread

/-- An argument that stands for itself is added to those right before it. -/
theorem read_positional (h : Word.ofArgument argument = .positional) :
    Request.read arguments closed (argument :: rest) =
      if closed then .misuse
      else
        match arguments.addPositional? argument with
        | some more => Request.read more closed rest
        | .none => .misuse := by
  have hread := Request.read.eq_def arguments closed (argument :: rest)
  simp only [h] at hread
  exact hread

/-- An argument of no known form is a misuse. -/
theorem read_unknown (h : Word.ofArgument argument = .unknown) :
    Request.read arguments closed (argument :: rest) = .misuse := by
  rw [Request.read.eq_def]
  simp only [h]

end Steps

/-- An option that has a value is not the one that is set. -/
theorem ne_of_set? {arguments more : Arguments} {slot other : Slot} {given : String}
    (hset : (arguments.get slot).isSome) (h : arguments.set? other given = some more) :
    slot ≠ other := by
  rintro rfl
  rw [(of_set? h).1] at hset
  contradiction

/-- Another option is set alike whatever value an option has. -/
theorem set?_put {arguments more : Arguments} {slot other : Slot} {given : String}
    (hne : slot ≠ other) (h : arguments.set? other given = some more) (value : Option String) :
    (arguments.put slot value).set? other given = some (more.put slot value) := by
  obtain ⟨hnone, rfl⟩ := of_set? h
  rw [set?_of_none ((get_put_of_ne hne).trans hnone), put_comm hne]

/-- Where no more arguments may stand for themselves on one side, so it is on the other, unless
none follow. -/
theorem closes_mono {ends closed : Bool} {P : Prop} (h : ends = true → closed = true ∨ P)
    (started : Bool) : (ends || started) = true → (closed || started) = true ∨ P := by
  intro hor
  rcases Bool.or_eq_true_iff.mp hor with hend | hstarted
  · exact (h hend).imp_left fun hclosed => by rw [hclosed, Bool.true_or]
  · exact .inl (by rw [hstarted, Bool.or_true])

/-- The rest of a command line is read alike whatever value an option has that was given
already, and no more of it is refused where the option has none, or where the arguments that
stand for themselves may yet follow. -/
theorem read_put {arguments : Arguments} {slot : Slot} {closed : Bool} {line : List String}
    (hset : (arguments.get slot).isSome) (h : Request.read arguments closed line ≠ .misuse)
    (value : Option String) :
    ∀ ends, (ends = true → closed = true) →
      Request.read (arguments.put slot value) ends line =
        (Request.read arguments closed line).put slot value := by
  have hmono : ∀ {ends closed started : Bool}, (ends = true → closed = true) →
      (ends || started) = true → (closed || started) = true :=
    fun hends hor => (closes_mono (fun hend => .inl (hends hend)) _ hor).resolve_right id
  fun_induction Request.read arguments closed line with
  | case1 arguments closed => exact fun _ _ => rfl
  | case2 arguments closed argument rest hword => exact fun _ _ => read_help hword
  | case3 arguments closed argument rest hword => exact fun _ _ => read_version hword
  | case5 arguments closed argument rest closes hword hfirst ih =>
    -- The tree is asked for.
    intro ends hends
    rw [read_tree hword, positionals_put, tree_put, if_neg hfirst,
      ← ih (by cases slot <;> exact hset) h _ (hmono hends)]
    cases slot <;> rfl
  | case6 arguments closed argument rest closes other given hword more hmore ih =>
    -- An option with its value attached.
    intro ends hends
    have hne := ne_of_set? hset hmore
    have hkept : (more.get slot).isSome := by
      rwa [(of_set? hmore).2, get_put_of_ne hne.symm]
    rw [read_attached hword, positionals_put, set?_put hne hmore]
    exact ih hkept h _ (hmono hends)
  | case9 arguments closed argument closes other hword given rest hmay more hmore ih =>
    -- An option with its value in the next argument.
    intro ends hends
    have hne := ne_of_set? hset hmore
    have hkept : (more.get slot).isSome := by
      rwa [(of_set? hmore).2, get_put_of_ne hne.symm]
    rw [read_apart hword, positionals_put, if_pos hmay, set?_put hne hmore]
    exact ih hkept h _ (hmono hends)
  | case13 arguments closed argument rest hword hopen more hadd =>
    -- All further arguments stand for themselves.
    intro ends hends
    have hstill : ¬(ends && !rest.isEmpty) = true := by
      intro hand
      obtain ⟨hend, hrest⟩ := Bool.and_eq_true_iff.mp hand
      exact hopen (Bool.and_eq_true_iff.mpr ⟨hends hend, hrest⟩)
    rw [read_escape hword, if_neg hstill, addPositionals?_put, hadd]
    rfl
  | case16 arguments closed argument rest hword hopen more hadd ih =>
    -- An argument that stands for itself.
    intro ends hends
    rw [read_positional hword, if_neg (fun hend => hopen (hends hend)), addPositional?_put, hadd]
    have hkept : (more.get slot).isSome := by
      rwa [of_addPositional? hadd, get_with_positionals]
    exact ih hkept h ends hends
  | _ => exact absurd rfl h

/-- Reading takes no value back. -/
theorem get_of_read {arguments parsed : Arguments} {slot : Slot} {closed : Bool}
    {line : List String} (hset : (arguments.get slot).isSome)
    (h : Request.read arguments closed line = .run parsed) :
    parsed.get slot = arguments.get slot := by
  have hrun : Request.read arguments closed line ≠ .misuse := by
    rw [h]
    exact Request.noConfusion
  have hsame := read_put hset hrun (arguments.get slot) closed id
  rw [put_get, h] at hsame
  calc parsed.get slot
    _ = (parsed.put slot (arguments.get slot)).get slot :=
        congrArg (Arguments.get · slot) (Request.run.inj hsame)
    _ = arguments.get slot := get_put_self parsed slot _

/-- Reading takes back no argument that stands for itself. -/
theorem length_positionals_of_read {arguments parsed : Arguments} {closed : Bool}
    {line : List String} (h : Request.read arguments closed line = .run parsed) :
    arguments.positionals.length ≤ parsed.positionals.length := by
  fun_induction Request.read arguments closed line with
  | case1 arguments closed => exact Request.run.inj h ▸ Nat.le_refl _
  | case5 arguments closed argument rest closes hword hfirst ih => exact ih h
  | case6 arguments closed argument rest closes slot given hword more hmore ih =>
    have hle := ih h
    rwa [(of_set? hmore).2, positionals_put] at hle
  | case9 arguments closed argument closes slot hword given rest hmay more hmore ih =>
    have hle := ih h
    rwa [(of_set? hmore).2, positionals_put] at hle
  | case13 arguments closed argument rest hword hopen more hadd =>
    obtain rfl := Request.run.inj h
    rw [of_addPositionals? hadd, List.length_append]
    exact Nat.le_add_right _ _
  | case16 arguments closed argument rest hword hopen more hadd ih =>
    have hle := ih h
    rw [of_addPositional? hadd, List.length_append, List.length_singleton] at hle
    exact Nat.le_of_succ_le hle
  | _ => contradiction

/-- An option that has no value in the end was not set. -/
theorem ne_of_read {arguments more parsed : Arguments} {slot other : Slot} {closed : Bool}
    {given : String} {line : List String} (hparsed : parsed.get slot = .none)
    (hmore : arguments.set? other given = some more)
    (h : Request.read more closed line = .run parsed) : slot ≠ other := by
  rintro rfl
  have hget : more.get slot = some given := by rw [(of_set? hmore).2, get_put_self]
  rw [get_of_read (hget ▸ rfl) h, hget] at hparsed
  contradiction

/-- The rest of a command line, if it does not give an option, is read alike whatever value the
option has. Fewer arguments may stand for themselves where none are added. -/
theorem read_put_of_none {arguments parsed : Arguments} {slot : Slot} {closed : Bool}
    {line : List String} (hparsed : parsed.get slot = .none)
    (h : Request.read arguments closed line = .run parsed) (value : Option String) :
    ∀ ends, (ends = true → closed = true ∨
        parsed.positionals.length ≤ arguments.positionals.length) →
      Request.read (arguments.put slot value) ends line = .run (parsed.put slot value) := by
  fun_induction Request.read arguments closed line with
  | case1 arguments closed => exact fun _ _ => Request.run.inj h ▸ rfl
  | case5 arguments closed argument rest closes hword hfirst ih =>
    -- The tree is asked for.
    intro ends hends
    rw [read_tree hword, positionals_put, tree_put, if_neg hfirst,
      ← ih h _ (closes_mono hends _)]
    cases slot <;> rfl
  | case6 arguments closed argument rest closes other given hword more hmore ih =>
    -- An option with its value attached.
    intro ends hends
    rw [read_attached hword, positionals_put, set?_put (ne_of_read hparsed hmore h) hmore]
    refine ih h _ (closes_mono ?_ _)
    rwa [(of_set? hmore).2, positionals_put]
  | case9 arguments closed argument closes other hword given rest hmay more hmore ih =>
    -- An option with its value in the next argument.
    intro ends hends
    rw [read_apart hword, positionals_put, if_pos hmay,
      set?_put (ne_of_read hparsed hmore h) hmore]
    refine ih h _ (closes_mono ?_ _)
    rwa [(of_set? hmore).2, positionals_put]
  | case13 arguments closed argument rest hword hopen more hadd =>
    -- All further arguments stand for themselves, and where none may, there are none.
    intro ends hends
    obtain rfl := Request.run.inj h
    have hstill : ¬(ends && !rest.isEmpty) = true := by
      intro hand
      obtain ⟨hend, hrest⟩ := Bool.and_eq_true_iff.mp hand
      rcases hends hend with hclosed | hle
      · exact hopen (Bool.and_eq_true_iff.mpr ⟨hclosed, hrest⟩)
      · rw [of_addPositionals? hadd, List.length_append] at hle
        cases rest with
        | nil => contradiction
        | cons first rest =>
          rw [List.length_cons] at hle
          omega
    rw [read_escape hword, if_neg hstill, addPositionals?_put, hadd]
    rfl
  | case16 arguments closed argument rest hword hopen more hadd ih =>
    -- An argument that stands for itself.
    intro ends hends
    have hstill : ¬ends = true := by
      intro hend
      rcases hends hend with hclosed | hle
      · exact hopen hclosed
      · have hmore := length_positionals_of_read h
        rw [of_addPositional? hadd, List.length_append, List.length_singleton] at hmore
        omega
    rw [read_positional hword, if_neg hstill, addPositional?_put, hadd]
    exact ih h ends fun hend => absurd hend hstill
  | _ => contradiction

/-- The rest of a command line is read alike with any two values of an option. -/
theorem read_put_value (arguments : Arguments) (slot : Slot) (closed : Bool) (line : List String)
    (first second : String) :
    Request.read (arguments.put slot second) closed line =
      (Request.read (arguments.put slot first) closed line).put slot second := by
  have hput : ∀ first second : String,
      Request.read (arguments.put slot first) closed line ≠ .misuse →
        Request.read (arguments.put slot second) closed line =
          (Request.read (arguments.put slot first) closed line).put slot second := by
    intro first second h
    have hread := read_put (isSome_get_put arguments slot first) h (some second) closed id
    rwa [put_put] at hread
  by_cases h : Request.read (arguments.put slot first) closed line = .misuse
  · rw [h]
    by_cases hsecond : Request.read (arguments.put slot second) closed line = .misuse
    · exact hsecond
    · -- What is no misuse with the second value is none with the first.
      have hfirst := hput second first hsecond
      rw [h] at hfirst
      cases hread : Request.read (arguments.put slot second) closed line with
      | misuse => rfl
      | _ =>
        rw [hread] at hfirst
        contradiction
  · exact hput first second h

/-- Whether a command line is divided where these arguments end, so that what follows begins
with an option, a switch or an argument that stands for itself. -/
def whole : List String → Bool
  | [] => true
  | argument :: rest =>
    match Word.ofArgument argument with
    | .escape => false
    | .slot _ .none =>
      match rest with
      | [] => false
      | _ :: rest => whole rest
    | _ => whole rest

section Division

variable {arguments more : Arguments} {closed closes : Bool} {front rest : List String}

/-- Reading these arguments ends with a request that asks for no work, or it goes on behind them
in the same way whatever follows. -/
def Divides (arguments : Arguments) (closed : Bool) (front : List String) : Prop :=
  (∃ request, (∀ parsed, request ≠ .run parsed) ∧
    ∀ back, Request.read arguments closed (front ++ back) = request) ∨
    ∃ more closes, ∀ back,
      Request.read arguments closed (front ++ back) = Request.read more closes back

/-- A line is divided where the rest of it is. -/
theorem divides_of_read
    (h : ∀ back, Request.read arguments closed (front ++ back) =
      Request.read more closes (rest ++ back)) (hrest : Divides more closes rest) :
    Divides arguments closed front := by
  rcases hrest with ⟨request, hidle, hends⟩ | ⟨last, done, hgoes⟩
  · exact .inl ⟨request, hidle, fun back => (h back).trans (hends back)⟩
  · exact .inr ⟨last, done, fun back => (h back).trans (hgoes back)⟩

/-- A line is divided where the rest of it is, or it is refused before. -/
theorem divides_of_match {found : Option Arguments}
    (h : ∀ back, Request.read arguments closed (front ++ back) =
      match found with
      | some more => Request.read more closes (rest ++ back)
      | .none => .misuse) (hrest : ∀ more, Divides more closes rest) :
    Divides arguments closed front := by
  cases found with
  | none => exact .inl ⟨.misuse, nofun, h⟩
  | some more => exact divides_of_read h (hrest more)

/-- Whole arguments divide a line wherever they are read. -/
theorem divides_of_whole (h : whole front = true) (arguments : Arguments) (closed : Bool) :
    Divides arguments closed front := by
  fun_induction whole front generalizing arguments closed with
  | case1 => exact .inr ⟨arguments, closed, fun _ => rfl⟩
  | case4 argument slot hword given rest ih =>
    -- An option and the next argument for its value, if it may be that.
    by_cases hmay : mayBeValue slot given = true
    · exact divides_of_match (fun _ => (read_apart hword).trans (if_pos hmay))
        fun more => ih h more _
    · exact .inl ⟨.misuse, nofun, fun _ => (read_apart hword).trans (if_neg hmay)⟩
  | case5 argument rest hescape hslot ih =>
    cases hword : Word.ofArgument argument with
    | help => exact .inl ⟨.help, nofun, fun _ => read_help hword⟩
    | version => exact .inl ⟨.version, nofun, fun _ => read_version hword⟩
    | tree =>
      by_cases htree : arguments.tree = true
      · exact .inl ⟨.misuse, nofun, fun _ => (read_tree hword).trans (if_pos htree)⟩
      · exact divides_of_read (fun _ => (read_tree hword).trans (if_neg htree)) (ih h _ _)
    | slot slot given =>
      cases given with
      | none => exact absurd hword (hslot slot)
      | some given => exact divides_of_match (fun _ => read_attached hword) fun more => ih h more _
    | escape => exact absurd hword hescape
    | positional =>
      cases closed with
      | true => exact .inl ⟨.misuse, nofun, fun _ => read_positional hword⟩
      | false => exact divides_of_match (fun _ => read_positional hword) fun more => ih h more _
    | unknown => exact .inl ⟨.misuse, nofun, fun _ => read_unknown hword⟩
  | _ => contradiction

end Division

end Chatdown.Command
