import Chatdown.Command.Source
import Mathlib.Data.List.Basic
import Mathlib.Data.List.TakeWhile

/-!
# Arguments that name a file

An input argument is the path to a file when it ends in a name with an extension, and here
this is said by how the argument is put together: a folder, a stem, a dot, an extension, and
slashes and lone dots that name nothing more. The reading of a path from its end is shown to
agree with that on every text. It follows what becomes of an argument in a folder: a path to
a file stays one, and a text stays a text, unless it leads to nothing but the folder.
-/

namespace Chatdown.Files.Path

/-- What a path may end in without naming anything more: slashes, each with or without a dot
that stands alone behind it. -/
inductive Idle : List Char → Prop where
  | nil : Idle []
  | slash {rest : List Char} (h : Idle rest) : Idle ('/' :: rest)
  | dot {rest : List Char} (h : Idle rest) : Idle ('/' :: '.' :: rest)

/-- The parts that a path to a file is put together from. -/
structure Parts (path folder stem extension idle : List Char) : Prop where
  /-- The parts make up the path, with a dot between the stem and the extension. -/
  whole : path = folder ++ (stem ++ '.' :: extension) ++ idle
  /-- The folder is empty or ends in a slash. -/
  closed : folder = [] ∨ folder.getLast? = some '/'
  /-- The stem is not empty and in one name. -/
  named : stem ≠ [] ∧ '/' ∉ stem
  /-- The extension is not empty and in the same name, behind its last dot. -/
  extended : extension ≠ [] ∧ '/' ∉ extension ∧ '.' ∉ extension
  /-- What is left names nothing. -/
  idle : Idle idle

/-- A path that ends in a name with an extension. -/
def NamesFile (path : List Char) : Prop :=
  ∃ folder stem extension idle, Parts path folder stem extension idle

/-- Idle ends in a row are idle. -/
theorem Idle.append {s t : List Char} (hs : Idle s) (ht : Idle t) : Idle (s ++ t) := by
  induction hs with
  | nil => exact ht
  | slash _ ih => exact .slash ih
  | dot _ ih => exact .dot ih

/-- From its end, a path is read past all that is idle. -/
theorem dropReversedEnd_idle {idle : List Char} (h : Idle idle) (reversed : List Char) :
    dropReversedEnd (idle.reverse ++ reversed) = dropReversedEnd reversed := by
  induction h generalizing reversed with
  | nil => rfl
  | slash _ ih =>
    rw [List.reverse_cons, List.append_assoc, ih, List.singleton_append, dropReversedEnd]
  | dot _ ih =>
    rw [List.reverse_cons, List.reverse_cons, List.append_assoc, List.append_assoc, ih,
      List.singleton_append, List.singleton_append, dropReversedEnd]

/-- A reversed path that begins with neither a slash nor a lone dot is left as it is. -/
theorem dropReversedEnd_eq_self {reversed : List Char}
    (hslash : ∀ rest, reversed = '/' :: rest → False)
    (hdot : ∀ rest, reversed = '.' :: '/' :: rest → False) :
    dropReversedEnd reversed = reversed := by
  rw [dropReversedEnd]
  · exact hslash
  · exact hdot

/-- What a reversed path is read past is idle. -/
theorem exists_idle (reversed : List Char) :
    ∃ idle, Idle idle ∧ reversed = idle.reverse ++ dropReversedEnd reversed := by
  fun_induction dropReversedEnd reversed with
  | case1 rest ih =>
    obtain ⟨idle, hidle, hrest⟩ := ih
    refine ⟨idle ++ ['/'], hidle.append (.slash .nil), ?_⟩
    rw [List.reverse_append, List.append_assoc, ← hrest]
    rfl
  | case2 rest ih =>
    obtain ⟨idle, hidle, hrest⟩ := ih
    refine ⟨idle ++ ['/', '.'], hidle.append (.dot .nil), ?_⟩
    rw [List.reverse_append, List.append_assoc, ← hrest]
    rfl
  | case3 reversed => exact ⟨[], .nil, rfl⟩

/-- An end is idle when nothing is left of it. -/
theorem idle_iff {idle : List Char} : Idle idle ↔ dropReversedEnd idle.reverse = [] := by
  constructor
  · intro h
    rw [← List.append_nil idle.reverse, dropReversedEnd_idle h]
    rfl
  · intro h
    obtain ⟨front, hfront, hreversed⟩ := exists_idle idle.reverse
    rw [h, List.append_nil] at hreversed
    rwa [List.reverse_injective hreversed]

instance : DecidablePred Idle :=
  fun _ => decidable_of_iff _ idle_iff.symm

/-- From its end, a path in a folder is read like the path alone, unless nothing is left of
the path and the slash before it. -/
theorem dropReversedEnd_below {reversed : List Char} (h : ¬Idle ('/' :: reversed.reverse))
    (folder : List Char) :
    dropReversedEnd (reversed ++ '/' :: folder) = dropReversedEnd reversed ++ '/' :: folder := by
  fun_induction dropReversedEnd reversed with
  | case1 rest ih =>
    have hrest : ¬Idle ('/' :: rest.reverse) := by
      intro hidle
      rw [List.reverse_cons, ← List.cons_append] at h
      exact h (hidle.append (.slash .nil))
    rw [List.cons_append, dropReversedEnd, ih hrest]
  | case2 rest ih =>
    have hrest : ¬Idle ('/' :: rest.reverse) := by
      intro hidle
      rw [List.reverse_cons, List.reverse_cons, List.append_assoc, ← List.cons_append] at h
      exact h (hidle.append (.dot .nil))
    rw [List.cons_append, List.cons_append, dropReversedEnd, ih hrest]
  | case3 reversed hslash hdot =>
    -- The slash before the path could complete a lone dot only where that is the whole path.
    have hnil : reversed ≠ [] := by
      rintro rfl
      exact h (.slash .nil)
    have hlone : reversed ≠ ['.'] := by
      rintro rfl
      exact h (.dot .nil)
    obtain ⟨c, tail, rfl⟩ := List.exists_cons_of_ne_nil hnil
    refine dropReversedEnd_eq_self (fun rest heq => ?_) (fun rest heq => ?_)
    · exact hslash tail (by rw [(List.cons.inj heq).1])
    · obtain ⟨rfl, htail⟩ := List.cons.inj heq
      cases tail with
      | nil => exact hlone rfl
      | cons d tail => exact hdot tail (by rw [(List.cons.inj htail).1])

/-- What stands behind a separator is not looked at to find what stands before the first
one. -/
theorem takeWhile_append_separator (separator : Char) (front rest : List Char) :
    (front ++ separator :: rest).takeWhile (· ≠ separator) = front.takeWhile (· ≠ separator) := by
  induction front with
  | nil => exact List.takeWhile_cons_of_neg (by simp)
  | cons c front ih =>
    rw [List.cons_append, List.takeWhile_cons, List.takeWhile_cons, ih]

/-- What has no separator in it is passed over when one is looked for. -/
theorem forall_ne_separator {separator : Char} {front : List Char} (h : separator ∉ front) :
    ∀ c ∈ front, decide (c ≠ separator) = true :=
  fun _ hc => decide_eq_true fun he => h (he ▸ hc)

/-- What stands before the first separator is found. -/
theorem takeWhile_separator {separator : Char} {front rest : List Char} (hfront : separator ∉ front)
    (hrest : rest = [] ∨ rest.head? = some separator) :
    (front ++ rest).takeWhile (· ≠ separator) = front := by
  have hall : front.takeWhile (· ≠ separator) = front :=
    List.takeWhile_eq_self_iff.mpr (forall_ne_separator hfront)
  rcases hrest with rfl | hhead
  · rw [List.append_nil, hall]
  · obtain ⟨tail, rfl⟩ := List.head?_eq_some_iff.mp hhead
    rw [takeWhile_append_separator, hall]

/-- What stands from the first separator on is found, too. -/
theorem dropWhile_separator {separator : Char} {front : List Char} (hfront : separator ∉ front)
    (rest : List Char) :
    (front ++ separator :: rest).dropWhile (· ≠ separator) = separator :: rest := by
  rw [List.dropWhile_append_of_pos (forall_ne_separator hfront)]
  exact List.dropWhile_cons_of_neg (by simp)

/-- What is taken before a separator does not hold it. -/
theorem separator_not_mem_takeWhile (separator : Char) (s : List Char) :
    separator ∉ s.takeWhile (· ≠ separator) := by
  intro h
  have hne := List.mem_takeWhile_imp h
  simp at hne

/-- What is left from the first separator on is nothing, or begins with the separator. -/
theorem head?_dropWhile_separator (separator : Char) (s : List Char) :
    s.dropWhile (· ≠ separator) = [] ∨ (s.dropWhile (· ≠ separator)).head? = some separator := by
  cases hleft : s.dropWhile (· ≠ separator) with
  | nil => exact Or.inl rfl
  | cons c rest =>
    have hc := List.head?_dropWhile_not (· ≠ separator) s
    rw [hleft] at hc
    right
    simpa using hc

/-- The extension of a name stands behind its last dot, and there is something before the
dot. Of the name of two dots it is said that it has none. -/
theorem nameExtension?_eq_some_iff {name extension : List Char} :
    nameExtension? name = some extension ↔
      name ≠ ['.', '.'] ∧ '.' ∉ extension ∧ ∃ stem, stem ≠ [] ∧ name = stem ++ '.' :: extension := by
  rw [nameExtension?]
  by_cases hdots : name = ['.', '.']
  · simp [hdots]
  rw [if_neg hdots]
  constructor
  · intro h
    split at h
    · rename_i c d rest hleft
      obtain rfl := Option.some.inj h
      have hdot : c = '.' := by
        rcases head?_dropWhile_separator '.' name.reverse with hnil | hhead
        · rw [hleft] at hnil
          contradiction
        · rw [hleft] at hhead
          exact Option.some.inj hhead
      have hname : name =
          (d :: rest).reverse ++ '.' :: (name.reverse.takeWhile (· ≠ '.')).reverse :=
        calc name = (name.reverse.takeWhile (· ≠ '.') ++ c :: d :: rest).reverse := by
              rw [← hleft, List.takeWhile_append_dropWhile, List.reverse_reverse]
          _ = (d :: rest).reverse ++ '.' :: (name.reverse.takeWhile (· ≠ '.')).reverse := by
              rw [List.reverse_append, List.reverse_cons, hdot, List.append_assoc,
                List.singleton_append]
      have hextension : '.' ∉ (name.reverse.takeWhile (· ≠ '.')).reverse :=
        mt List.mem_reverse.mp (separator_not_mem_takeWhile '.' _)
      exact ⟨hdots, hextension, (d :: rest).reverse, by simp, hname⟩
    · contradiction
  · rintro ⟨-, hextension, stem, hstem, rfl⟩
    have hreverse : (stem ++ '.' :: extension).reverse =
        extension.reverse ++ '.' :: stem.reverse := by simp
    have hnone : '.' ∉ extension.reverse := mt List.mem_reverse.mp hextension
    obtain ⟨d, rest, hrest⟩ := List.exists_cons_of_ne_nil (mt List.reverse_eq_nil_iff.mp hstem)
    rw [hreverse, dropWhile_separator hnone, takeWhile_separator hnone (Or.inr rfl), hrest,
      List.reverse_reverse]

/-- A path is a folder, the name it ends in, and what names nothing more. -/
theorem exists_lastName (path : List Char) : ∃ folder idle,
    path = folder ++ lastName path ++ idle ∧
      (folder = [] ∨ folder.getLast? = some '/') ∧ '/' ∉ lastName path ∧ Idle idle := by
  obtain ⟨idle, hidle, hpath⟩ := exists_idle path.reverse
  refine ⟨((dropReversedEnd path.reverse).dropWhile (· ≠ '/')).reverse, idle, ?_, ?_, ?_, hidle⟩
  · rw [lastName, ← List.reverse_append, List.takeWhile_append_dropWhile]
    calc path = path.reverse.reverse := path.reverse_reverse.symm
      _ = (idle.reverse ++ dropReversedEnd path.reverse).reverse := congrArg _ hpath
      _ = (dropReversedEnd path.reverse).reverse ++ idle := by
        rw [List.reverse_append, List.reverse_reverse]
  · rw [List.reverse_eq_nil_iff, List.getLast?_reverse]
    exact head?_dropWhile_separator '/' _
  · rw [lastName, List.mem_reverse]
    exact separator_not_mem_takeWhile '/' _

/-- A path that is put together from parts ends in the name of its stem and extension. -/
theorem Parts.lastName_eq {path folder stem extension idle : List Char}
    (h : Parts path folder stem extension idle) : lastName path = stem ++ '.' :: extension := by
  obtain ⟨rfl, hclosed, ⟨-, hstem⟩, ⟨hne, hslash, hdot⟩, hidle⟩ := h
  have hname : '/' ∉ (stem ++ '.' :: extension).reverse := by simp [hstem, hslash]
  have hfolder : folder.reverse = [] ∨ folder.reverse.head? = some '/' := by
    rwa [List.reverse_eq_nil_iff, List.head?_reverse]
  -- The extension is read first, and it begins with neither a slash nor a dot.
  have hread : dropReversedEnd ((stem ++ '.' :: extension).reverse ++ folder.reverse) =
      (stem ++ '.' :: extension).reverse ++ folder.reverse := by
    obtain ⟨c, rest, hrest⟩ := List.exists_cons_of_ne_nil (mt List.reverse_eq_nil_iff.mp hne)
    have hc : c ∈ extension := by
      rw [← List.mem_reverse, hrest]
      exact List.mem_cons_self
    rw [List.reverse_append, List.reverse_cons, hrest]
    refine dropReversedEnd_eq_self (fun tail heq => ?_) (fun tail heq => ?_)
    · exact hslash ((List.cons.inj heq).1 ▸ hc)
    · exact hdot ((List.cons.inj heq).1 ▸ hc)
  rw [lastName, List.reverse_append, List.reverse_append, dropReversedEnd_idle hidle, hread,
    takeWhile_separator hname hfolder, List.reverse_reverse]

/-- A path names a file exactly when it has an extension that is not empty. -/
theorem namesFile_iff {path : List Char} :
    NamesFile path ↔ ∃ c rest, extension? path = some (c :: rest) := by
  constructor
  · rintro ⟨folder, stem, extension, idle, h⟩
    obtain ⟨hne, -, hdot⟩ := h.extended
    have hdots : stem ++ '.' :: extension ≠ ['.', '.'] := by
      intro heq
      obtain ⟨c, rest, rfl⟩ := List.exists_cons_of_ne_nil hne
      have hc : c ∈ ['.', '.'] := heq ▸ by simp
      have hcdot : c = '.' := by simpa using hc
      exact hdot (hcdot ▸ List.mem_cons_self)
    obtain ⟨c, rest, rfl⟩ := List.exists_cons_of_ne_nil hne
    refine ⟨c, rest, ?_⟩
    rw [extension?, h.lastName_eq]
    exact nameExtension?_eq_some_iff.mpr ⟨hdots, hdot, stem, h.named.1, rfl⟩
  · rintro ⟨c, rest, h⟩
    obtain ⟨-, hdot, stem, hstem, hname⟩ := nameExtension?_eq_some_iff.mp h
    obtain ⟨folder, idle, hpath, hfolder, hslash, hidle⟩ := exists_lastName path
    rw [hname] at hpath hslash
    have hparts : '/' ∉ stem ∧ '/' ∉ c :: rest := by simpa using hslash
    exact ⟨folder, stem, c :: rest, idle, hpath, hfolder, ⟨hstem, hparts.1⟩,
      ⟨List.cons_ne_nil c rest, hparts.2, hdot⟩, hidle⟩

/-- Whether a path names a file is seen from its extension. -/
instance : DecidablePred NamesFile := fun path =>
  decidable_of_iff ((extension? path).any (!·.isEmpty) = true) <| by
    rw [namesFile_iff]
    cases extension? path with
    | none => simp
    | some extension => cases extension <;> simp

/-- An idle end does not change what a path names. -/
theorem namesFile_append_idle {idle : List Char} (h : Idle idle) (path : List Char) :
    NamesFile (path ++ idle) ↔ NamesFile path := by
  rw [namesFile_iff, namesFile_iff, extension?, extension?, lastName, lastName,
    List.reverse_append, dropReversedEnd_idle h]

/-- A path in a folder names what it names by itself, unless it leads to nothing but the
folder. -/
theorem namesFile_below {path : List Char} (h : ¬Idle ('/' :: path)) (folder : List Char) :
    NamesFile (folder ++ '/' :: path) ↔ NamesFile path := by
  have hidle : ¬Idle ('/' :: path.reverse.reverse) := by rwa [List.reverse_reverse]
  have hname : lastName (folder ++ '/' :: path) = lastName path := by
    rw [lastName, lastName, List.reverse_append, List.reverse_cons, List.append_assoc,
      List.singleton_append, dropReversedEnd_below hidle, takeWhile_append_separator]
  rw [namesFile_iff, namesFile_iff, extension?, extension?, hname]

end Chatdown.Files.Path

namespace Chatdown.Command.Source

open Files Path

/-- Whether a source is a file. -/
def isFile : Source → Bool
  | .file _ => true
  | _ => false

/-- An argument is standard input, a file or a text, in this order of trying. -/
theorem ofArgument_eq (argument : String) : ofArgument argument =
    if argument = "-" then .stdin
    else if NamesFile argument.toList then .file argument
    else .literal argument := by
  rw [ofArgument]
  split
  · rfl
  · cases hextension : extension? argument.toList with
    | none =>
      have hfile : ¬NamesFile argument.toList := by simp [namesFile_iff, hextension]
      rw [if_neg hfile]
    | some extension =>
      cases extension with
      | nil =>
        have hfile : ¬NamesFile argument.toList := by simp [namesFile_iff, hextension]
        rw [if_neg hfile]
      | cons c rest =>
        have hfile : NamesFile argument.toList := namesFile_iff.mpr ⟨c, rest, hextension⟩
        rw [if_pos hfile]

/-- Only the hyphen is standard input. -/
theorem ofArgument_eq_stdin_iff {argument : String} :
    ofArgument argument = .stdin ↔ argument = "-" := by
  rw [ofArgument_eq]
  split
  · rename_i hstdin
    exact iff_of_true rfl hstdin
  · rename_i hstdin
    refine iff_of_false ?_ hstdin
    split <;> exact Source.noConfusion

/-- The hyphen names no file. -/
theorem ne_hyphen_of_namesFile {argument : String} (h : NamesFile argument.toList) :
    argument ≠ "-" := by
  rintro rfl
  exact absurd h (by decide)

/-- An argument is a file exactly when it names one, and then it is the path as it is. -/
theorem ofArgument_eq_file_iff {argument path : String} :
    ofArgument argument = .file path ↔ path = argument ∧ NamesFile argument.toList := by
  rw [ofArgument_eq]
  constructor
  · intro h
    split at h
    · contradiction
    · split at h
      · rename_i hfile
        exact ⟨(Source.file.inj h).symm, hfile⟩
      · contradiction
  · rintro ⟨rfl, hfile⟩
    rw [if_neg (ne_hyphen_of_namesFile hfile), if_pos hfile]

/-- An argument that is neither the hyphen nor names a file is a text, and all of it is. -/
theorem ofArgument_eq_literal_iff {argument text : String} : ofArgument argument = .literal text ↔
    text = argument ∧ argument ≠ "-" ∧ ¬NamesFile argument.toList := by
  rw [ofArgument_eq]
  constructor
  · intro h
    split at h
    · contradiction
    · rename_i hstdin
      split at h
      · contradiction
      · rename_i hfile
        exact ⟨(Source.literal.inj h).symm, hstdin, hfile⟩
  · rintro ⟨rfl, hstdin, hfile⟩
    rw [if_neg hstdin, if_neg hfile]

/-- Whether an argument is a file is whether it names one. -/
theorem isFile_ofArgument (argument : String) :
    (ofArgument argument).isFile = decide (NamesFile argument.toList) := by
  by_cases hfile : NamesFile argument.toList
  · rw [ofArgument_eq_file_iff.mpr ⟨rfl, hfile⟩, decide_eq_true hfile]
    rfl
  · rw [decide_eq_false hfile, ofArgument_eq, if_neg hfile]
    split <;> rfl

/-- An argument in a folder is a file as it is by itself, unless it leads to nothing but the
folder. Then it is a file as the folder is. -/
theorem isFile_below (folder argument : String) :
    (ofArgument (folder ++ "/" ++ argument)).isFile =
      if Idle ('/' :: argument.toList) then (ofArgument folder).isFile
      else (ofArgument argument).isFile := by
  have hpath : (folder ++ "/" ++ argument).toList =
      folder.toList ++ '/' :: argument.toList := by simp
  rw [isFile_ofArgument, isFile_ofArgument, isFile_ofArgument, hpath]
  split
  · rename_i hidle
    exact decide_eq_decide.mpr (namesFile_append_idle hidle folder.toList)
  · rename_i hidle
    exact decide_eq_decide.mpr (namesFile_below hidle folder.toList)

/-- An idle end makes no file of an argument and takes none away. -/
theorem isFile_append_idle {idle : String} (h : Idle idle.toList) (argument : String) :
    (ofArgument (argument ++ idle)).isFile = (ofArgument argument).isFile := by
  rw [isFile_ofArgument, isFile_ofArgument, String.toList_append]
  exact decide_eq_decide.mpr (namesFile_append_idle h argument.toList)

/-- An argument is standard input when it is a hyphen, and itself as a file when it is put
together like a path to one. In all other cases it is itself as a text. A folder before it
makes no difference to that, unless the argument only leads to the folder, and neither do
slashes and lone dots behind it. -/
theorem ofArgument_classifies (argument : String) :
    (ofArgument argument = .stdin ↔ argument = "-") ∧
      (∀ path, ofArgument argument = .file path ↔
        path = argument ∧ NamesFile argument.toList) ∧
      (∀ text, ofArgument argument = .literal text ↔
        text = argument ∧ argument ≠ "-" ∧ ¬NamesFile argument.toList) ∧
      (∀ folder, ofArgument (folder ++ "/" ++ argument) ≠ .stdin ∧
        (ofArgument (folder ++ "/" ++ argument)).isFile =
          if Idle ('/' :: argument.toList) then (ofArgument folder).isFile
          else (ofArgument argument).isFile) ∧
      (ofArgument (argument ++ "/")).isFile = (ofArgument argument).isFile ∧
      (ofArgument (argument ++ "/.")).isFile = (ofArgument argument).isFile := by
  have hidle : Idle "/".toList ∧ Idle "/.".toList := by decide
  refine ⟨ofArgument_eq_stdin_iff, fun _ => ofArgument_eq_file_iff,
    fun _ => ofArgument_eq_literal_iff, fun folder => ⟨?_, isFile_below folder argument⟩,
    isFile_append_idle hidle.1 argument, isFile_append_idle hidle.2 argument⟩
  rw [Ne, ofArgument_eq_stdin_iff]
  intro hhyphen
  have hslash : '/' ∈ (folder ++ "/" ++ argument).toList := by simp
  rw [hhyphen] at hslash
  exact absurd hslash (by decide)

/-- The folder itself, written with a dot behind it, is a file where its name has an
extension, though the dot alone is a text. -/
theorem dot_in_folder_is_file :
    ofArgument "." = .literal "." ∧ ofArgument ("a.md" ++ "/" ++ ".") = .file "a.md/." ∧
      ¬∀ folder argument : String, argument ≠ "-" → argument ≠ "" →
        argument.toList.head? ≠ some '/' →
          (ofArgument (folder ++ "/" ++ argument)).isFile = (ofArgument argument).isFile := by
  refine ⟨by decide, by decide, fun h => ?_⟩
  have hsame := h "a.md" "." (by decide) (by decide) (by decide)
  exact absurd hsame (by decide)

end Chatdown.Command.Source
