import Chatdown.Proofs.Merging

/-!
# Which layer of settings counts

The settings are two texts, and each is settled without regard to the other: by the last
override of it wherever that stands among the layers, or else by the last file that gives it,
or else by what is built in. All files are merged before any override is put into what they
give, and what is built in is what they are merged into.
-/

namespace Chatdown.Settings

open Files

section Layers

/-- A path stands for a file of settings. -/
def Found (tree : Tree) (path : List Char) : Prop :=
  (findFile? tree path).isSome = true

/-- It is decidable whether a file is found. -/
instance (tree : Tree) (path : List Char) : Decidable (Found tree path) :=
  inferInstanceAs (Decidable (_ = true))

/-- The document in the file of settings that a path stands for, if it can be read. -/
def document? (tree : Tree) (path : List Char) : Option Toml.Entries :=
  match readFile tree path with
  | .ok (_, text) => Toml.parse? text
  | .error _ => none

/-- A file of settings, if it is found, holds an orderly document. -/
def OrderlyFile (tree : Tree) (path : List Char) : Prop :=
  Found tree path → ∃ entries ∈ document? tree path, Orderly entries

/-- A layer is an orderly file, or it overrides one of the texts by a text. -/
def Layer.Orderly (tree : Tree) : Layer → Prop
  | .directory path => OrderlyFile tree (directoryFile path)
  | .file path => OrderlyFile tree path.toList
  | .override key (.text _) => ∃ field : Field, key = field.path
  | .override _ _ => False

/-- It is decidable whether a file is orderly. -/
instance (tree : Tree) (path : List Char) : Decidable (OrderlyFile tree path) :=
  inferInstanceAs (Decidable (_ → _))

/-- It is decidable whether a layer is orderly. -/
instance (tree : Tree) : (layer : Layer) → Decidable (layer.Orderly tree)
  | .directory path => inferInstanceAs (Decidable (OrderlyFile tree (directoryFile path)))
  | .file path => inferInstanceAs (Decidable (OrderlyFile tree path.toList))
  | .override key (.text _) => inferInstanceAs (Decidable (∃ field : Field, key = field.path))
  | .override _ .null | .override _ (.boolean _) | .override _ (.integer _)
  | .override _ (.real _) | .override _ (.sequence _ _) | .override _ (.table _ _) => isFalse id

namespace Field

/-- The text that the file of a layer gives. -/
def stated? (field : Field) (tree : Tree) : Layer → Option String
  | .directory path => (document? tree (directoryFile path)).bind field.given?
  | .file path => (document? tree path.toList).bind field.given?
  | .override _ _ => none

/-- The text that a layer overrides the one of the files by. -/
def overriding? (field : Field) : Layer → Option String
  | .override key (.text text) => if key = field.path then some text else none
  | _ => none

/-- The text that counts: the last one that overrides, or else the last one in a file, or else
the one that is built in. -/
def chosen (field : Field) (tree : Tree) (layers : List Layer) : String :=
  ((layers.filterMap field.overriding?).getLast?.or
    (layers.filterMap (field.stated? tree)).getLast?).getD field.builtin

end Field

variable {tree : Tree} {layers : List Layer} {layer : Layer} {path : List Char} {field : Field}

/-- An override of a text is one by a text. -/
theorem Layer.Orderly.exists_path {key : String} {value : Value}
    (h : (Layer.override key value).Orderly tree) :
    ∃ (field : Field) (text : String), key = field.path ∧ value = .text text := by
  cases value with
  | text text => exact h.imp fun field hkey => ⟨text, hkey, rfl⟩
  | _ => exact h.elim

/-- A file that is not found cannot be read. -/
theorem readFile_of_not_found (h : ¬Found tree path) :
    readFile tree path = .error (.fileNotFound (String.ofList path)) := by
  have hnone : findFile? tree path = none := Option.not_isSome_iff_eq_none.mp h
  rw [readFile, hnone]

/-- A file that is not found holds no document. -/
theorem document?_of_not_found (h : ¬Found tree path) : document? tree path = none := by
  rw [document?, readFile_of_not_found h]

/-- The text of a file is merged as the document that it is. -/
theorem merge_of_document {entries : Toml.Entries} (h : document? tree path = some entries)
    (horderly : Orderly entries) : ∃ origin text, readFile tree path = .ok (origin, text) ∧
      ∀ value, ∃ after, mergeText value origin text = .ok after ∧
        ∀ field : Field, field.text? after = (field.given? entries).or (field.text? value) := by
  rw [document?] at h
  split at h
  · rename_i origin text hread
    refine ⟨origin, text, hread, fun value => ⟨_, ?_, fun field =>
      field.text?_merge_document horderly (Toml.distinctEntries_parse h) origin value⟩⟩
    rw [mergeText, h]
  · contradiction

/-- The file of a directory is merged if it can be read. -/
theorem mergeFile_directory (tree : Tree) (value : Value) (directory : String) :
    mergeFile tree value (.directory directory) =
      match readFile tree (directoryFile directory) with
      | .ok (origin, text) => mergeText value origin text
      | .error _ => .ok value := rfl

/-- A file that is named must be read to be merged. -/
theorem mergeFile_file (tree : Tree) (value : Value) (path : String) :
    mergeFile tree value (.file path) = (do
      let (origin, text) ← readFile tree path.toList
      mergeText value origin text) := rfl

/-- A layer settles the texts that its file gives and leaves the others as they were. -/
theorem mergeFile_orderly (h : layer.Orderly tree)
    (hfound : ∀ path, layer = .file path → Found tree path.toList) (value : Value) :
    ∃ after, mergeFile tree value layer = .ok after ∧
      ∀ field : Field, field.text? after = (field.stated? tree layer).or (field.text? value) := by
  cases layer with
  | directory path =>
    by_cases hpath : Found tree (directoryFile path)
    · obtain ⟨entries, hdocument, horderly⟩ := h hpath
      obtain ⟨origin, text, hread, hmerge⟩ := merge_of_document hdocument horderly
      obtain ⟨after, hafter, hfields⟩ := hmerge value
      refine ⟨after, ?_, fun field => ?_⟩
      · rw [mergeFile_directory, hread]
        exact hafter
      · rw [hfields, Field.stated?, hdocument, Option.bind_some]
    · refine ⟨value, ?_, fun field => ?_⟩
      · rw [mergeFile_directory, readFile_of_not_found hpath]
      · rw [Field.stated?, document?_of_not_found hpath, Option.bind_none, Option.none_or]
  | file path =>
    obtain ⟨entries, hdocument, horderly⟩ := h (hfound path rfl)
    obtain ⟨origin, text, hread, hmerge⟩ := merge_of_document hdocument horderly
    obtain ⟨after, hafter, hfields⟩ := hmerge value
    refine ⟨after, ?_, fun field => ?_⟩
    · rw [mergeFile_file, hread]
      exact hafter
    · rw [hfields, Field.stated?, hdocument, Option.bind_some]
  | override key new => exact ⟨value, rfl, fun field => (Option.none_or).symm⟩

/-- The last of what is picked from a list is the first pick only when there is no later
one. -/
theorem getLast?_filterMap_cons {α β : Type} (pick : α → Option β) (first : α) (rest : List α) :
    ((first :: rest).filterMap pick).getLast? =
      (rest.filterMap pick).getLast?.or (pick first) := by
  cases h : pick first with
  | none => rw [List.filterMap_cons_none h, Option.or_none]
  | some picked =>
    rw [List.filterMap_cons_some h, List.getLast?_cons]
    cases (rest.filterMap pick).getLast? <;> rfl

/-- All files are merged, and a text is the last one that a file gives. -/
theorem foldlM_mergeFile (h : ∀ layer ∈ layers, layer.Orderly tree)
    (hfound : ∀ path, .file path ∈ layers → Found tree path.toList) (value : Value) :
    ∃ after, layers.foldlM (mergeFile tree) value = .ok after ∧ ∀ field : Field,
      field.text? after =
        (layers.filterMap (field.stated? tree)).getLast?.or (field.text? value) := by
  induction layers generalizing value with
  | nil => exact ⟨value, rfl, fun field => rfl⟩
  | cons first rest ih =>
    obtain ⟨hfirst, hrest⟩ := List.forall_mem_cons.mp h
    obtain ⟨middle, hmiddle, hmerged⟩ := mergeFile_orderly hfirst
      (fun path he => hfound path (he ▸ List.mem_cons_self)) value
    obtain ⟨after, hafter, hfields⟩ :=
      ih hrest (fun path hpath => hfound path (List.mem_cons_of_mem _ hpath)) middle
    refine ⟨after, ?_, fun field => ?_⟩
    · rw [List.foldlM_cons, hmiddle]
      exact hafter
    · rw [hfields, hmerged, getLast?_filterMap_cons, Option.or_assoc]

/-- The overrides among layers, in order. -/
def takeOverrides (layers : List Layer) : Except LoadError (List (KeyPath × Value)) :=
  (layers.mapM override?).map List.reduceOption

/-- Put values at the ends of paths, one after the other. -/
def putAll (overrides : List (KeyPath × Value)) (value : Value) : Value :=
  overrides.foldl (fun value (path, new) => path.put new value) value

/-- The override of the first layer, if it is one, comes before those of the others. -/
theorem takeOverrides_cons (first : Layer) (rest : List Layer) :
    takeOverrides (first :: rest) = (do
      let found ← override? first
      (takeOverrides rest).map (found.toList ++ ·)) := by
  rw [takeOverrides, takeOverrides, List.mapM_cons]
  cases override? first with
  | error error => rfl
  | ok found =>
    cases rest.mapM override? with
    | error error => rfl
    | ok others =>
      change Except.ok (found :: others).reduceOption = .ok (found.toList ++ others.reduceOption)
      cases found <;> rfl

/-- A layer that overrides nothing can be left out of the overrides. -/
theorem takeOverrides_append_cons (h : override? layer = .ok none) (front back : List Layer) :
    takeOverrides (front ++ layer :: back) = takeOverrides (front ++ back) := by
  induction front with
  | nil =>
    rw [List.nil_append, List.nil_append, takeOverrides_cons, h]
    cases takeOverrides back <;> rfl
  | cons first front ih =>
    rw [List.cons_append, List.cons_append, takeOverrides_cons, takeOverrides_cons, ih]

/-- All overrides are taken, and a text is the last one that overrides it. -/
theorem takeOverrides_orderly (h : ∀ layer ∈ layers, layer.Orderly tree) :
    ∃ overrides, takeOverrides layers = .ok overrides ∧ ∀ (value : Value) (field : Field),
      field.text? (putAll overrides value) =
        (layers.filterMap field.overriding?).getLast?.or (field.text? value) := by
  induction layers with
  | nil => exact ⟨[], rfl, fun value field => rfl⟩
  | cons first rest ih =>
    obtain ⟨hfirst, hrest⟩ := List.forall_mem_cons.mp h
    obtain ⟨overrides, hoverrides, hfields⟩ := ih hrest
    have hfile : override? first = .ok none → (∀ field : Field, field.overriding? first = none) →
        ∃ overrides, takeOverrides (first :: rest) = .ok overrides ∧
          ∀ (value : Value) (field : Field), field.text? (putAll overrides value) =
            ((first :: rest).filterMap field.overriding?).getLast?.or (field.text? value) := by
      intro hnone hfields'
      refine ⟨overrides, ?_, fun value field => ?_⟩
      · rw [takeOverrides_cons, hoverrides, hnone]
        rfl
      · rw [hfields, getLast?_filterMap_cons, hfields', Option.or_none]
    cases first with
    | directory path => exact hfile rfl fun _ => rfl
    | file path => exact hfile rfl fun _ => rfl
    | override key new =>
      obtain ⟨other, text, rfl, rfl⟩ := hfirst.exists_path
      refine ⟨(⟨other.sectionKey, [.key other.textKey]⟩, .text text) :: overrides, ?_,
        fun value field => ?_⟩
      · rw [takeOverrides_cons, hoverrides, override?, other.parse?_path]
        rfl
      · have hpath : (if other.path = field.path then some text else none) =
            if other = field then some text else none :=
          if_congr ⟨Field.path_injective, congrArg Field.path⟩ rfl rfl
        rw [putAll, List.foldl_cons, ← putAll, hfields, Field.text?_put, getLast?_filterMap_cons,
          Field.overriding?, hpath, Option.or_assoc]

/-- A file that is named and not found keeps all others from being merged. -/
theorem foldlM_mergeFile_error {path : String} (hmem : .file path ∈ layers)
    (h : ¬Found tree path.toList) (value : Value) :
    ∃ error, layers.foldlM (mergeFile tree) value = .error error := by
  induction layers generalizing value with
  | nil => exact absurd hmem List.not_mem_nil
  | cons first rest ih =>
    rw [List.foldlM_cons]
    rcases List.mem_cons.mp hmem with rfl | hrest
    · refine ⟨.fileNotFound (String.ofList path.toList), ?_⟩
      rw [mergeFile_file, readFile_of_not_found h]
      rfl
    · cases hfirst : mergeFile tree value first with
      | error error => exact ⟨error, rfl⟩
      | ok middle => exact ih hrest middle

/-- What is loaded follows from the overrides and from the files. -/
theorem load_eq (tree : Tree) (layers : List Layer) : load tree layers = (do
    let overrides ← takeOverrides layers
    let merged ← layers.foldlM (mergeFile tree) Settings.builtin
    ofEntries (putAll overrides merged).asTable.2) := by
  rw [load, takeOverrides]
  cases layers.mapM override? <;> rfl

/-- Orderly layers of which all named files are found settle each text on its own. -/
theorem load_orderly (h : ∀ layer ∈ layers, layer.Orderly tree)
    (hfound : ∀ path, .file path ∈ layers → Found tree path.toList) :
    load tree layers = .ok ⟨Field.format.chosen tree layers, Field.level.chosen tree layers⟩ := by
  obtain ⟨overrides, hoverrides, hput⟩ := takeOverrides_orderly h
  obtain ⟨merged, hmerged, hfiles⟩ := foldlM_mergeFile h hfound Settings.builtin
  have htexts : ∀ field : Field,
      field.text? (putAll overrides merged) = some (field.chosen tree layers) := by
    intro field
    rw [hput, hfiles, field.text?_builtin, ← Option.or_assoc, Field.chosen]
    cases (layers.filterMap field.overriding?).getLast?.or
      (layers.filterMap (field.stated? tree)).getLast? <;> rfl
  rw [load_eq, hoverrides, hmerged]
  exact ofEntries_of_text? htexts

/-- Nothing is loaded when a file that is named is not found. -/
theorem load_of_not_found {path : String} (hmem : .file path ∈ layers)
    (h : ¬Found tree path.toList) : ∃ error, load tree layers = .error error := by
  rw [load_eq]
  cases takeOverrides layers with
  | error error => exact ⟨error, rfl⟩
  | ok overrides =>
    obtain ⟨error, herror⟩ := foldlM_mergeFile_error hmem h Settings.builtin
    exact ⟨error, by rw [herror]; rfl⟩

/-- The file of a directory may be missing. -/
theorem load_append_directory {directory : String} (h : ¬Found tree (directoryFile directory))
    (front back : List Layer) :
    load tree (front ++ .directory directory :: back) = load tree (front ++ back) := by
  have hmerge : ∀ value, mergeFile tree value (.directory directory) = .ok value := by
    intro value
    rw [mergeFile_directory, readFile_of_not_found h]
  have hfold : (front ++ .directory directory :: back).foldlM (mergeFile tree) Settings.builtin =
      (front ++ back).foldlM (mergeFile tree) Settings.builtin := by
    rw [List.foldlM_append, List.foldlM_append]
    simp only [List.foldlM_cons, hmerge, bind, Except.bind]
  rw [load_eq, load_eq, takeOverrides_append_cons rfl, hfold]

/-- However many layers there are and in whatever order: if the files are orderly documents and
the overrides are of the two texts, and all files that are named are found, then each text is
the one that counts for it. Nothing is loaded when a file that is named is not found, whatever
the other layers are; the file of a directory may be missing. The settings for a directory are
those of its file and then of the one that is named. -/
theorem load_layers (tree : Tree) (layers : List Layer) :
    ((∀ layer ∈ layers, layer.Orderly tree) →
      (∀ path, .file path ∈ layers → Found tree path.toList) →
        ∃ settings, load tree layers = .ok settings ∧
          ∀ field : Field, field.get settings = field.chosen tree layers) ∧
      (∀ path, .file path ∈ layers → ¬Found tree path.toList →
        ∃ error, load tree layers = .error error) ∧
      (∀ front directory back, layers = front ++ .directory directory :: back →
        ¬Found tree (directoryFile directory) → load tree layers = load tree (front ++ back)) ∧
      ∀ directory file, loadFrom tree directory file =
        load tree (.directory directory :: (file.map Layer.file).toList) := by
  refine ⟨fun horderly hfound => ?_, fun path hmem h => load_of_not_found hmem h, ?_,
    fun directory file => rfl⟩
  · refine ⟨_, load_orderly horderly hfound, fun field => ?_⟩
    cases field <;> rfl
  · rintro front directory back rfl h
    exact load_append_directory h front back

/-- Two files, of which the second gives the format only. -/
def sampleFiles : Tree :=
  ((Tree.empty [['w']]).put [['w'], fileName.toList] (.file (Text.Utf8.encode
    "[convert]\ndefault_format = \"http\"\n[logging]\nlevel = \"info\"\n".toList))).put
    [['w'], "own.toml".toList] (.file (Text.Utf8.encode
      "theme = [1]\n[convert]\ndefault_format = \"slack\"\n".toList))

/-- An override before the two files. -/
def sampleLayers : List Layer :=
  [.override "logging.level" (.text "debug"), .directory ".", .file "own"]

/-- An override counts although files come after it, and the other text is the one of the last
file that gives it. -/
theorem load_sampleLayers :
    (∀ layer ∈ sampleLayers, layer.Orderly sampleFiles) ∧
      (∀ path, .file path ∈ sampleLayers → Found sampleFiles path.toList) ∧
        load sampleFiles sampleLayers = .ok ⟨"slack", "debug"⟩ := by
  have horderly : ∀ layer ∈ sampleLayers, layer.Orderly sampleFiles := by decide +kernel
  have hfound : ∀ path, .file path ∈ sampleLayers → Found sampleFiles path.toList := by
    intro path hmem
    obtain rfl : path = "own" := by simpa [sampleLayers] using hmem
    decide +kernel
  obtain ⟨⟨format, level⟩, hload, hfields⟩ := (load_layers _ _).1 horderly hfound
  obtain rfl : format = "slack" := (hfields .format).trans (by decide +kernel)
  obtain rfl : level = "debug" := (hfields .level).trans (by decide +kernel)
  exact ⟨horderly, hfound, hload⟩

end Layers

end Chatdown.Settings
