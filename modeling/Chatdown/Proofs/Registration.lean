import Chatdown.Format.Builtin
import Mathlib.Data.List.Nodup

/-!
# What a registry remembers

A registry keeps one converter for each name, in the order of first registration. So
after any run of registrations its names are those of the run, each where it came first,
and what it finds under a name is what was registered under it last. One registration
says all there is to say about a run: the names and the look-up after it follow from
those before it.
-/

namespace Chatdown.Format

/-- The converter that was registered last under a name. -/
def lastNamed? (history : List Converter) (name : String) : Option Converter :=
  history.reverse.find? (·.name = name)

/-- A later registration under the same name hides the earlier ones, any other makes no
difference. -/
theorem lastNamed?_concat (history : List Converter) (converter : Converter) (name : String) :
    lastNamed? (history ++ [converter]) name =
      if converter.name = name then some converter else lastNamed? history name := by
  rw [lastNamed?, List.reverse_append, List.reverse_singleton, List.singleton_append,
    List.find?_cons, lastNamed?]
  by_cases h : converter.name = name <;> simp [h]

/-- An element at the end of a list is new, or makes no difference to which elements there
are. -/
theorem eraseDups_concat {α : Type} [BEq α] [LawfulBEq α] (l : List α) (a : α) :
    (l ++ [a]).eraseDups = if a ∈ l then l.eraseDups else l.eraseDups ++ [a] := by
  rw [List.eraseDups_append]
  by_cases h : a ∈ l
  · simp [List.removeAll, h]
  · simp [List.removeAll, h, List.eraseDups_cons]

/-- Search by name finds a converter that was inserted, and otherwise what it found
before. -/
theorem find?_insertConverter (converter : Converter) (converters : List Converter)
    (name : String) : (insertConverter converter converters).find? (·.name = name) =
      if converter.name = name then some converter else converters.find? (·.name = name) := by
  induction converters with
  | nil => by_cases h : converter.name = name <;> simp [insertConverter, h]
  | cons head rest ih =>
    by_cases hhead : head.name = converter.name
    · by_cases h : converter.name = name <;> simp [insertConverter, hhead, h]
    · by_cases h : head.name = name
      · have hne : converter.name ≠ name := fun he => hhead (h.trans he.symm)
        rw [insertConverter, if_neg hhead, if_neg hne, List.find?_cons_of_pos (by simpa using h),
          List.find?_cons_of_pos (by simpa using h)]
      · rw [insertConverter, if_neg hhead, List.find?_cons_of_neg (by simpa using h),
          List.find?_cons_of_neg (by simpa using h), ih]

namespace Registry

/-- What a registry holds under a name. -/
def lookup? (registry : Registry) (name : String) : Option Converter :=
  registry.converters.find? (·.name = name)

section Observers

variable {registry : Registry} {name : String}

/-- Getting a converter is looking it up. -/
theorem get_eq_ok_iff {converter : Converter} :
    registry.get name = .ok converter ↔ registry.lookup? name = some converter := by
  rw [get, ← lookup?]
  cases registry.lookup? name <;> simp

/-- There is something under a name just when it is registered. -/
theorem isSome_lookup?_iff : (registry.lookup? name).isSome = true ↔ name ∈ registry.names := by
  simp [lookup?, names, List.find?_isSome]

/-- There is a converter under each name. -/
theorem exists_get_of_mem (h : name ∈ registry.names) :
    ∃ converter, registry.get name = .ok converter := by
  obtain ⟨converter, hc⟩ := Option.isSome_iff_exists.mp (isSome_lookup?_iff.mpr h)
  exact ⟨converter, get_eq_ok_iff.mpr hc⟩

/-- A name that is not registered is reported with those that are. -/
theorem get_of_not_mem (h : name ∉ registry.names) :
    registry.get name = .error (.formatNotFound name registry.names) := by
  have hnone : registry.lookup? name = none := by
    rw [← Option.not_isSome_iff_eq_none, isSome_lookup?_iff]
    exact h
  rw [get, ← lookup?, hnone]

/-- No text is converted to a format that is not registered. -/
theorem convert_of_not_mem (h : name ∉ registry.names) (source : String) :
    registry.convert source name = .error (.formatNotFound name registry.names) := by
  rw [convert, get_of_not_mem h]
  rfl

/-- No bytes are converted to a format that is not registered. -/
theorem convertBytes_of_not_mem (h : name ∉ registry.names) (bytes : List UInt8) :
    registry.convertBytes bytes name = .error (.formatNotFound name registry.names) := by
  rw [convertBytes, get_of_not_mem h]
  rfl

end Observers

/-- A converter of the registry is what there is under its name. -/
theorem lookup?_name {registry : Registry} {converter : Converter}
    (h : converter ∈ registry.converters) : registry.lookup? converter.name = some converter := by
  have hname : converter.name ∈ registry.names := List.mem_map_of_mem h
  obtain ⟨found, hfound⟩ := Option.isSome_iff_exists.mp (isSome_lookup?_iff.mpr hname)
  have hsame : found.name = converter.name := by simpa using List.find?_some hfound
  have hmem : found ∈ registry.converters := List.mem_of_find?_eq_some hfound
  rw [hfound, List.inj_on_of_nodup_map registry.nodup hmem h hsame]

/-- Under the names in order there are the converters in order. -/
theorem map_lookup?_names (registry : Registry) :
    registry.names.map registry.lookup? = registry.converters.map some := by
  rw [names, List.map_map]
  exact List.map_congr_left fun converter h => lookup?_name h

/-- What a registration does to the look-up. -/
theorem lookup?_register (registry : Registry) (converter : Converter) (name : String) :
    (registry.register converter).lookup? name =
      if converter.name = name then some converter else registry.lookup? name :=
  find?_insertConverter converter registry.converters name

/-- What a registration does to the names. -/
theorem names_register (registry : Registry) (converter : Converter) :
    (registry.register converter).names =
      if converter.name ∈ registry.names then registry.names
      else registry.names ++ [converter.name] :=
  map_name_insertConverter converter registry.converters

/-- The names and the look-up of a registry are those of a run of registrations. -/
structure Follows (registry : Registry) (history : List Converter) : Prop where
  names : registry.names = (history.map (·.name)).eraseDups
  lookup? : ∀ name, registry.lookup? name = lastNamed? history name

/-- The empty registry follows from no registrations. -/
theorem follows_empty : empty.Follows [] :=
  ⟨rfl, fun _ => rfl⟩

/-- A registration goes on with the run. -/
theorem Follows.register {registry : Registry} {history : List Converter}
    (h : registry.Follows history) (converter : Converter) :
    (registry.register converter).Follows (history ++ [converter]) := by
  refine ⟨?_, fun name => ?_⟩
  · rw [names_register, h.names, List.map_append, List.map_singleton, eraseDups_concat]
    simp only [List.mem_eraseDups]
  · rw [lookup?_register, lastNamed?_concat, h.lookup? name]

/-- Any run of registrations goes on with the one before it. -/
theorem Follows.foldl_register {registry : Registry} {history : List Converter}
    (h : registry.Follows history) (converters : List Converter) :
    (converters.foldl Registry.register registry).Follows (history ++ converters) := by
  induction converters generalizing registry history with
  | nil => rwa [List.append_nil]
  | cons converter rest ih =>
    rw [List.foldl_cons, ← List.singleton_append, ← List.append_assoc]
    exact ih (h.register converter)

/-- What a registry shows after a run of registrations. -/
structure Records (registry : Registry) (history : List Converter) : Prop where
  /-- The names are those of the run, each where it came first. -/
  names : registry.names = (history.map (·.name)).eraseDups
  /-- These names are registered, and no others. -/
  has_iff : ∀ name, registry.has name = true ↔ name ∈ history.map (·.name)
  /-- Under each of these names the converter is found that was registered last. -/
  get : ∀ name ∈ history.map (·.name), ∃ converter,
    lastNamed? history name = some converter ∧ registry.get name = .ok converter
  /-- The converters stand in the order of the names, for each name the last one. -/
  converters : registry.converters.map some = registry.names.map (lastNamed? history)
  /-- Each converter goes by the name that stands in its place. -/
  aligned : ∀ position : Nat, registry.converters[position]?.map (·.name) = registry.names[position]?
  /-- Any other name is reported, with the names there are. -/
  unknown : ∀ name, name ∉ history.map (·.name) →
    registry.get name = .error (.formatNotFound name registry.names) ∧
      (∀ source, registry.convert source name = .error (.formatNotFound name registry.names)) ∧
      ∀ bytes, registry.convertBytes bytes name = .error (.formatNotFound name registry.names)

/-- Registering a converter disturbs nothing that has another name. -/
structure Undisturbed (before after : Registry) (converter : Converter) : Prop where
  /-- Under each other name there is what there was. -/
  get_iff : ∀ name, name ≠ converter.name → ∀ found,
    after.get name = .ok found ↔ before.get name = .ok found
  /-- Each name that was there keeps its place. -/
  names : ∀ (position : Nat) (name : String),
    before.names[position]? = some name → after.names[position]? = some name

/-- A registry with the names and the look-up of a run shows what it should. -/
theorem Follows.records {registry : Registry} {history : List Converter}
    (h : registry.Follows history) : registry.Records history := by
  have hmem : ∀ name, name ∈ registry.names ↔ name ∈ history.map (·.name) := by
    intro name
    rw [h.names, List.mem_eraseDups]
  refine ⟨h.names, fun name => ?_, fun name hname => ?_, ?_, fun position => ?_,
    fun name hname => ?_⟩
  · rw [has, List.contains_iff_mem, hmem]
  · obtain ⟨converter, hget⟩ := exists_get_of_mem ((hmem name).mpr hname)
    have hlast : lastNamed? history name = some converter := by
      rw [← h.lookup? name, get_eq_ok_iff.mp hget]
    exact ⟨converter, hlast, hget⟩
  · rw [← map_lookup?_names]
    exact List.map_congr_left fun name _ => h.lookup? name
  · rw [Registry.names, List.getElem?_map]
  · have habsent : name ∉ registry.names := fun hin => hname ((hmem name).mp hin)
    exact ⟨get_of_not_mem habsent, convert_of_not_mem habsent, convertBytes_of_not_mem habsent⟩

/-- A registration disturbs nothing that has another name. -/
theorem undisturbed_register (registry : Registry) (converter : Converter) :
    Undisturbed registry (registry.register converter) converter := by
  refine ⟨fun name hname found => ?_, fun position name hposition => ?_⟩
  · rw [get_eq_ok_iff, get_eq_ok_iff, lookup?_register, if_neg hname.symm]
  · rw [names_register]
    split
    · exact hposition
    · have hlt := (List.getElem?_eq_some_iff.mp hposition).1
      rw [List.getElem?_append_left hlt, hposition]

/-- Whatever is registered, in whatever order and how often, a registry that was empty
shows what the run of registrations says, and one that started with the built-in
converters shows what it says after these two. No registration disturbs another name. -/
theorem records_foldl_register (history : List Converter) :
    (history.foldl register empty).Records history ∧
      (history.foldl register withDefaults).Records (slack :: http :: history) ∧
      ∀ (registry : Registry) (converter : Converter),
        Undisturbed registry (registry.register converter) converter := by
  have hdefaults : withDefaults.Follows [slack, http] :=
    (follows_empty.register slack).register http
  exact ⟨(follows_empty.foldl_register history).records,
    (hdefaults.foldl_register history).records, undisturbed_register⟩

/-- Replacing a converter keeps the place of its name: here the first of two names is
registered again. -/
example :
    (([⟨"a", "", .ok⟩, ⟨"b", "", .ok⟩, ⟨"a", "new", .ok⟩] : List Converter).foldl
      register empty).converters.map (fun converter => (converter.name, converter.description)) =
        [("a", "new"), ("b", "")] := by
  decide

end Registry

end Chatdown.Format
