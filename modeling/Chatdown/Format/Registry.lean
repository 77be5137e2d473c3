import Chatdown.Format.Converter

/-!
# The registry of converters

A registry holds converters under their names, at most one for each, in the order
in which the names were first registered. Registering a name again replaces the
converter and keeps its place.
-/

namespace Chatdown.Format

/-- Put a converter in the place of the one with its name, or at the end. -/
def insertConverter (converter : Converter) : List Converter → List Converter
  | [] => [converter]
  | head :: rest =>
    if head.name = converter.name then converter :: rest
    else head :: insertConverter converter rest

/-- The names after an insertion: a new name comes last, a known one adds
nothing. -/
theorem map_name_insertConverter (converter : Converter) (converters : List Converter) :
    (insertConverter converter converters).map (·.name) =
      if converter.name ∈ converters.map (·.name) then converters.map (·.name)
      else converters.map (·.name) ++ [converter.name] := by
  induction converters with
  | nil => rfl
  | cons head rest ih =>
    by_cases h : head.name = converter.name
    · simp [insertConverter, h]
    · have h' : ¬converter.name = head.name := fun e => h e.symm
      simp only [insertConverter, h, if_false, List.map_cons, ih, List.mem_cons, h', false_or]
      split <;> rfl

/-- Names stay distinct. -/
theorem nodup_insertConverter {converter : Converter} {converters : List Converter}
    (h : (converters.map (·.name)).Nodup) :
    ((insertConverter converter converters).map (·.name)).Nodup := by
  rw [map_name_insertConverter]
  split
  · exact h
  · rename_i hn
    rw [List.nodup_append]
    refine ⟨h, by simp, ?_⟩
    intro a ha b hb
    rw [List.mem_singleton] at hb
    rintro rfl
    exact hn (hb ▸ ha)

/-- Converters with distinct names, in the order their names were first
registered. -/
structure Registry where
  /-- The converters, in order. -/
  converters : List Converter
  /-- No two converters have one name. -/
  nodup : (converters.map (·.name)).Nodup

namespace Registry

/-- The registry without converters. -/
def empty : Registry :=
  ⟨[], List.nodup_nil⟩

/-- Register a converter under its name. -/
def register (registry : Registry) (converter : Converter) : Registry :=
  ⟨insertConverter converter registry.converters, nodup_insertConverter registry.nodup⟩

/-- The registered names, in order. -/
def names (registry : Registry) : List String :=
  registry.converters.map (·.name)

/-- Whether a name is registered. -/
def has (registry : Registry) (name : String) : Bool :=
  registry.names.contains name

/-- The converter of a name. -/
def get (registry : Registry) (name : String) : Except ConvertError Converter :=
  match registry.converters.find? (·.name = name) with
  | some converter => .ok converter
  | none => .error (.formatNotFound name registry.names)

/-- Convert text to the format of a name. -/
def convert (registry : Registry) (source format : String) : Except ConvertError String := do
  (← registry.get format).convert source

/-- Convert bytes to the format of a name. The name is looked up first. -/
def convertBytes (registry : Registry) (source : List UInt8) (format : String) :
    Except ConvertError (List UInt8) := do
  (← registry.get format).convertBytes source

end Registry

end Chatdown.Format
