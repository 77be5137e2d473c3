import Chatdown.Proofs.TomlKeys
import Chatdown.Settings.Layer
import Mathlib.Data.List.TakeWhile

/-!
# Merging documents into settings

Merging a document changes what a key leads to only where the document has that key, and a
text that is put under a key takes the place of what was there. So a document settles the
texts that it gives, each without regard to the other, and leaves alone those that it does
not give; an override does so too.
-/

namespace Chatdown.Settings

/-- The texts that make up the settings. -/
inductive Field where
  /-- The format to convert to when none is asked for. -/
  | format
  /-- What is logged. -/
  | level
deriving DecidableEq, Repr

namespace Field

/-- The key of the section that a text stands in. -/
def sectionKey : Field → String
  | format => "convert"
  | level => "logging"

/-- The key of a text in its section. -/
def textKey : Field → String
  | format => "default_format"
  | level => "level"

/-- The key that stands for the path to a text. -/
def path : Field → String
  | format => "convert.default_format"
  | level => "logging.level"

/-- The text that is built in. -/
def builtin : Field → String
  | format => ""
  | level => "warn"

/-- A text of the settings. -/
def get (settings : Settings) : Field → String
  | format => settings.defaultFormat
  | level => settings.level

/-- What holds of all texts can be decided by looking at each. -/
instance (P : Field → Prop) [DecidablePred P] : Decidable (∀ field, P field) :=
  decidable_of_iff (P format ∧ P level)
    ⟨fun ⟨hformat, hlevel⟩ field => by cases field <;> assumption, fun h => ⟨h _, h _⟩⟩

/-- What holds of some text can be decided by looking at each. -/
instance (P : Field → Prop) [DecidablePred P] : Decidable (∃ field, P field) :=
  decidable_of_iff (P format ∨ P level)
    ⟨fun h => h.elim (⟨_, ·⟩) (⟨_, ·⟩), fun ⟨field, h⟩ => by cases field <;> simp [h]⟩

/-- Distinct texts stand in distinct sections. -/
theorem sectionKey_injective {field other : Field} (h : field.sectionKey = other.sectionKey) :
    field = other := by
  revert h
  cases field <;> cases other <;> decide

/-- Distinct texts have distinct paths. -/
theorem path_injective {field other : Field} (h : field.path = other.path) : field = other := by
  revert h
  cases field <;> cases other <;> decide

/-- The path to a text leads through its section. -/
theorem parse?_path (field : Field) :
    KeyPath.parse? field.path = some ⟨field.sectionKey, [.key field.textKey]⟩ := by
  cases field <;> decide

end Field

section Keys

/-- A key is an identifier without upper-case letters. -/
def PlainKey (key : String) : Prop :=
  key ≠ "" ∧ ∀ c ∈ key.toList, KeyPath.isKeyChar c = true ∧ c.isUpper = false

/-- It is decidable whether a key is plain. -/
instance (key : String) : Decidable (PlainKey key) :=
  @instDecidableAnd _ _ inferInstance (List.decidableBAll _ key.toList)

variable {key : String}

/-- A plain key counts as it is written. -/
theorem PlainKey.foldKey_eq (h : PlainKey key) : Value.foldKey key = key := by
  have hsame : ∀ c ∈ key.toList, c.toLower = c := by
    intro c hc
    have hupper : ¬('A'.val ≤ c.val ∧ c.val ≤ 'Z'.val) := of_decide_eq_false (h.2 c hc).2
    exact dif_neg hupper
  rw [← String.toList_inj, Value.foldKey, String.toList_map]
  exact (List.map_congr_left hsame).trans (List.map_id' _)

/-- As a path, a plain key leads to itself. -/
theorem PlainKey.parse?_eq (h : PlainKey key) : KeyPath.parse? key = some ⟨key, []⟩ := by
  have hchars : ∀ c ∈ key.toList, KeyPath.isKeyChar c = true := fun c hc => (h.2 c hc).1
  have htake : key.toList.takeWhile KeyPath.isKeyChar = key.toList :=
    List.takeWhile_eq_self_iff.mpr hchars
  have hdrop : key.toList.dropWhile KeyPath.isKeyChar = [] :=
    List.dropWhile_eq_nil_iff.mpr hchars
  have hkey : KeyPath.key? key.toList = some (key, []) := by
    rw [KeyPath.key?, htake, hdrop]
    split
    · rename_i hnil
      exact absurd (String.toList_eq_nil_iff.mp hnil) h.1
    · rw [String.ofList_toList]
  rw [KeyPath.parse?, hkey]
  rfl

/-- The keys of a text and of its section are plain. -/
theorem Field.plainKey (field : Field) :
    PlainKey field.sectionKey ∧ PlainKey field.textKey := by
  cases field <;> decide

end Keys

namespace Value

/-- What stands under a key of a value, if that is a table. -/
def under? (key : String) (value : Value) : Option Value :=
  value.asTable.2.lookup key

variable {key other : String}

/-- What stands under a key after a change is what the change made of it. -/
theorem under?_changeEntry_self (h : foldKey key = key) (change : Option Value → Value)
    (value : Value) :
    (changeEntry key change value).under? key = some (change (value.under? key)) := by
  change (putEntry (foldKey key) (change (value.asTable.2.lookup (foldKey key)))
    value.asTable.2).lookup key = _
  rw [h, lookup_putEntry_self, under?]

/-- What stands under another key does not change. -/
theorem under?_changeEntry_of_ne (h : foldKey key = key) (hne : other ≠ key)
    (change : Option Value → Value) (value : Value) :
    (changeEntry key change value).under? other = value.under? other := by
  change (putEntry (foldKey key) (change (value.asTable.2.lookup (foldKey key)))
    value.asTable.2).lookup other = _
  rw [h, lookup_putEntry_of_ne hne, under?]

/-- Entries with plain and distinct keys are merged one by one: where there is one with a key,
it is merged into what stood there, and elsewhere there is what there was. -/
theorem under?_mergeEntries {entries : Entries} (hplain : ∀ entry ∈ entries, PlainKey entry.1)
    (hdistinct : (entries.map Prod.fst).Nodup) (value : Value) (key : String) :
    (mergeEntries value entries).under? key =
      match entries.lookup key with
      | some new => some (merge (value.under? key) new)
      | none => value.under? key := by
  induction entries generalizing value with
  | nil => rfl
  | cons head rest ih =>
    obtain ⟨first, new⟩ := head
    obtain ⟨hfirst, hrest⟩ := List.forall_mem_cons.mp hplain
    obtain ⟨habsent, hothers⟩ := List.nodup_cons.mp hdistinct
    have hfold := hfirst.foldKey_eq
    rw [mergeEntries, ih hrest hothers, List.lookup_cons]
    by_cases h : key = first
    · -- The key does not come again among the other entries.
      subst h
      have hnone : rest.lookup key = none := by
        rw [List.lookup_eq_none_iff]
        intro entry hentry
        simpa using fun he : key = entry.1 => habsent (List.mem_map.mpr ⟨entry, hentry, he.symm⟩)
      rw [hnone, beq_self_eq_true]
      exact under?_changeEntry_self hfold _ value
    · rw [beq_eq_false_iff_ne.mpr h, under?_changeEntry_of_ne hfold h]

/-- The entries of a table from a file, each on its own. -/
theorem ofEntries_eq_map (origin : String) (entries : Toml.Entries) :
    ofEntries origin entries = entries.map fun entry => (entry.1, ofToml origin entry.2) := by
  induction entries with
  | nil => rfl
  | cons head rest ih =>
    obtain ⟨key, value⟩ := head
    rw [ofEntries, ih, List.map_cons]

/-- What stands under a key of a table from a file. -/
theorem lookup_ofEntries (origin key : String) (entries : Toml.Entries) :
    (ofEntries origin entries).lookup key = (entries.lookup key).map (ofToml origin) := by
  induction entries with
  | nil => rfl
  | cons head rest ih =>
    obtain ⟨first, value⟩ := head
    rw [ofEntries, List.lookup_cons, List.lookup_cons, ih]
    cases key == first <;> rfl

/-- Merging a document with plain and distinct keys, key by key. -/
theorem under?_mergeEntries_ofEntries {entries : Toml.Entries}
    (hplain : ∀ entry ∈ entries, PlainKey entry.1) (hdistinct : Toml.DistinctEntries entries)
    (origin : String) (value : Value) (key : String) :
    (mergeEntries value (ofEntries origin entries)).under? key =
      match entries.lookup key with
      | some new => some (merge (value.under? key) (ofToml origin new))
      | none => value.under? key := by
  have hkeys : ∀ entry ∈ ofEntries origin entries, PlainKey entry.1 := by
    rw [ofEntries_eq_map]
    exact List.forall_mem_map.mpr hplain
  have hnodup : ((ofEntries origin entries).map Prod.fst).Nodup := by
    rw [ofEntries_eq_map, List.map_map]
    exact hdistinct.1
  rw [under?_mergeEntries hkeys hnodup, lookup_ofEntries]
  cases entries.lookup key <;> rfl

end Value

/-- At the top of a document, entries with plain keys are merged as in all other tables. -/
theorem foldl_putTopEntry {entries : Value.Entries} (h : ∀ entry ∈ entries, PlainKey entry.1)
    (value : Value) : entries.foldl putTopEntry value = Value.mergeEntries value entries := by
  induction entries generalizing value with
  | nil => rfl
  | cons head rest ih =>
    obtain ⟨hhead, hrest⟩ := List.forall_mem_cons.mp h
    have hput : putTopEntry value head =
        Value.changeEntry head.1 (fun old => Value.merge old head.2) value := by
      rw [putTopEntry, hhead.parse?_eq]
      rfl
    rw [List.foldl_cons, ih hrest, hput, Value.mergeEntries]

section Documents

/-- A TOML value is a text. -/
def IsText : Toml → Prop
  | .text _ => True
  | _ => False

/-- A section is a table with plain keys, and what it gives in the place of its text is one. -/
def OrderlySection (field : Field) : Toml → Prop
  | .table _ inner => (∀ entry ∈ inner, PlainKey entry.1) ∧
      ∀ value ∈ inner.lookup field.textKey, IsText value
  | _ => False

/-- A document of settings has plain keys, and its sections are orderly. Whatever else it holds
does not matter. -/
def Orderly (entries : Toml.Entries) : Prop :=
  (∀ entry ∈ entries, PlainKey entry.1) ∧
    ∀ field : Field, ∀ value ∈ entries.lookup field.sectionKey, OrderlySection field value

/-- It is decidable whether a value is a text. -/
instance : (value : Toml) → Decidable (IsText value)
  | .text _ => isTrue trivial
  | .integer _ | .real _ | .boolean _ | .moment _ | .array _ | .tables _ | .table _ _ => isFalse id

/-- It is decidable whether a section is orderly. -/
instance (field : Field) : (value : Toml) → Decidable (OrderlySection field value)
  | .table _ _ => inferInstanceAs (Decidable (_ ∧ _))
  | .text _ | .integer _ | .real _ | .boolean _ | .moment _ | .array _ | .tables _ => isFalse id

/-- It is decidable whether a document is orderly. -/
instance (entries : Toml.Entries) : Decidable (Orderly entries) :=
  inferInstanceAs (Decidable (_ ∧ _))

/-- An orderly section is a table. -/
theorem OrderlySection.exists_table {field : Field} {value : Toml}
    (h : OrderlySection field value) : ∃ kind inner, value = .table kind inner := by
  cases value with
  | table kind inner => exact ⟨kind, inner, rfl⟩
  | _ => exact h.elim

/-- A text is a text. -/
theorem IsText.exists_text {value : Toml} (h : IsText value) : ∃ text, value = .text text := by
  cases value with
  | text text => exact ⟨text, rfl⟩
  | _ => exact h.elim

namespace Field

/-- The text that a document gives. -/
def given? (field : Field) (entries : Toml.Entries) : Option String :=
  match entries.lookup field.sectionKey with
  | some (.table _ inner) =>
    match inner.lookup field.textKey with
    | some (.text text) => some text
    | _ => none
  | _ => none

/-- The text that stands in gathered settings. -/
def text? (field : Field) (value : Value) : Option String :=
  match (value.under? field.sectionKey).bind (·.under? field.textKey) with
  | some (.text text) => some text
  | _ => none

variable {field : Field} {entries : Toml.Entries}

/-- A document settles the texts that it gives and leaves the others as they were. -/
theorem text?_merge_document (horderly : Orderly entries)
    (hdistinct : Toml.DistinctEntries entries) (origin : String) (value : Value) :
    field.text? ((Value.ofEntries origin entries).foldl putTopEntry value) =
      (field.given? entries).or (field.text? value) := by
  have hkeys : ∀ entry ∈ Value.ofEntries origin entries, PlainKey entry.1 := by
    rw [Value.ofEntries_eq_map]
    exact List.forall_mem_map.mpr horderly.1
  have hsection := Value.under?_mergeEntries_ofEntries horderly.1 hdistinct origin value
    field.sectionKey
  rw [foldl_putTopEntry hkeys, text?, hsection, given?]
  cases hlookup : entries.lookup field.sectionKey with
  | none => rfl
  | some found =>
    have hfound : OrderlySection field found := horderly.2 field found hlookup
    obtain ⟨kind, inner, rfl⟩ := hfound.exists_table
    obtain ⟨hplain, htexts⟩ := hfound
    have hinner := Toml.distinct_table_iff.mp (hdistinct.lookup hlookup)
    -- Where there was no section before, the new one is merged into an empty table.
    have htext := Value.under?_mergeEntries_ofEntries hplain hinner origin
      ((value.under? field.sectionKey).getD (.table none [])) field.textKey
    have hmerge : Value.merge (value.under? field.sectionKey)
        (Value.ofToml origin (.table kind inner)) =
          Value.mergeEntries ((value.under? field.sectionKey).getD (.table none []))
            (Value.ofEntries origin inner) := rfl
    dsimp only
    rw [Option.bind_some, hmerge, htext]
    cases hgiven : inner.lookup field.textKey with
    | none =>
      cases hold : value.under? field.sectionKey with
      | none => rw [text?, hold]; rfl
      | some old => rw [text?, hold]; rfl
    | some new =>
      obtain ⟨text, rfl⟩ := (htexts new hgiven).exists_text
      rfl

/-- Overriding a text settles it and leaves the other one as it was. -/
theorem text?_put (other : Field) (text : String) (value : Value) :
    field.text? (KeyPath.put ⟨other.sectionKey, [.key other.textKey]⟩ (.text text) value) =
      (if other = field then some text else none).or (field.text? value) := by
  have hput : KeyPath.put ⟨other.sectionKey, [.key other.textKey]⟩ (.text text) value =
      Value.changeEntry other.sectionKey (fun old => Value.changeEntry other.textKey
        (fun _ => .text text) (old.getD .null)) value := rfl
  obtain ⟨hsection, htext⟩ := other.plainKey
  rw [hput, text?]
  split_ifs with h
  · subst h
    rw [Value.under?_changeEntry_self hsection.foldKey_eq, Option.bind_some,
      Value.under?_changeEntry_self htext.foldKey_eq]
    rfl
  · have hne : field.sectionKey ≠ other.sectionKey :=
      fun he => h (sectionKey_injective he).symm
    rw [Value.under?_changeEntry_of_ne hsection.foldKey_eq hne, Option.none_or, text?]

end Field

end Documents

section Gathered

/-- A text stands in gathered settings when there is a section that holds it. -/
theorem Field.text?_eq_some_iff {field : Field} {value : Value} {text : String} :
    field.text? value = some text ↔ ∃ origin inner,
      value.under? field.sectionKey = some (.table origin inner) ∧
        inner.lookup field.textKey = some (.text text) := by
  rw [Field.text?]
  constructor
  · intro h
    split at h
    · rename_i found hbind
      obtain rfl := Option.some.inj h
      obtain ⟨table, hsection, htext⟩ := Option.bind_eq_some_iff.mp hbind
      cases table with
      | table origin inner => exact ⟨origin, inner, hsection, htext⟩
      | _ => contradiction
    · contradiction
  · rintro ⟨origin, inner, hsection, htext⟩
    have hentry : (Value.table origin inner).under? field.textKey = some (.text text) := htext
    rw [hsection, Option.bind_some, hentry]

/-- Gathered settings in which both texts stand are the settings with these texts. -/
theorem ofEntries_of_text? {value : Value} {texts : Field → String}
    (h : ∀ field : Field, field.text? value = some (texts field)) :
    ofEntries value.asTable.2 = .ok ⟨texts .format, texts .level⟩ := by
  obtain ⟨above, convert, hconvert, hformat⟩ := Field.text?_eq_some_iff.mp (h .format)
  obtain ⟨beside, logging, hlogging, hlevel⟩ := Field.text?_eq_some_iff.mp (h .level)
  have hfirst : sectionAt value.asTable.2 "convert" = .ok (.table above convert) := by
    change value.asTable.2.lookup "convert" = _ at hconvert
    rw [sectionAt, hconvert]
  have hsecond : sectionAt value.asTable.2 "logging" = .ok (.table beside logging) := by
    change value.asTable.2.lookup "logging" = _ at hlogging
    rw [sectionAt, hlogging]
  have hformat' : sectionText "ConvertConfig" "convert" "default_format" (.table above convert) =
      .ok (texts .format) := by
    change convert.lookup "default_format" = _ at hformat
    rw [sectionText, hformat]
    rfl
  have hlevel' : sectionText "LoggingConfig" "logging" "level" (.table beside logging) =
      .ok (texts .level) := by
    change logging.lookup "level" = _ at hlevel
    rw [sectionText, hlevel]
    rfl
  simp only [ofEntries, hfirst, hsecond, bind, Except.bind, hformat', hlevel']
  rfl

/-- Both texts stand in what is built in. -/
theorem Field.text?_builtin (field : Field) :
    field.text? Settings.builtin = some field.builtin := by
  cases field <;> rfl

end Gathered

end Chatdown.Settings
