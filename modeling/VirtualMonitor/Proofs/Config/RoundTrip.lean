import VirtualMonitor.Config
import VirtualMonitor.Proofs.Json.Value

/-!
# A saved configuration is loaded as it was

The printer writes a field as the value `Field.toJson`, and setting a field to that
value copies it from the configuration that was written (`Field.set?_toJson`).  The
keys of the fields are different, so an object that holds some of them sets these one
after the other (`withMembers?_toJson`); all of them together leave nothing of the
settings that reading starts from.

`load_of_saved` is the whole way: a file that holds the bytes of `Config.render` gives
back the configuration.
-/

namespace VirtualMonitor.Config

namespace Field

/-- The value of a field as a file holds it. -/
def toJson (field : Field) (config : Config) : Json :=
  match field with
  | .libraryCandidates =>
    .array (config.libraryCandidates.map fun candidate => .string (some candidate))
  | .moduleListing => .string (some config.moduleListing)
  | .moduleDirectory => .string (some config.moduleDirectory)
  | .moduleName => .string (some config.moduleName)
  | .cardDirectory => .string (some config.cardDirectory)
  | .deviceSlots => .number (.ofInt config.deviceSlots.toInt)
  | .displayNameStem => .string (some config.displayNameStem)
  | .watchdogInterval => .number (.ofInt config.watchdogInterval.toNat)

/-- Sets a field to what it is in another configuration. -/
def copy (field : Field) (source target : Config) : Config :=
  match field with
  | .libraryCandidates => { target with libraryCandidates := source.libraryCandidates }
  | .moduleListing => { target with moduleListing := source.moduleListing }
  | .moduleDirectory => { target with moduleDirectory := source.moduleDirectory }
  | .moduleName => { target with moduleName := source.moduleName }
  | .cardDirectory => { target with cardDirectory := source.cardDirectory }
  | .deviceSlots => { target with deviceSlots := source.deviceSlots }
  | .displayNameStem => { target with displayNameStem := source.displayNameStem }
  | .watchdogInterval => { target with watchdogInterval := source.watchdogInterval }

theorem ofKey?_key (field : Field) : ofKey? field.key = some field := by
  cases field <;> rfl

/-- A field is written with the tokens of its value. -/
theorem spells_write (field : Field) (config : Config) :
    Json.Spells (field.write config) (field.toJson config).tokens := by
  cases field with
  | libraryCandidates => exact Json.spells_quoteAll config.libraryCandidates
  | moduleListing => exact Json.spells_quote config.moduleListing
  | moduleDirectory => exact Json.spells_quote config.moduleDirectory
  | moduleName => exact Json.spells_quote config.moduleName
  | cardDirectory => exact Json.spells_quote config.cardDirectory
  | deviceSlots => exact Json.spells_writeInt config.deviceSlots.toInt
  | displayNameStem => exact Json.spells_quote config.displayNameStem
  | watchdogInterval => exact Json.spells_writeInt config.watchdogInterval.toNat

theorem texts?_array (texts : List String) :
    (Json.array (texts.map fun text => .string (some text))).texts? = some texts := by
  induction texts with
  | nil => rfl
  | cons text texts ih =>
      rw [Json.texts?] at ih ⊢
      rw [List.map_cons, List.mapM_cons, ih]
      rfl

theorem intWithin?_ofInt {least greatest value : Int} (hleast : least ≤ value)
    (hgreatest : value ≤ greatest) :
    (Json.number (.ofInt value)).intWithin? least greatest = some value := by
  rw [Json.intWithin?, Json.Number.toInt?_ofInt, Option.bind_some, if_pos ⟨hleast, hgreatest⟩]

/-- Setting a field to its value in another configuration copies it from there, the
integers at the ends of their ranges included. -/
theorem set?_toJson (field : Field) (source target : Config) :
    field.set? (field.toJson source) target = some (field.copy source target) := by
  cases field with
  | libraryCandidates => rw [set?, toJson, texts?_array]; rfl
  | moduleListing => rfl
  | moduleDirectory => rfl
  | moduleName => rfl
  | cardDirectory => rfl
  | deviceSlots =>
      have hleast : -2147483648 ≤ source.deviceSlots.toInt := source.deviceSlots.le_toInt
      have hgreatest : source.deviceSlots.toInt ≤ 2147483647 :=
        Int.le_of_lt_add_one source.deviceSlots.toInt_lt
      rw [set?, toJson, intWithin?_ofInt hleast hgreatest, Option.map_some, Int32.ofInt_toInt]
      rfl
  | displayNameStem => rfl
  | watchdogInterval =>
      have hleast : 0 ≤ (source.watchdogInterval.toNat : Int) := Int.natCast_nonneg _
      have hgreatest : (source.watchdogInterval.toNat : Int) ≤ 18446744073709551615 := by
        have := source.watchdogInterval.toNat_lt
        omega
      rw [set?, toJson, intWithin?_ofInt hleast hgreatest, Option.map_some, Int.toNat_natCast,
        UInt64.ofNat_toNat]
      rfl

end Field

/-- The members of an object that holds some of the fields copy these fields. -/
theorem withMembers?_toJson (source : Config) {fields seen : List Field} {target : Config}
    (hnodup : fields.Nodup) (hunseen : ∀ field ∈ fields, field ∉ seen) :
    withMembers? seen target (fields.map fun field => (some field.key, field.toJson source)) =
      some (fields.foldl (fun config field => field.copy source config) target) := by
  induction fields generalizing seen target with
  | nil => rfl
  | cons field fields ih =>
      have hfield := hunseen field List.mem_cons_self
      obtain ⟨hfresh, hnodup⟩ := List.nodup_cons.mp hnodup
      -- what is set next is neither set already nor the field just set
      have hnext : ∀ other ∈ fields, other ∉ field :: seen := by
        intro other hother hmem
        rcases List.mem_cons.mp hmem with rfl | hseen
        · exact hfresh hother
        · exact hunseen other (List.mem_cons_of_mem _ hother) hseen
      rw [List.map_cons, withMembers?, Field.ofKey?_key]
      simp only [if_neg hfield, Field.set?_toJson]
      exact ih hnodup hnext

theorem foldl_copy_all (source target : Config) :
    Field.all.foldl (fun config field => field.copy source config) target = source := by
  simp only [Field.all, List.foldl_cons, List.foldl_nil, Field.copy]

theorem parse?_render (config : Config) : parse? config.render = some config := by
  have hspells : Json.Spells config.render.toList
      (Json.object (Field.all.map fun field => (some field.key, field.toJson config))).tokens := by
    rw [render, String.toList_ofList]
    exact Json.spells_writeObject fun field _ => field.spells_write config
  have hnodup : Field.all.Nodup := by decide
  have hmembers : withMembers? [] standard
      (Field.all.map fun field => (some field.key, field.toJson config)) = some config := by
    rw [withMembers?_toJson config hnodup fun _ _ => List.not_mem_nil, foldl_copy_all]
  rw [parse?, Json.parse?_of_spells hspells, Option.bind_some, ofJson?, hmembers]

/-- **Saving and loading loses nothing.**  Whatever the settings are, a file that holds
the written configuration gives back exactly these settings. -/
theorem load_of_saved (config : Config) {files : Files} {path : String}
    (hsaved : files.find? path = some (.file (Text.utf8 config.render))) :
    load files path = .ok config := by
  have htext : files.readText? path = some config.render := by
    rw [Files.readText?, hsaved]
    exact Text.ofUtf8?_utf8 config.render
  simp only [load, htext, parse?_render]

/-- Quotes, backslashes, control characters, characters beyond the first plane and
integers at the ends of their ranges, in a file of a small tree. -/
theorem load_of_saved_extremes :
    let config : Config :=
      { standard with
        libraryCandidates := ["lib\"\\\x00\x1f.so", "", "\n\t\x08\x0c\r/", "\uffff\x7f"],
        cardDirectory := "/dev/😀", deviceSlots := -2147483648,
        displayNameStem := "[\x7b,:\x7d]", watchdogInterval := 18446744073709551615 }
    let files := Files.ofTree
      (.directory [(Text.utf8 "saved.json", .file (Text.utf8 config.render))]) []
    load files "/saved.json" = .ok config := by
  intro config files
  exact load_of_saved config rfl

end VirtualMonitor.Config
