import VirtualMonitor.Proofs.Config.RoundTrip
import VirtualMonitor.Proofs.Json.Reading

/-!
# A configuration file overrides the standard settings

A file that holds an object sets the fields that the object names, and leaves the others as
they are in the standard configuration.  It is usable exactly if every key is a text, no field
is named twice, and every field that is named gets a value of its kind and range (`Proper`).
Members with other keys make no difference, whatever their values are and wherever they
stand.  An array sets the first fields in order, as an object with their keys would.

The reader goes through the members one after the other and remembers the fields that it has
set.  `withMembers?_of_proper` carries two things through the row: the fields set so far are
not named again, and each field has the value of its member or, if it has none, the one it
started with.  `proper_of_withMembers?` is the converse.

* `load_overrides`: what is loaded from a file with an object or an array in it, and what is
  taken instead of a file that cannot be used.
-/

namespace VirtualMonitor

theorem Json.Number.eq_ofInt_of_toInt? {number : Json.Number} {value : Int}
    (hvalue : number.toInt? = some value) : number = .ofInt value := by
  obtain ⟨negative, whole, integral⟩ := number
  unfold toInt? at hvalue
  split at hvalue
  · cases hvalue
  · rename_i hinteger
    simp only [Bool.or_eq_true, Bool.not_eq_true', Bool.and_eq_true, beq_iff_eq, not_or, not_and,
      Bool.not_eq_false] at hinteger
    obtain ⟨rfl, hzero⟩ := hinteger
    split at hvalue <;> rename_i hsign
    · obtain rfl := Option.some_inj.mp hvalue
      have hsign : negative = true := hsign
      have hpositive : 0 < whole := Nat.pos_of_ne_zero (hzero hsign)
      simp [ofInt, hsign, hpositive]
    · obtain rfl := Option.some_inj.mp hvalue
      have hsign : negative = false := Bool.eq_false_iff.mpr hsign
      simp [ofInt, hsign]

namespace Config

/-! ## Values of a field -/

namespace Field

/-- The values that a field can be given: texts, a list of texts, and integers in range. -/
def Fits (value : Json) : Field → Prop
  | .libraryCandidates =>
    ∃ texts : List String, value = .array (texts.map fun text => .string (some text))
  | .deviceSlots =>
    ∃ count : Int, -2147483648 ≤ count ∧ count ≤ 2147483647 ∧ value = .number (.ofInt count)
  | .watchdogInterval =>
    ∃ interval : Int, 0 ≤ interval ∧ interval ≤ 18446744073709551615 ∧
      value = .number (.ofInt interval)
  | .moduleListing | .moduleDirectory | .moduleName | .cardDirectory | .displayNameStem =>
    ∃ text : String, value = .string (some text)

/-- A value that a field can be given is its value in some configuration. -/
theorem Fits.exists_toJson {field : Field} {value : Json} (hfits : Fits value field) :
    ∃ source, value = field.toJson source := by
  -- the standard configuration with the one field changed has the value
  cases field with
  | libraryCandidates =>
      obtain ⟨texts, rfl⟩ := hfits
      exact ⟨{ standard with libraryCandidates := texts }, rfl⟩
  | deviceSlots =>
      obtain ⟨count, hlow, hhigh, rfl⟩ := hfits
      refine ⟨{ standard with deviceSlots := Int32.ofInt count }, ?_⟩
      rw [toJson, Int32.toInt_ofInt_of_le hlow (by omega)]
  | watchdogInterval =>
      obtain ⟨interval, hlow, hhigh, rfl⟩ := hfits
      refine ⟨{ standard with watchdogInterval := UInt64.ofNat interval.toNat }, ?_⟩
      rw [toJson, UInt64.toNat_ofNat_of_lt' (by simp only [UInt64.size]; omega),
        Int.toNat_of_nonneg hlow]
  | moduleListing =>
      obtain ⟨text, rfl⟩ := hfits
      exact ⟨{ standard with moduleListing := text }, rfl⟩
  | moduleDirectory =>
      obtain ⟨text, rfl⟩ := hfits
      exact ⟨{ standard with moduleDirectory := text }, rfl⟩
  | moduleName =>
      obtain ⟨text, rfl⟩ := hfits
      exact ⟨{ standard with moduleName := text }, rfl⟩
  | cardDirectory =>
      obtain ⟨text, rfl⟩ := hfits
      exact ⟨{ standard with cardDirectory := text }, rfl⟩
  | displayNameStem =>
      obtain ⟨text, rfl⟩ := hfits
      exact ⟨{ standard with displayNameStem := text }, rfl⟩

theorem eq_string_of_text? {value : Json} {text : String} (htext : value.text? = some text) :
    value = .string (some text) := by
  cases value with
  | string content => exact congrArg Json.string htext
  | _ => cases htext

theorem eq_array_of_texts? {value : Json} {texts : List String}
    (htexts : value.texts? = some texts) :
    value = .array (texts.map fun text => .string (some text)) := by
  cases value with
  | array items =>
      rw [Json.texts?] at htexts
      congr 1
      induction items generalizing texts with
      | nil =>
          obtain rfl := Option.some_inj.mp htexts
          rfl
      | cons item items ih =>
          simp only [List.mapM_cons, Option.bind_eq_bind, Option.bind_eq_some_iff, Option.pure_def,
            Option.some_inj] at htexts
          obtain ⟨text, htext, others, hothers, rfl⟩ := htexts
          rw [List.map_cons, eq_string_of_text? htext, ih hothers]
  | _ => cases htexts

theorem eq_number_of_intWithin? {value : Json} {least greatest integer : Int}
    (hinteger : value.intWithin? least greatest = some integer) :
    least ≤ integer ∧ integer ≤ greatest ∧ value = .number (.ofInt integer) := by
  cases value with
  | number written =>
      obtain ⟨other, hvalue, hrange⟩ := Option.bind_eq_some_iff.mp hinteger
      split at hrange
      · rename_i hbounds
        obtain rfl := Option.some_inj.mp hrange
        exact ⟨hbounds.1, hbounds.2, congrArg Json.number (Json.Number.eq_ofInt_of_toInt? hvalue)⟩
      · cases hrange
  | _ => cases hinteger

/-- Only a value that fits is accepted. -/
theorem fits_of_set? {field : Field} {value : Json} {target changed : Config}
    (hset : field.set? value target = some changed) : Fits value field := by
  cases field with
  | libraryCandidates =>
      obtain ⟨texts, htexts, -⟩ := Option.map_eq_some_iff.mp hset
      exact ⟨texts, eq_array_of_texts? htexts⟩
  | deviceSlots =>
      obtain ⟨count, hcount, -⟩ := Option.map_eq_some_iff.mp hset
      exact ⟨count, eq_number_of_intWithin? hcount⟩
  | watchdogInterval =>
      obtain ⟨interval, hinterval, -⟩ := Option.map_eq_some_iff.mp hset
      exact ⟨interval, eq_number_of_intWithin? hinterval⟩
  | moduleListing | moduleDirectory | moduleName | cardDirectory | displayNameStem =>
      obtain ⟨text, htext, -⟩ := Option.map_eq_some_iff.mp hset
      exact ⟨text, eq_string_of_text? htext⟩

theorem toJson_copy_self (field : Field) (source target : Config) :
    field.toJson (field.copy source target) = field.toJson source := by
  cases field <;> rfl

theorem toJson_copy_of_ne {field other : Field} (hne : other ≠ field) (source target : Config) :
    other.toJson (field.copy source target) = other.toJson target := by
  cases field <;> cases other <;> first | rfl | exact absurd rfl hne

theorem key_injective {first second : Field} (hkey : first.key = second.key) : first = second := by
  have hfield := congrArg ofKey? hkey
  rw [ofKey?_key, ofKey?_key] at hfield
  exact Option.some_inj.mp hfield

theorem key_ne_of_ofKey?_eq_none {key : String} (hkey : ofKey? key = none) (field : Field) :
    field.key ≠ key := by
  rintro rfl
  rw [ofKey?_key] at hkey
  cases hkey

theorem key_of_ofKey? {key : String} {field : Field} (hkey : ofKey? key = some field) :
    field.key = key := by
  have hmatch := List.find?_some hkey
  exact eq_of_beq hmatch

end Field

/-- A configuration is what its fields are. -/
theorem eq_of_toJson {first second : Config}
    (hfields : ∀ field : Field, field.toJson first = field.toJson second) : first = second := by
  have htext : ∀ {first second : String},
      Json.string (some first) = .string (some second) → first = second := by
    rintro first second ⟨⟩
    rfl
  have hinteger : ∀ {first second : Int},
      Json.number (.ofInt first) = .number (.ofInt second) → first = second := by
    intro first second hsame
    have hvalue := congrArg Json.Number.toInt? (Json.number.inj hsame)
    simpa using hvalue
  -- each field is recovered from its JSON value by the injectivity of that value's form
  have hlibraries : first.libraryCandidates = second.libraryCandidates := by
    have hitems := Json.array.inj (hfields .libraryCandidates)
    exact List.map_injective_iff.mpr (fun _ _ => htext) hitems
  have hslots : first.deviceSlots = second.deviceSlots :=
    Int32.toInt_inj.mp (hinteger (hfields .deviceSlots))
  have hinterval : first.watchdogInterval = second.watchdogInterval :=
    UInt64.toNat_inj.mp (Int.ofNat_inj.mp (hinteger (hfields .watchdogInterval)))
  have hlisting := htext (hfields .moduleListing)
  have hdirectory := htext (hfields .moduleDirectory)
  have hname := htext (hfields .moduleName)
  have hcards := htext (hfields .cardDirectory)
  have hstem := htext (hfields .displayNameStem)
  cases first
  cases second
  simp_all

/-! ## Objects -/

/-- The members that a usable file may have: all keys are texts, no field is named twice, and
each value fits its field.  Members with other keys may have any value. -/
structure Proper (members : List (Option String × Json)) : Prop where
  text : ∀ member ∈ members, member.1.isSome
  once : ∀ field : Field, (members.map Prod.fst).count (some field.key) ≤ 1
  fits : ∀ (field : Field) value, (some field.key, value) ∈ members → field.Fits value

/-- What is not given by a member is as it is in `target`. -/
def Overrides (members : List (Option String × Json)) (target config : Config) : Prop :=
  ∀ field : Field,
    (∀ value, (some field.key, value) ∈ members → field.toJson config = value) ∧
      ((∀ value, (some field.key, value) ∉ members) →
        field.toJson config = field.toJson target)

theorem Overrides.unique {members : List (Option String × Json)} {target first second : Config}
    (hfirst : Overrides members target first) (hsecond : Overrides members target second) :
    first = second := by
  refine eq_of_toJson fun field => ?_
  by_cases hgiven : ∃ value, (some field.key, value) ∈ members
  · obtain ⟨value, hvalue⟩ := hgiven
    exact ((hfirst field).1 value hvalue).trans ((hsecond field).1 value hvalue).symm
  · have habsent := not_exists.mp hgiven
    exact ((hfirst field).2 habsent).trans ((hsecond field).2 habsent).symm

section Members

variable {members : List (Option String × Json)} {seen : List Field} {target config : Config}
  {key : String} {value : Json}

theorem notMem_of_notMem_map {field : Field} (hkey : some field.key ∉ members.map Prod.fst)
    (value : Json) : (some field.key, value) ∉ members :=
  fun hmem => hkey (List.mem_map_of_mem (f := Prod.fst) hmem)

theorem Proper.nil : Proper [] := ⟨nofun, fun _ => Nat.zero_le _, nofun⟩

theorem Proper.of_cons (hproper : Proper ((some key, value) :: members)) : Proper members where
  text member hmember := hproper.text member (List.mem_cons_of_mem _ hmember)
  once field := by
    have hcount := hproper.once field
    rw [List.map_cons, List.count_cons] at hcount
    omega
  fits field other hother := hproper.fits field other (List.mem_cons_of_mem _ hother)

/-- The field that a proper object names first is not named again. -/
theorem Proper.notMem_of_cons {field : Field}
    (hproper : Proper ((some field.key, value) :: members)) :
    some field.key ∉ members.map Prod.fst := by
  have hcount := hproper.once field
  rw [List.map_cons, List.count_cons_self] at hcount
  exact List.count_eq_zero.mp (by omega)

/-- Another key than those of the fields may come in front. -/
theorem Proper.cons_of_ne (hproper : Proper members) (hother : ∀ field : Field, field.key ≠ key) :
    Proper ((some key, value) :: members) where
  text := List.forall_mem_cons.mpr ⟨rfl, hproper.text⟩
  once field := by
    have hne : (some key == some field.key) = false := by simpa using Ne.symm (hother field)
    rw [List.map_cons, List.count_cons, hne]
    exact hproper.once field
  fits field given hmem := by
    rcases List.mem_cons.mp hmem with heq | hmem
    · exact absurd (Option.some_inj.mp (Prod.mk.inj heq).1) (hother field)
    · exact hproper.fits field given hmem

/-- A field that is not named yet may come in front. -/
theorem Proper.cons_field {field : Field} (hproper : Proper members)
    (hfresh : some field.key ∉ members.map Prod.fst) (hfits : field.Fits value) :
    Proper ((some field.key, value) :: members) where
  text := List.forall_mem_cons.mpr ⟨rfl, hproper.text⟩
  once other := by
    rw [List.map_cons]
    by_cases hsame : other = field
    · rw [hsame, List.count_cons_self, List.count_eq_zero.mpr hfresh]
    · have hne : (some field.key == some other.key) = false := by
        simpa using fun hkey => hsame (Field.key_injective hkey).symm
      rw [List.count_cons, hne]
      exact hproper.once other
  fits other given hmem := by
    rcases List.mem_cons.mp hmem with heq | hmem
    · obtain ⟨hkey, rfl⟩ := Prod.mk.inj heq
      rwa [Field.key_injective (Option.some_inj.mp hkey)]
    · exact hproper.fits other given hmem

/-- A member with the key of no field makes no difference. -/
theorem Overrides.cons_of_ne (hoverrides : Overrides members target config)
    (hother : ∀ field : Field, field.key ≠ key) :
    Overrides ((some key, value) :: members) target config := by
  refine fun field => ⟨fun given hmem => ?_, fun habsent => ?_⟩
  · rcases List.mem_cons.mp hmem with heq | hmem
    · exact absurd (Option.some_inj.mp (Prod.mk.inj heq).1) (hother field)
    · exact (hoverrides field).1 given hmem
  · exact (hoverrides field).2 fun given hmem => habsent given (List.mem_cons_of_mem _ hmem)

/-- A field that is set first, and not named again, keeps its value. -/
theorem Overrides.cons_field {field : Field} {source : Config}
    (hoverrides : Overrides members (field.copy source target) config)
    (hfresh : some field.key ∉ members.map Prod.fst) :
    Overrides ((some field.key, field.toJson source) :: members) target config := by
  intro other
  by_cases hsame : other = field
  · subst hsame
    have hset : other.toJson config = other.toJson source := by
      rw [(hoverrides other).2 (notMem_of_notMem_map hfresh), Field.toJson_copy_self]
    refine ⟨fun given hmem => ?_, fun habsent => absurd List.mem_cons_self (habsent _)⟩
    rcases List.mem_cons.mp hmem with heq | hmem
    · rw [hset, (Prod.mk.inj heq).2]
    · exact absurd hmem (notMem_of_notMem_map hfresh given)
  · refine ⟨fun given hmem => ?_, fun habsent => ?_⟩
    · rcases List.mem_cons.mp hmem with heq | hmem
      · exact absurd (Field.key_injective (Option.some_inj.mp (Prod.mk.inj heq).1)) hsame
      · exact (hoverrides other).1 given hmem
    · rw [(hoverrides other).2 fun given hmem => habsent given (List.mem_cons_of_mem _ hmem),
        Field.toJson_copy_of_ne hsame]

/-- Proper members set their fields, unless one is set already, and nothing else. -/
theorem withMembers?_of_proper (hproper : Proper members)
    (hunseen : ∀ field ∈ seen, some field.key ∉ members.map Prod.fst) :
    ∃ config, withMembers? seen target members = some config ∧
      Overrides members target config := by
  induction members generalizing seen target with
  | nil => exact ⟨target, rfl, fun field => ⟨nofun, fun _ => rfl⟩⟩
  | cons member members ih =>
      obtain ⟨key?, value⟩ := member
      obtain ⟨key, rfl⟩ := Option.isSome_iff_exists.mp (hproper.text _ List.mem_cons_self)
      -- what is set before is not named later either; with the head's field this carries on
      have hlater : ∀ field ∈ seen, some field.key ∉ members.map Prod.fst :=
        fun field hfield hmem => hunseen field hfield (List.mem_cons_of_mem _ hmem)
      unfold withMembers?
      cases hkey : Field.ofKey? key with
      | none =>
          obtain ⟨config, hconfig, hoverrides⟩ := @ih seen target hproper.of_cons hlater
          exact ⟨config, hconfig, hoverrides.cons_of_ne (Field.key_ne_of_ofKey?_eq_none hkey)⟩
      | some field =>
          obtain rfl := Field.key_of_ofKey? hkey
          have hfresh := hproper.notMem_of_cons
          have hfree : field ∉ seen := fun hmem => hunseen field hmem List.mem_cons_self
          obtain ⟨source, rfl⟩ := (hproper.fits field value List.mem_cons_self).exists_toJson
          have hnext : ∀ other ∈ field :: seen, some other.key ∉ members.map Prod.fst :=
            List.forall_mem_cons.mpr ⟨hfresh, hlater⟩
          obtain ⟨config, hconfig, hoverrides⟩ :=
            @ih (field :: seen) (field.copy source target) hproper.of_cons hnext
          refine ⟨config, ?_, hoverrides.cons_field hfresh⟩
          simp only [if_neg hfree, Field.set?_toJson]
          exact hconfig

/-- Members that set their fields are proper, and none of the fields was set already. -/
theorem proper_of_withMembers? (hread : withMembers? seen target members = some config) :
    Proper members ∧ ∀ field ∈ seen, some field.key ∉ members.map Prod.fst := by
  induction members generalizing seen target with
  | nil => exact ⟨.nil, fun _ _ => List.not_mem_nil⟩
  | cons member members ih =>
      obtain ⟨key?, value⟩ := member
      cases key? with
      | none => cases hread
      | some key =>
          unfold withMembers? at hread
          split at hread
          · rename_i hkey
            -- a member of another name is passed over
            have hother := Field.key_ne_of_ofKey?_eq_none hkey
            obtain ⟨hproper, hunseen⟩ := ih hread
            refine ⟨hproper.cons_of_ne hother, fun field hfield hmem => ?_⟩
            rcases List.mem_cons.mp hmem with heq | hmem
            · exact hother field (Option.some_inj.mp heq)
            · exact hunseen field hfield hmem
          · rename_i field hkey
            obtain rfl := Field.key_of_ofKey? hkey
            split at hread
            · cases hread
            · rename_i hfree
              split at hread
              · -- the rest never names this field again, since it counts as set from here on
                rename_i changed hset
                obtain ⟨hproper, hunseen⟩ := ih hread
                obtain ⟨hfresh, hlater⟩ := List.forall_mem_cons.mp hunseen
                refine ⟨hproper.cons_field hfresh (Field.fits_of_set? hset), ?_⟩
                intro other hother hmem
                rcases List.mem_cons.mp hmem with heq | hmem
                · obtain rfl := Field.key_injective (Option.some_inj.mp heq)
                  exact hfree hother
                · exact hlater other hother hmem
              · cases hread

end Members

/-! ## Arrays -/

/-- The object that names the first fields in order, one for each item. -/
def keyed (items : List Json) : List (Option String × Json) :=
  (Field.all.zip items).map fun (field, item) => (some field.key, item)

/-- Fields that are set in order are set as by an object with their keys. -/
theorem withItems?_eq_withMembers? {fields seen : List Field} {target : Config} {items : List Json}
    (hlength : items.length ≤ fields.length) (hnodup : fields.Nodup)
    (hunseen : ∀ field ∈ fields, field ∉ seen) :
    withItems? target fields items = withMembers? seen target
      ((fields.zip items).map fun (field, item) => (some field.key, item)) := by
  induction items generalizing fields seen target with
  | nil =>
      rw [withItems?, List.zip_nil_right]
      rfl
  | cons item items ih =>
      obtain ⟨field, fields, rfl⟩ := List.exists_cons_of_length_pos
        (Nat.lt_of_lt_of_le (Nat.succ_pos _) hlength)
      obtain ⟨hfresh, hrest⟩ := List.nodup_cons.mp hnodup
      have hfield := hunseen field List.mem_cons_self
      -- the fields of the array are distinct, so the check for a field set twice never strikes
      have hnext : ∀ other ∈ fields, other ∉ field :: seen := by
        intro other hother hmem
        rcases List.mem_cons.mp hmem with rfl | hseen
        · exact hfresh hother
        · exact hunseen other (List.mem_cons_of_mem _ hother) hseen
      rw [List.zip_cons_cons, List.map_cons, withItems?, withMembers?, Field.ofKey?_key]
      simp only [if_neg hfield]
      cases field.set? item target with
      | none => rfl
      | some changed => exact ih (Nat.le_of_succ_le_succ hlength) hrest hnext

theorem withItems?_of_longer {fields : List Field} {target : Config} {items : List Json}
    (hlength : fields.length < items.length) : withItems? target fields items = none := by
  induction items generalizing fields target with
  | nil => exact absurd hlength (Nat.not_lt_zero _)
  | cons item items ih =>
      cases fields with
      | nil => rfl
      | cons field fields =>
          unfold withItems?
          split
          · exact ih (Nat.lt_of_succ_lt_succ hlength)
          · rfl

/-! ## Files -/

/-- A file with a JSON text in it that denotes `value`. -/
def Holds (files : Files) (path : String) (value : Json) : Prop :=
  ∃ text, files.readText? path = some text ∧ Json.Denotes text value

section Holds

variable {files : Files} {path : String} {value : Json}

theorem holds_of_find? {text : String} (hfind : files.find? path = some (.file (Text.utf8 text)))
    (hdenotes : Json.Denotes text value) : Holds files path value := by
  refine ⟨text, ?_, hdenotes⟩
  rw [Files.readText?, hfind]
  exact Text.ofUtf8?_utf8 text

theorem Holds.load_eq {config : Config} (hholds : Holds files path value)
    (hconfig : ofJson? value = some config) : load files path = .ok config := by
  obtain ⟨text, htext, hdenotes⟩ := hholds
  simp only [load, htext, parse?, Json.parse?_of_denotes hdenotes, Option.bind_some, hconfig]

theorem Holds.load_eq_error (hholds : Holds files path value) (hnone : ofJson? value = none) :
    load files path = .error (.malformed path) := by
  obtain ⟨text, htext, hdenotes⟩ := hholds
  simp only [load, htext, parse?, Json.parse?_of_denotes hdenotes, Option.bind_some, hnone]

theorem Holds.toOption_load (hholds : Holds files path value) :
    (load files path).toOption = ofJson? value := by
  cases hvalue : ofJson? value with
  | none => rw [hholds.load_eq_error hvalue, Except.toOption]
  | some config => rw [hholds.load_eq hvalue, Except.toOption]

end Holds

/-- What the files give, and what the environment makes of it.

* A file with an object in it gives the standard configuration with exactly the fields
  replaced that the object names, in whatever order and with whatever other members between
  them, provided that the members are proper: each field is named at most once, with a value
  that fits it, and no key has half of a surrogate pair alone.  Otherwise it gives an error.
* A file with an array of at most eight items in it gives what one with an object with the
  keys of the first fields and these items as values gives, be it a configuration or an
  error.  A longer array gives an error.
* If the environment names a file, the configuration is the one that the file gives, and the
  standard one if the file gives an error; if it names none, it is the standard one. -/
theorem load_overrides (files : Files) :
    (∀ path members, Holds files path (.object members) →
      (Proper members → ∃ config, load files path = .ok config ∧
        ∀ other, Overrides members standard other ↔ other = config) ∧
      (¬Proper members → load files path = .error (.malformed path))) ∧
    (∀ path items, Holds files path (.array items) →
      (items.length ≤ 8 → ∀ named, Holds files named (.object (keyed items)) →
        (load files path).toOption = (load files named).toOption) ∧
      (8 < items.length → load files path = .error (.malformed path))) ∧
    (∀ path config, load files path = .ok config → fromEnvironment files (some path) = config) ∧
    (∀ path error, load files path = .error error →
      fromEnvironment files (some path) = standard) ∧
    fromEnvironment files none = standard := by
  refine ⟨fun path members hholds => ⟨fun hproper => ?_, fun himproper => ?_⟩,
    fun path items hholds => ⟨fun hlength named hnamed => ?_, fun hlength => ?_⟩,
    fun path config hload => ?_, fun path error hload => ?_, rfl⟩
  · obtain ⟨config, hconfig, hoverrides⟩ :=
      @withMembers?_of_proper members [] standard hproper nofun
    refine ⟨config, hholds.load_eq hconfig, fun other => ⟨fun hother => ?_, ?_⟩⟩
    · exact hother.unique hoverrides
    · rintro rfl
      exact hoverrides
  · -- were a configuration read, its members would be proper
    have hnone : withMembers? [] standard members = none :=
      Option.eq_none_iff_forall_ne_some.mpr fun config hconfig =>
        himproper (proper_of_withMembers? hconfig).1
    exact hholds.load_eq_error hnone
  · have hsame : withItems? standard Field.all items = withMembers? [] standard (keyed items) :=
      withItems?_eq_withMembers? hlength (by decide) fun _ _ => List.not_mem_nil
    rw [hholds.toOption_load, hnamed.toOption_load]
    exact hsame
  · exact hholds.load_eq_error (withItems?_of_longer hlength)
  · simp only [fromEnvironment, hload, Except.toOption, Option.getD_some]
  · simp only [fromEnvironment, hload, Except.toOption, Option.getD_none]

/-- The number of slots with its key written by an escape, between two members with the same
key, one of which has another field inside its value. -/
theorem load_overrides_interleaved :
    let text :=
      "\x7b\"x\": [\x7b\"dri_dir\": null\x7d], \"device\\u005fslots\": 4, \"x\": \"\\ud800\"\x7d"
    let files := Files.ofTree
      (.directory [(Text.utf8 "partial.json", .file (Text.utf8 text))]) []
    load files "/partial.json" = .ok { standard with deviceSlots := 4 } := by
  intro text files
  let source : Config := { standard with deviceSlots := 4 }
  let rest : List (Option String × Json) :=
    [(some Field.deviceSlots.key, .number (.ofInt 4)), (some "x", .string none)]
  let members : List (Option String × Json) :=
    (some "x", .array [.object [(some "dri_dir", .null)]]) :: rest
  have htokens : Json.tokens? text.toList = some (Json.object members).tokens := by
    unfold members rest text
    decide +kernel
  have hholds : Holds files "/partial.json" (.object members) :=
    holds_of_find? rfl (Json.written_of_tokensWithin? htokens)
  have hother : ∀ field : Field, field.key ≠ "x" := by
    intro field
    cases field <;> decide
  have hfits : Field.Fits (.number (.ofInt 4)) .deviceSlots := ⟨4, by decide, by decide, rfl⟩
  have hrest : Proper rest := (Proper.nil.cons_of_ne hother).cons_field (by decide) hfits
  have hset : Overrides rest standard source := by
    refine @Overrides.cons_field _ _ _ .deviceSlots source ?_ (by decide)
    exact Overrides.cons_of_ne (fun field => ⟨nofun, fun _ => rfl⟩) hother
  obtain ⟨config, hload, hconfig⟩ :=
    ((load_overrides files).1 "/partial.json" members hholds).1 (hrest.cons_of_ne hother)
  have hsource : source = config := (hconfig source).mp (hset.cons_of_ne hother)
  rw [hload, ← hsource]

end Config

end VirtualMonitor
