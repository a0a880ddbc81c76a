import VirtualMonitor.Proofs.Manager.Calls
import VirtualMonitor.Proofs.Uuid

/-!
# Names of displays

Displays are created and removed by UUID, and everything else is done by name.  A name is
made from the first eight digits of a UUID, so two displays may have one and the same.
What is done by name is then done to the one whose UUID comes first
(`named?_eq_some_iff`), whatever it is that is done.

Names follow the order of the UUIDs (`nameFor_le_of_text_lt`), as the digits that they are
made from are the first ones of the text.

* `names_resolve`: every use of a name leads to the same record, or to none; a record has the
  name of its own UUID, so it is found by that name unless another UUID has the same first
  digits; and the displays that match a pattern are listed in the order of UUIDs and names.
-/

namespace VirtualMonitor

/-! ## Names in the order of UUIDs -/

namespace Display

variable {stem : String} {first second : Uuid}

theorem short_eq_of_nameFor_eq (heq : nameFor stem first = nameFor stem second) :
    first.short = second.short := by
  have hlists := congrArg String.toList heq
  simpa only [nameFor, String.toList_append, List.append_cancel_left_eq, String.toList_inj]
    using hlists

theorem nameFor_le_of_text_lt (hlt : first.text < second.text) :
    nameFor stem first ≤ nameFor stem second := by
  by_cases heq : first.short = second.short
  · rw [nameFor, nameFor, heq]
  · have hshort : first.short < second.short :=
      Registry.lt_of_not_lt_of_ne (Uuid.not_short_lt_of_text_lt hlt) (Ne.symm heq)
    have hlists : stem.toList ++ first.short.toList < stem.toList ++ second.short.toList :=
      List.append_left_lt (String.lt_iff_toList_lt.mp hshort)
    rw [← String.toList_append, ← String.toList_append] at hlists
    exact String.not_lt.mp (String.lt_asymm (String.lt_iff_toList_lt.mpr hlists))

end Display

/-! ## Records that are named after their UUIDs -/

/-- A record as it is created, whatever mode it has got since. -/
structure Record.Titled (stem : String) (record : Record) : Prop where
  active : record.display.active = true
  named : ∃ uuid : Uuid, record.uuid = uuid.text ∧ record.name = Display.nameFor stem uuid

/-! ## The record that a name stands for -/

namespace Registry

/-- A name stands for the record that bears it and whose UUID comes before those of all
others that do. -/
structure StandsFor (registry : Registry) (name : String) (record : Record) : Prop where
  mem : record ∈ registry.records
  name_eq : record.name = name
  uuid_le : ∀ other ∈ registry.records, other.name = name → record.uuid ≤ other.uuid

variable {registry : Registry} {record other : Record} {name : String}

/-- The record that is found first has the least UUID, because records are in their order. -/
theorem standsFor_of_named? (hnamed : registry.named? name = some record) :
    registry.StandsFor name record := by
  obtain ⟨hname, before, after, hrecords, hbefore⟩ := List.find?_eq_some_iff_append.mp hnamed
  refine ⟨List.mem_of_find?_eq_some hnamed, by simpa using hname, ?_⟩
  intro other hother hotherName
  have hsorted := registry.sorted
  rw [hrecords] at hother hsorted
  rcases List.mem_append.mp hother with hother | hother
  · have hnot := hbefore other hother
    simp [hotherName] at hnot
  · rcases List.mem_cons.mp hother with rfl | hother
    · exact String.le_refl _
    · have hcons := (List.pairwise_append.mp hsorted).2.1
      exact String.not_lt.mp (String.lt_asymm (List.rel_of_pairwise_cons hcons hother))

theorem StandsFor.unique (hrecord : registry.StandsFor name record)
    (hother : registry.StandsFor name other) : record = other :=
  eq_of_uuid_eq hrecord.mem hother.mem <|
    String.le_antisymm (hrecord.uuid_le other hother.mem hother.name_eq)
      (hother.uuid_le record hrecord.mem hrecord.name_eq)

theorem named?_eq_some_iff :
    registry.named? name = some record ↔ registry.StandsFor name record := by
  refine ⟨standsFor_of_named?, fun hstands => ?_⟩
  cases hnamed : registry.named? name with
  | none =>
      have hnot := List.find?_eq_none.mp hnamed record hstands.mem
      simp [hstands.name_eq] at hnot
  | some found => rw [(standsFor_of_named? hnamed).unique hstands]

theorem ne_of_named?_eq_none (hnamed : registry.named? name = none) :
    ∀ record ∈ registry.records, record.name ≠ name :=
  fun record hrecord => by simpa using List.find?_eq_none.mp hnamed record hrecord

/-! ### Names of titled records -/

variable {stem : String}

theorem matching_of_titled (htitled : ∀ record ∈ registry.records, record.Titled stem)
    (pattern : String) :
    ∃ found : List Record, found.Sublist registry.records ∧
      (∀ record ∈ registry.records,
        record ∈ found ↔ pattern.toList <:+: record.name.toList) ∧
      registry.matching pattern = found.map Record.name := by
  refine ⟨_, List.filter_sublist, ?_, rfl⟩
  intro record hrecord
  simp [List.mem_filter, hrecord, (htitled record hrecord).active, Text.occursIn_iff_isInfix]

/-- Records in the order of their UUIDs are in the order of their names. -/
theorem names_pairwise_le {records : List Record}
    (htitled : ∀ record ∈ records, record.Titled stem)
    (hsorted : records.Pairwise fun first second => first.uuid < second.uuid) :
    (records.map Record.name).Pairwise (· ≤ ·) := by
  rw [List.pairwise_map]
  refine hsorted.imp_of_mem fun {first second} hfirst hsecond hlt => ?_
  obtain ⟨uuid, huuid, hname⟩ := (htitled first hfirst).named
  obtain ⟨other, hother, hotherName⟩ := (htitled second hsecond).named
  rw [huuid, hother] at hlt
  rw [hname, hotherName]
  exact Display.nameFor_le_of_text_lt hlt

/-- Where no two UUIDs have the same first digits, a display is found by its name. -/
theorem standsFor_nameFor (htitled : ∀ record ∈ registry.records, record.Titled stem)
    (hshort : ∀ first second : Uuid, (registry.get? first.text).isSome →
      (registry.get? second.text).isSome → first.short = second.short → first = second)
    {uuid : Uuid} {record : Record} (hget : registry.get? uuid.text = some record) :
    registry.StandsFor (Display.nameFor stem uuid) record := by
  -- a registered record that bears the name has the same UUID
  have hbearer : ∀ other ∈ registry.records, other.name = Display.nameFor stem uuid →
      other.uuid = uuid.text := by
    intro other hother hname
    obtain ⟨own, hown, hownName⟩ := (htitled other hother).named
    have hregistered : registry.get? own.text = some other :=
      get?_eq_some_iff.mpr ⟨hother, hown⟩
    have hsame : own = uuid := hshort own uuid (Option.isSome_of_eq_some hregistered)
      (Option.isSome_of_eq_some hget)
      (Display.short_eq_of_nameFor_eq (hownName.symm.trans hname))
    rw [hown, hsame]
  obtain ⟨hmem, huuid⟩ := get?_eq_some_iff.mp hget
  obtain ⟨own, hown, hownName⟩ := (htitled record hmem).named
  have hsame : own = uuid := Uuid.text_injective (hown.symm.trans huuid)
  refine ⟨hmem, by rw [hownName, hsame], fun other hother hname => ?_⟩
  rw [huuid, hbearer other hother hname]

end Registry

/-! ## What is done by name -/

namespace Manager

/-- Whatever is done by the name is done to the record. -/
structure Addresses (manager : Manager) (name : String) (record : Record) : Prop where
  info : manager.info? name = some record.snapshot
  isHardwareBacked : manager.isHardwareBacked name = record.hardware?.isSome
  slotOf : manager.slotOf? name = record.slot?
  connection : manager.connection? name = record.hardware?.map Hardware.connection
  reconfigure : ∀ width height millihertz,
    let after := manager.reconfigure name width height millihertz
    after.registry.get? record.uuid =
        some ⟨record.display.withMode width height millihertz, record.hardware?⟩ ∧
      ∀ other ≠ record.uuid, after.registry.get? other = manager.registry.get? other

/-- The name leads to no record, and using it changes nothing. -/
structure Misses (manager : Manager) (name : String) : Prop where
  info : manager.info? name = none
  isHardwareBacked : manager.isHardwareBacked name = false
  slotOf : manager.slotOf? name = none
  connection : manager.connection? name = none
  frame : ∀ call, manager.frame name call = (none, manager)
  reconfigure : ∀ width height millihertz,
    manager.reconfigure name width height millihertz = manager

variable {manager : Manager} {name : String} {record : Record}

theorem addresses_of_named? (hnamed : manager.registry.named? name = some record)
    (hconnected : record.Connected) : manager.Addresses name record where
  info := by simp [info?, hnamed]
  isHardwareBacked := by simp [Manager.isHardwareBacked, hnamed]
  slotOf := by simp [slotOf?, hnamed]
  connection := by simp [connection?, hnamed]
  reconfigure := fun width height millihertz =>
    (reconfigure_of_named? hnamed hconnected width height millihertz).2

theorem misses_of_named?_eq_none (hnamed : manager.registry.named? name = none) :
    manager.Misses name where
  info := by simp [info?, hnamed]
  isHardwareBacked := by simp [Manager.isHardwareBacked, hnamed]
  slotOf := by simp [slotOf?, hnamed]
  connection := by simp [connection?, hnamed]
  frame := fun call => by simp [Manager.frame, connection?, hnamed]
  reconfigure := reconfigure_of_named?_eq_none hnamed

/-! ## What runs keep -/

theorem titled_remode {stem : String} {record : Record} (htitled : record.Titled stem)
    (width height millihertz : UInt32) (driver : Driver) :
    (remode width height millihertz record driver).1.Titled stem := by
  obtain ⟨hactive, hnamed⟩ := htitled
  unfold remode
  split <;> exact ⟨hactive, hnamed⟩

/-- After every run the records are active and named after their UUIDs. -/
theorem titled_run (config : Config) (host : Host) (operations : List Operation) :
    ∀ record ∈ ((new config host).run operations).2.registry.records,
      record.Titled config.displayNameStem := by
  have hrun := run_induction
    (P := fun manager => manager.config = config ∧
      ∀ record ∈ manager.registry.records, record.Titled config.displayNameStem)
    (new config host) ⟨rfl, by simp [new, Registry.empty]⟩ ?_ operations
  · exact hrun.2
  · rintro manager operation ⟨rfl, hrecords⟩
    refine ⟨manager.config_perform operation,
      forall_mem_of_effect (manager.effect_perform operation) ?_ ?_ hrecords⟩
    · intro request outcome _ _
      exact ⟨rfl, request.uuid, rfl, rfl⟩
    · intro record width height millihertz driver htitled
      exact titled_remode htitled width height millihertz driver

/-! ## Every use of a name leads to the same record -/

/-- After every run, for every name: if any record bears the name, then one of them has the
least UUID, and asking for the display, for its device or its slot, using the device and
giving it another mode are all done to that one; otherwise the name leads nowhere.

Every record is registered under its UUID and has the name of that UUID, so if no two
registered UUIDs have the same first eight digits, the name of each leads to its record.

The displays that match a pattern are exactly those whose name contains it, in ascending
order of UUIDs and so in the order of names. -/
theorem names_resolve (config : Config) (files : Files) (source : DriverSource)
    (backend : Backend) (probes : Nat) (operations : List Operation) :
    let manager := ((new config ⟨files, source, .fresh backend, probes⟩).run operations).2
    let registry := manager.registry
    (∀ name record, registry.StandsFor name record → manager.Addresses name record) ∧
      (∀ name, (∃ record, registry.StandsFor name record) ∨
        (∀ record ∈ registry.records, record.name ≠ name) ∧ manager.Misses name) ∧
      (∀ record ∈ registry.records, ∃ uuid : Uuid, record.uuid = uuid.text ∧
        registry.get? uuid.text = some record ∧
          record.name = Display.nameFor config.displayNameStem uuid) ∧
      ((∀ first second : Uuid, (registry.get? first.text).isSome →
          (registry.get? second.text).isSome → first.short = second.short → first = second) →
        ∀ (uuid : Uuid) record, registry.get? uuid.text = some record →
          manager.Addresses (Display.nameFor config.displayNameStem uuid) record) ∧
      ∀ pattern, ∃ found : List Record, found.Sublist registry.records ∧
        (∀ record ∈ registry.records,
          record ∈ found ↔ pattern.toList <:+: record.name.toList) ∧
        registry.matching pattern = found.map Record.name ∧
        found.Pairwise (fun first second => first.uuid < second.uuid) ∧
        (registry.matching pattern).Pairwise (· ≤ ·) := by
  intro manager registry
  have hholds : Holds registry.records manager.host.driver :=
    holds_run config files source backend probes operations
  have htitled : ∀ record ∈ registry.records, record.Titled config.displayNameStem :=
    titled_run config _ operations
  -- the record that a name stands for is the one that is found, and all five uses start there
  have haddresses : ∀ name record, registry.StandsFor name record →
      manager.Addresses name record := fun name record hstands =>
    addresses_of_named? (Registry.named?_eq_some_iff.mpr hstands)
      (hholds.connected record hstands.mem)
  refine ⟨haddresses, ?_, ?_, ?_, ?_⟩
  · intro name
    cases hnamed : registry.named? name with
    | none =>
        exact .inr ⟨Registry.ne_of_named?_eq_none hnamed, misses_of_named?_eq_none hnamed⟩
    | some record => exact .inl ⟨record, Registry.standsFor_of_named? hnamed⟩
  · intro record hrecord
    obtain ⟨uuid, huuid, hname⟩ := (htitled record hrecord).named
    exact ⟨uuid, huuid, Registry.get?_eq_some_iff.mpr ⟨hrecord, huuid⟩, hname⟩
  · intro hshort uuid record hget
    exact haddresses _ _ (Registry.standsFor_nameFor htitled hshort hget)
  · intro pattern
    obtain ⟨found, hsublist, hfound, hmatching⟩ := Registry.matching_of_titled htitled pattern
    have hsorted := registry.sorted.sublist hsublist
    -- names start alike and go on with the digits, so their order is that of the UUIDs
    have hnames := Registry.names_pairwise_le
      (fun record hrecord => htitled record (hsublist.subset hrecord)) hsorted
    rw [← hmatching] at hnames
    exact ⟨found, hsublist, hfound, hmatching, hsorted, hnames⟩

/-- The display that was created first has the greater UUID.  Its name leads to its own
slot, and so does that of the other one. -/
theorem names_resolve_apart :
    let request (digit : Fin 16) : DisplayRequest :=
      ⟨⟨Vector.replicate 32 digit⟩, "client", "screen", 1920, 1080, 60000⟩
    let manager := ((new .standard ⟨⟨fun _ => some (.file [])⟩, .given,
        .fresh (.memory (.ofSlots [.available, .available])), 0⟩).run
          [.openDriver, .create (request 1), .create (request 0)]).2
    manager.slotOf? "VIRTUAL-11111111" = some 0 ∧ manager.slotOf? "VIRTUAL-00000000" = some 1 := by
  intro request manager
  obtain ⟨-, -, -, hapart, -⟩ := names_resolve .standard ⟨fun _ => some (.file [])⟩ .given
    (.memory (.ofSlots [.available, .available])) 0
    [.openDriver, .create (request 1), .create (request 0)]
  let record (digit : Fin 16) (slot : Int32) (handle : Handle) (node : String) : Record :=
    ⟨(request digit).display "VIRTUAL-", some ⟨⟨handle, slot, true⟩, some node⟩⟩
  have hrecords : manager.registry.records =
      [record 0 1 ⟨2⟩ "/dev/dri/card1", record 1 0 ⟨1⟩ "/dev/dri/card0"] := by decide +kernel
  -- the registered UUIDs differ in their first digit already
  have hregistered : ∀ uuid : Uuid, (manager.registry.get? uuid.text).isSome →
      uuid = (request 0).uuid ∨ uuid = (request 1).uuid := by
    intro uuid hsome
    obtain ⟨found, hfound⟩ := Option.isSome_iff_exists.mp hsome
    obtain ⟨hmem, hkey⟩ := Registry.get?_eq_some_iff.mp hfound
    rw [hrecords] at hmem
    rcases List.mem_pair.mp hmem with rfl | rfl
    · exact .inl (Uuid.text_injective hkey.symm)
    · exact .inr (Uuid.text_injective hkey.symm)
  have hshort : ∀ first second : Uuid, (manager.registry.get? first.text).isSome →
      (manager.registry.get? second.text).isSome → first.short = second.short →
        first = second := by
    intro first second hfirst hsecond hsame
    have hne : (request 0).uuid.short ≠ (request 1).uuid.short := by decide +kernel
    rcases hregistered first hfirst with rfl | rfl <;>
      rcases hregistered second hsecond with rfl | rfl
    · rfl
    · exact absurd hsame hne
    · exact absurd hsame.symm hne
    · rfl
  have hone := hapart hshort (request 1).uuid (record 1 0 ⟨1⟩ "/dev/dri/card0")
    (by decide +kernel)
  have hzero := hapart hshort (request 0).uuid (record 0 1 ⟨2⟩ "/dev/dri/card1")
    (by decide +kernel)
  exact ⟨hone.slotOf, hzero.slotOf⟩

end Manager

end VirtualMonitor
