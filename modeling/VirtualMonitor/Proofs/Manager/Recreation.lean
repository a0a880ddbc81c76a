import VirtualMonitor.Proofs.Driver.SlotSearch
import VirtualMonitor.Proofs.Manager.Readiness
import VirtualMonitor.Proofs.Manager.Slots

/-!
# Creating a display anew

When a display is created anew, its new device is provisioned while the old one is still
held.  So the search for a slot passes over the slot of the old device, and the display gets
the device that a newcomer would get (`device?_createDisplay`).  Removing the display first
gives the old slot back, and the search may end there (`deviceBeside_vacated`).

Which device is provisioned depends on the driver and on the slots that are held
(`fst_provision`), so the two ways are compared on one driver, with the old slot held and
without.

* `recreation_takes_another_slot`: a display that is created anew never gets its old slot, and
  gets a device if the driver offers another slot; a display that is removed and then created
  gets the same device or one in its old slot.
* `recreation_loses_device`: when its slot is the only one, a display that is created anew
  has no device any more.
-/

namespace VirtualMonitor

namespace Manager

/-! ## The device that is provisioned -/

/-- The search asks the driver and finds what `Backend.findSlot` finds. -/
theorem searchSlots_present (occupied : List Int32) (remaining : Nat) (index : Int32)
    (driver : Driver) :
    let searched := searchSlots .present occupied remaining index driver
    (searched.1, searched.2.backend) = driver.backend.findSlot occupied remaining index := by
  induction remaining generalizing index driver with
  | zero => rfl
  | succ remaining ih =>
      simp only [searchSlots, Backend.findSlot, Backend.look, List.contains_iff_mem]
      split
      · exact ih (index + 1) driver
      · simp only [Binding.check, Driver.check, Binding.add]
        cases driver.backend.status index with
        | available => rfl
        | unrecognized => exact ih (index + 1) _
        | notPresent =>
            simp only [Driver.add, Driver.backend_record]
            cases hadded : driver.backend.add.1 with
            | none => exact ih (index + 1) _
            | some added =>
                by_cases hheld : added ∈ occupied
                · simpa [Option.filter, hheld] using ih (index + 1) _
                · simp [Option.filter, hheld]

/-- What the search for a slot would come to if the given slots were the ones that are held. -/
def searchBeside (occupied : List Int32) (manager : Manager) : Option Int32 × Backend :=
  manager.host.driver.backend.findSlot occupied manager.config.deviceSlots.toInt.toNat 0

theorem findFreeSlot_of_present {manager : Manager} (hpresent : manager.binding = .present) :
    (manager.findFreeSlot.1, manager.findFreeSlot.2.backend) =
      manager.searchBeside manager.registry.occupiedSlots := by
  unfold findFreeSlot
  rw [hpresent]
  exact searchSlots_present _ _ _ _

/-- The device that would be provisioned if the given slots were the ones that are held. -/
def deviceBeside (occupied : List Int32) (manager : Manager) : Option Hardware :=
  let (slot?, backend) := manager.searchBeside occupied
  slot?.bind fun slot => (backend.grant? slot).map fun handle =>
    ⟨⟨handle, slot, true⟩, manager.openNode? slot⟩

theorem binding_of_hardwareEnabled {manager : Manager} (henabled : manager.hardwareEnabled = true) :
    manager.binding = .present := by
  unfold hardwareEnabled at henabled
  cases hbinding : manager.binding with
  | absent =>
      rw [hbinding] at henabled
      cases henabled
  | present => rfl

/-- The device does not depend on the mode. -/
theorem fst_provision {manager : Manager} (hpresent : manager.binding = .present) (mode : Mode) :
    (manager.provision mode).1 = manager.deviceBeside manager.registry.occupiedSlots := by
  have hbeside := findFreeSlot_of_present hpresent
  obtain ⟨slot?, driver, hsearch⟩ :
      ∃ slot? driver, manager.findFreeSlot = (slot?, driver) := ⟨_, _, rfl⟩
  rw [hsearch] at hbeside
  rw [deviceBeside, ← hbeside]
  cases slot? with
  | none =>
      rw [provision_of_not_found hsearch]
      rfl
  | some slot =>
      rw [provision_of_found hpresent hsearch]
      cases hgrant : driver.backend.grant? slot <;> simp [hgrant]

section Beside

variable {manager : Manager} {occupied vacated : List Int32} {slot own : Int32}

theorem deviceBeside_of_grant {handle : Handle}
    (hfound : (manager.searchBeside occupied).1 = some slot)
    (hgrant : (manager.searchBeside occupied).2.grant? slot = some handle) :
    manager.deviceBeside occupied = some ⟨⟨handle, slot, true⟩, manager.openNode? slot⟩ := by
  simp only [deviceBeside, hfound, Option.bind_some, hgrant, Option.map_some]

private theorem searched_le (config : Config) :
    (0 : Int32).toInt + config.deviceSlots.toInt.toNat ≤ Int32.maxValue.toInt := by
  have hle := config.deviceSlots.toInt_le
  have hmax : Int32.maxValue.toInt = 2147483647 := rfl
  have hzero : (0 : Int32).toInt = 0 := rfl
  omega

/-- Every slot below the limit is reached, unless the search ends before. -/
private theorem lt_of_lt_deviceSlots (hslot : slot < manager.config.deviceSlots) :
    slot.toInt < (0 : Int32).toInt + manager.config.deviceSlots.toInt.toNat := by
  have hlt := Int32.lt_iff_toInt_lt.mp hslot
  have hle := Int.self_le_toNat manager.config.deviceSlots.toInt
  have hzero : (0 : Int32).toInt = 0 := rfl
  omega

theorem deviceBeside_eq_none (hforeign : ∀ slot ∉ occupied, 0 ≤ slot →
      slot < manager.config.deviceSlots →
        manager.host.driver.backend.status slot = .unrecognized) :
    manager.deviceBeside occupied = none := by
  have hsearch : manager.searchBeside occupied = (none, manager.host.driver.backend) := by
    refine Backend.findSlot_eq_none (searched_le manager.config) fun slot hfree hlow hhigh => ?_
    refine hforeign slot hfree (Int32.le_iff_toInt_le.mpr hlow) (Int32.lt_iff_toInt_lt.mpr ?_)
    have hzero : (0 : Int32).toInt = 0 := rfl
    omega
  rw [deviceBeside, hsearch]
  rfl

/-- If the driver refuses no slot that is free, every slot that is found gives a device. -/
theorem isSome_deviceBeside
    (hrefusing : ∀ refused ∈ manager.host.driver.backend.refusing, refused ∈ occupied)
    (hfound : (manager.searchBeside occupied).1.isSome) :
    (manager.deviceBeside occupied).isSome := by
  obtain ⟨slot, hslot⟩ := Option.isSome_iff_exists.mp hfound
  have hgrant := Backend.isSome_grant?_findSlot hrefusing (by decide)
    (searched_le manager.config) hslot
  obtain ⟨handle, hhandle⟩ := Option.isSome_iff_exists.mp hgrant
  rw [deviceBeside_of_grant hslot hhandle]
  rfl

/-- If the driver refuses no slot that is free, one free slot is enough for a device: one that
is available, or one that is not present while some free slot can be added. -/
theorem isSome_deviceBeside_of_free
    (hrefusing : ∀ refused ∈ manager.host.driver.backend.refusing, refused ∈ occupied)
    (hfree : slot ∉ occupied) (hslot : 0 ≤ slot) (hlimit : slot < manager.config.deviceSlots)
    (hoffered : manager.host.driver.backend.status slot = .available ∨
      manager.host.driver.backend.status slot = .notPresent ∧
        ∃ added, manager.host.driver.backend.add.1 = some added ∧ added ∉ occupied) :
    (manager.deviceBeside occupied).isSome := by
  apply isSome_deviceBeside hrefusing
  have hlow := Int32.le_iff_toInt_le.mp hslot
  have hhigh := lt_of_lt_deviceSlots hlimit
  rcases hoffered with havailable | ⟨hstatus, added, hadded, haddedFree⟩
  · have hgrant := Backend.isSome_grant?_of_available hslot havailable fun hrefused =>
      hfree (hrefusing slot hrefused)
    exact Backend.isSome_findSlot_of_offers hfree ⟨havailable, hgrant⟩ hlow hhigh
  · exact Backend.isSome_findSlot_of_addable hfree hstatus hadded haddedFree hlow hhigh

/-- When the slot of a device is given back, the device that is provisioned is the one that
would have been provisioned before, or it is in that slot. -/
theorem deviceBeside_vacated (hoccupied : ∀ slot, slot ∈ occupied ↔ slot = own ∨ slot ∈ vacated)
    (hown : own ∉ vacated) (hoffers : manager.host.driver.backend.Offers own) :
    manager.deviceBeside vacated = manager.deviceBeside occupied ∨
      ∃ hardware, manager.deviceBeside vacated = some hardware ∧
        hardware.connection.slot = own := by
  rcases Backend.findSlot_vacated hoccupied hown hoffers
    manager.config.deviceSlots.toInt.toNat 0 with htaken | hsame
  · right
    have hkept := hoffers.findSlot vacated manager.config.deviceSlots.toInt.toNat 0
    obtain ⟨handle, hhandle⟩ := Option.isSome_iff_exists.mp hkept.grant
    exact ⟨_, deviceBeside_of_grant htaken hhandle, rfl⟩
  · left
    rw [deviceBeside, searchBeside, hsame]
    rfl

end Beside

/-! ## Creating and removing -/

variable {manager : Manager} {uuid : Uuid} {record : Record} {hardware : Hardware}

/-- The device of the display of a client, if there is one. -/
def device? (uuid : Uuid) (manager : Manager) : Option Hardware :=
  (manager.registry.get? uuid.text).bind Record.hardware?

/-- Whoever a display is created for, it gets the device that is provisioned beside all that
are held. -/
theorem device?_createDisplay (request : DisplayRequest) (hready : manager.state = .ready)
    (hpresent : manager.binding = .present) :
    (manager.createDisplay request).2.device? request.uuid =
      manager.deviceBeside manager.registry.occupiedSlots := by
  have hregistry := registry_createDisplay request (beq_iff_eq.mpr hready)
  have hget : (manager.createDisplay request).2.registry.get? request.uuid.text =
      some ⟨request.display manager.config.displayNameStem,
        (manager.provision (request.display manager.config.displayNameStem).mode).1⟩ := by
    rw [hregistry]
    exact Registry.get?_insert_self ⟨request.display manager.config.displayNameStem, _⟩ _
  rw [device?, hget, Option.bind_some]
  exact fst_provision hpresent _

/-- The slots that are held are that of a display with a device and those of the others. -/
theorem occupiedSlots_perm (hget : manager.registry.get? uuid.text = some record)
    (hhardware : record.hardware? = some hardware) :
    manager.registry.occupiedSlots.Perm (hardware.connection.slot ::
      (manager.removeDisplay uuid).2.registry.occupiedSlots) := by
  have hslot : record.slot? = some hardware.connection.slot := by
    rw [Record.slot?, hhardware]
    rfl
  have hperm := (Registry.perm_of_get? hget).filterMap Record.slot?
  rw [List.filterMap_cons_some hslot] at hperm
  rwa [removeDisplay_of_get? hget]

/-- Removing a display gives a slot back; what the driver answers stays the same. -/
theorem deviceBeside_removeDisplay (hget : manager.registry.get? uuid.text = some record)
    (occupied : List Int32) :
    (manager.removeDisplay uuid).2.deviceBeside occupied = manager.deviceBeside occupied := by
  rw [removeDisplay_of_get? hget]
  simp only [deviceBeside, searchBeside, withDriver, Record.backend_release]
  rfl

/-- No display is given a slot that is held. -/
theorem notMem_occupiedSlots_of_createDisplay {request : DisplayRequest}
    (hready : manager.state = .ready) (hpresent : manager.binding = .present)
    (hdevice : (manager.createDisplay request).2.device? request.uuid = some hardware) :
    hardware.connection.slot ∉ manager.registry.occupiedSlots := by
  have hprovided := manager.provided_provision
    (request.display manager.config.displayNameStem).mode
  rw [device?_createDisplay request hready hpresent, ← fst_provision hpresent] at hdevice
  generalize manager.provision (request.display manager.config.displayNameStem).mode = outcome
    at hprovided hdevice
  obtain ⟨hardware?, driver⟩ := outcome
  obtain rfl : hardware? = some hardware := hdevice
  exact (free_and_onNode_of_provided hprovided).1

/-- A display that is removed and created again gets the device that is provisioned beside
those of the other displays. -/
theorem device?_removed_createDisplay (request : DisplayRequest) (hready : manager.state = .ready)
    (hpresent : manager.binding = .present)
    (hget : manager.registry.get? request.uuid.text = some record) :
    let removed := (manager.removeDisplay request.uuid).2
    (removed.createDisplay request).2.device? request.uuid =
      manager.deviceBeside removed.registry.occupiedSlots := by
  intro removed
  have hremoved := removeDisplay_of_get? hget
  have hstate : removed.state = .ready := by
    simp only [removed, hremoved]
    exact hready
  have hbinding : removed.binding = .present := by
    simp only [removed, hremoved]
    exact hpresent
  rw [device?_createDisplay request hstate hbinding]
  exact deviceBeside_removeDisplay hget _

/-- Take any state that a run can come to, with the driver ready and real monitors enabled, and
a display with a device whose slot the driver offers.  Create it anew with any mode, or remove
it and create it then.

* Created anew, it never gets a slot that is held, its own included; it gets the device that
  any other display would get in its place, a newcomer's or not, of whatever mode.
* Removed and created, it gets the same device, or one in its old slot.  So it has a device if
  it has one when it is created anew.
* If the driver refuses no slot that is free, then created anew it has a device whenever
  another slot is available, or can be added; and removed and created it has one whenever its
  own slot is among those that are searched.
* Created anew it has no device if all free slots that are searched belong to other drivers. -/
theorem recreation_takes_another_slot (config : Config) (files : Files) (source : DriverSource)
    (backend : Backend) (probes : Nat) (operations : List Operation) (request : DisplayRequest) :
    let manager := ((new config ⟨files, source, .fresh backend, probes⟩).run operations).2
    let driver := manager.host.driver.backend
    let held := manager.registry.occupiedSlots
    let recreated := (manager.createDisplay request).2.device? request.uuid
    let anew :=
      ((manager.removeDisplay request.uuid).2.createDisplay request).2.device? request.uuid
    manager.state = .ready → manager.hardwareEnabled = true →
      ∀ hardware, manager.device? request.uuid = some hardware →
        driver.Offers hardware.connection.slot →
        (∀ device, recreated = some device → device.connection.slot ∉ held) ∧
        (∀ other : DisplayRequest,
          (manager.createDisplay other).2.device? other.uuid = recreated) ∧
        (anew = recreated ∨
          ∃ device, anew = some device ∧ device.connection.slot = hardware.connection.slot) ∧
        (recreated.isSome → anew.isSome) ∧
        ((∀ refused ∈ driver.refusing, refused ∈ held) →
          (∀ slot ∉ held, 0 ≤ slot → slot < manager.config.deviceSlots →
            (driver.status slot = .available ∨ driver.status slot = .notPresent ∧
              ∃ added, driver.add.1 = some added ∧ added ∉ held) → recreated.isSome) ∧
          (hardware.connection.slot < manager.config.deviceSlots → anew.isSome)) ∧
        ((∀ slot ∉ held, 0 ≤ slot → slot < manager.config.deviceSlots →
          driver.status slot = .unrecognized) → recreated = none) := by
  intro manager driver held recreated anew hready henabled hardware hdevice hoffers
  have hholds : Holds manager.registry.records manager.host.driver :=
    holds_run config files source backend probes operations
  have hpresent := binding_of_hardwareEnabled henabled
  obtain ⟨record, hget, hhardware⟩ := Option.bind_eq_some_iff.mp hdevice
  -- created anew, the display is searched a device beside all slots that are held; once it was
  -- removed, beside those of the other displays
  have hrecreated : recreated = manager.deviceBeside held :=
    device?_createDisplay request hready hpresent
  have hperm := occupiedSlots_perm hget hhardware
  set others := (manager.removeDisplay request.uuid).2.registry.occupiedSlots
  have hanew : anew = manager.deviceBeside others :=
    device?_removed_createDisplay request hready hpresent hget
  have hown : hardware.connection.slot ∉ others :=
    (List.nodup_cons.mp (hperm.nodup_iff.mp hholds.nodup_slots)).1
  -- vacating the display's own slot changes the search only if it ends in that slot
  have hcases : anew = recreated ∨
      ∃ device, anew = some device ∧ device.connection.slot = hardware.connection.slot := by
    rw [hanew, hrecreated]
    exact deviceBeside_vacated (fun slot => hperm.mem_iff.trans List.mem_cons) hown hoffers
  refine ⟨?_, ?_, hcases, ?_, ?_, ?_⟩
  · intro device hsome
    exact notMem_occupiedSlots_of_createDisplay hready hpresent hsome
  · intro other
    exact (device?_createDisplay other hready hpresent).trans hrecreated.symm
  · intro hsome
    rcases hcases with hsame | ⟨device, hanew, -⟩
    · rwa [hsame]
    · exact Option.isSome_of_eq_some hanew
  · intro hrefusing
    refine ⟨fun slot hfree hslot hlimit hoffered => ?_, fun hlimit => ?_⟩
    · rw [hrecreated]
      exact isSome_deviceBeside_of_free hrefusing hfree hslot hlimit hoffered
    · -- the driver does not refuse the old slot, so it refuses none that is free now either
      have hrefusingOthers : ∀ refused ∈ driver.refusing, refused ∈ others := by
        intro refused hrefused
        rcases List.mem_cons.mp (hperm.mem_iff.mp (hrefusing refused hrefused)) with rfl | hother
        · exact absurd hrefused (Backend.notMem_refusing_of_grant? hoffers.grant)
        · exact hother
      have hslot : 0 ≤ hardware.connection.slot :=
        (hholds.backed record (Registry.get?_eq_some_iff.mp hget).1 hardware hhardware).slot_nonneg
      rw [hanew]
      exact isSome_deviceBeside_of_free hrefusingOthers hown hslot hlimit (.inl hoffers.available)
  · intro hforeign
    rw [hrecreated]
    exact deviceBeside_eq_none hforeign

/-- There are two slots.  Created anew, the display moves from the first to the second; after
it was removed it has a device as well. -/
theorem recreation_takes_second_slot :
    let request : DisplayRequest :=
      ⟨⟨Vector.replicate 32 0⟩, "client", "screen", 1920, 1080, 60000⟩
    let manager := ((new .standard ⟨⟨fun _ => some (.file [])⟩, .given,
        .fresh (.memory (.ofSlots [.available, .available])), 0⟩).run
          [.openDriver, .create request]).2
    let recreated := (manager.createDisplay request).2.device? request.uuid
    let anew :=
      ((manager.removeDisplay request.uuid).2.createDisplay request).2.device? request.uuid
    (recreated.isSome ∧ ∀ device, recreated = some device → device.connection.slot ≠ 0) ∧
      anew.isSome := by
  intro request manager recreated anew
  have hoffers : manager.host.driver.backend.Offers 0 := ⟨by decide +kernel, by decide +kernel⟩
  have hheld : manager.registry.occupiedSlots = [0] := by decide +kernel
  have hbeside := recreation_takes_another_slot .standard ⟨fun _ => some (.file [])⟩ .given
    (.memory (.ofSlots [.available, .available])) 0 [.openDriver, .create request] request
    (by decide +kernel) (by decide +kernel) ⟨⟨⟨1⟩, 0, true⟩, some "/dev/dri/card0"⟩
    (by decide +kernel) hoffers
  have hrefusing : ∀ refused ∈ manager.host.driver.backend.refusing,
      refused ∈ manager.registry.occupiedSlots := by
    have hnone : manager.host.driver.backend.refusing = [] := by decide +kernel
    simp [hnone]
  obtain ⟨hfree, -, -, -, hgranted, -⟩ := hbeside
  obtain ⟨hrecreated, hanew⟩ := hgranted hrefusing
  refine ⟨⟨?_, fun device hdevice => ?_⟩, hanew (by decide +kernel)⟩
  · have havailable : manager.host.driver.backend.status 1 = .available := by decide +kernel
    exact hrecreated 1 (by decide +kernel) (by decide) (by decide +kernel) (.inl havailable)
  · have hslot := hfree device hdevice
    rw [hheld] at hslot
    exact fun heq => hslot (heq ▸ List.mem_cons_self)

/-- There is one slot, and the display has it.  Created anew, the display has no device any
more, although the driver still offers the slot; after it was removed it gets the slot back. -/
theorem recreation_loses_device :
    let request : DisplayRequest :=
      ⟨⟨Vector.replicate 32 0⟩, "client", "screen", 1920, 1080, 60000⟩
    let manager := ((new .standard ⟨⟨fun _ => some (.file [])⟩, .given,
        .fresh (.memory (.ofSlots [.available])), 0⟩).run [.openDriver, .create request]).2
    manager.state = .ready ∧ manager.hardwareEnabled = true ∧
      (manager.device? request.uuid).map (fun device => device.connection.slot) = some 0 ∧
      manager.host.driver.backend.Offers 0 ∧
      (manager.createDisplay request).1 = .ok "VIRTUAL-00000000" ∧
      (manager.createDisplay request).2.device? request.uuid = none ∧
      (((manager.removeDisplay request.uuid).2.createDisplay request).2.device? request.uuid).map
        (fun device => device.connection.slot) = some 0 := by
  intro request manager
  exact ⟨by decide +kernel, by decide +kernel, by decide +kernel,
    ⟨by decide +kernel, by decide +kernel⟩, rfl, by decide +kernel, by decide +kernel⟩

end Manager

end VirtualMonitor
