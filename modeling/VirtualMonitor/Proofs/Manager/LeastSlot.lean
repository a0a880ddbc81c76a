import Mathlib.Order.Bounds.Defs
import VirtualMonitor.Proofs.Driver.SlotRows
import VirtualMonitor.Proofs.Manager.Calls
import VirtualMonitor.Proofs.Manager.HeldSlots

/-!
# A new display takes the least usable slot

A driver in memory adds its first missing slot, and not the one that was checked.  For a
search the two are the same as long as nobody sets statuses: the slots in front are held, and
so available (`serviced_run`), or they were passed over, and so belong to other drivers; none
of them is missing (`fst_add_of_isLeast`).

* `creation_takes_least_slot`: of the slots that nobody holds, the least that is available or
  missing is taken, after checking those in front of it; if it is missing, the device comes up
  in it.
-/

namespace VirtualMonitor

/-! ## Free slots and usable ones -/

/-- The slots that nobody holds among so many from a number on, in ascending order. -/
def freeSlots (held : List Int32) (start count : Nat) : List Int32 :=
  (slotsFrom start count).filter (· ∉ held)

section FreeSlots

variable {held : List Int32} {start count : Nat}

theorem freeSlots_succ_of_mem (hheld : Int32.ofNat start ∈ held) :
    freeSlots held start (count + 1) = freeSlots held (start + 1) count := by
  rw [freeSlots, slotsFrom_succ, List.filter_cons_of_neg (by simpa using hheld)]
  rfl

theorem freeSlots_succ_of_notMem (hfree : Int32.ofNat start ∉ held) :
    freeSlots held start (count + 1) =
      Int32.ofNat start :: freeSlots held (start + 1) count := by
  rw [freeSlots, slotsFrom_succ, List.filter_cons_of_pos (by simpa using hfree)]
  rfl

theorem freeSlots_add (held : List Int32) (start first second : Nat) :
    freeSlots held start (first + second) =
      freeSlots held start first ++ freeSlots held (start + first) second := by
  rw [freeSlots, slotsFrom_add, List.filter_append]
  rfl

end FreeSlots

/-- A slot below the limit that nobody holds, and that is available or can be added. -/
structure MemoryDriver.Usable (driver : MemoryDriver) (held : List Int32) (limit slot : Int32) :
    Prop where
  nonneg : 0 ≤ slot
  below : slot < limit
  free : slot ∉ held
  status : driver.status slot = .available ∨ driver.status slot = .notPresent

namespace Driver

def checkAll (slots : List Int32) (driver : Driver) : Driver :=
  { driver with trace := driver.trace ++ slots.map .checkDevice }

theorem checkAll_nil (driver : Driver) : driver.checkAll [] = driver := by
  rw [checkAll, List.map_nil, List.append_nil]

theorem checkAll_cons (slot : Int32) (slots : List Int32) (driver : Driver) :
    driver.checkAll (slot :: slots) = (driver.check slot).2.checkAll slots := by
  simp [checkAll, check, record]

theorem checkAll_append (first second : List Int32) (driver : Driver) :
    driver.checkAll (first ++ second) = (driver.checkAll first).checkAll second := by
  simp [checkAll]

end Driver

namespace Manager

/-! ## The search -/

section Search

variable {held : List Int32} {start first rest : Nat} {slot : Int32} {driver : Driver}

/-- The search passes over the slots that are held, and over those of other drivers after it
has checked them. -/
theorem searchSlots_of_foreign
    (hforeign : ∀ slot ∈ freeSlots held start first,
      driver.backend.status slot = .unrecognized) :
    searchSlots .present held (first + rest) (Int32.ofNat start) driver =
      searchSlots .present held rest (Int32.ofNat (start + first))
        (driver.checkAll (freeSlots held start first)) := by
  induction first generalizing start driver with
  | zero => rw [Nat.zero_add, Nat.add_zero, freeSlots, slotsFrom_zero, List.filter_nil,
      Driver.checkAll_nil]
  | succ first ih =>
      have hnext : Int32.ofNat start + 1 = Int32.ofNat (start + 1) :=
        (Int32.ofNat_add start 1).symm
      rw [Nat.add_right_comm, searchSlots, hnext, Nat.add_comm first 1, ← Nat.add_assoc start 1,
        Nat.add_comm 1 first]
      by_cases hheld : Int32.ofNat start ∈ held
      · rw [if_pos (List.contains_iff_mem.mpr hheld), freeSlots_succ_of_mem hheld]
        rw [freeSlots_succ_of_mem hheld] at hforeign
        exact ih hforeign
      · rw [freeSlots_succ_of_notMem hheld] at hforeign
        obtain ⟨hstatus, hlater⟩ := List.forall_mem_cons.mp hforeign
        rw [if_neg (mt List.contains_iff_mem.mp hheld), freeSlots_succ_of_notMem hheld,
          Driver.checkAll_cons]
        simp only [Binding.check, Driver.check, hstatus]
        exact ih hlater

theorem searchSlots_of_available (hfree : slot ∉ held)
    (havailable : driver.backend.status slot = .available) :
    searchSlots .present held (rest + 1) slot driver = (some slot, driver.checkAll [slot]) := by
  rw [searchSlots, if_neg (mt List.contains_iff_mem.mp hfree)]
  simp only [Binding.check, Driver.check, havailable]
  rfl

theorem searchSlots_of_added (hfree : slot ∉ held)
    (hmissing : driver.backend.status slot = .notPresent)
    (hadded : driver.backend.add.1 = some slot) :
    searchSlots .present held (rest + 1) slot driver =
      (some slot, (driver.checkAll [slot]).add.2) := by
  have hunheld : ¬held.contains slot = true := mt List.contains_iff_mem.mp hfree
  rw [searchSlots, if_neg hunheld]
  simp only [Binding.check, Driver.check, hmissing, Binding.add, Driver.add,
    Driver.backend_record, hadded, if_neg hunheld]
  rfl

end Search

variable {manager : Manager} {state : MemoryDriver} {slot : Int32}

def usableSlots (state : MemoryDriver) (manager : Manager) : Set Int32 :=
  {slot | state.Usable manager.registry.occupiedSlots manager.config.deviceSlots slot}

theorem status_of_notMem_usableSlots (hunusable : slot ∉ manager.usableSlots state)
    (hnonneg : 0 ≤ slot) (hbelow : slot < manager.config.deviceSlots)
    (hfree : slot ∉ manager.registry.occupiedSlots) : state.status slot = .unrecognized := by
  cases hstatus : state.status slot with
  | unrecognized => rfl
  | available => exact absurd ⟨hnonneg, hbelow, hfree, .inl hstatus⟩ hunusable
  | notPresent => exact absurd ⟨hnonneg, hbelow, hfree, .inr hstatus⟩ hunusable

/-- Where nothing is usable, all free slots are checked, and none is found. -/
theorem findFreeSlot_of_not_usable (hpresent : manager.binding = .present)
    (hmemory : manager.host.driver.backend = .memory state)
    (hnone : ∀ slot, slot ∉ manager.usableSlots state) :
    manager.findFreeSlot = (none, manager.host.driver.checkAll
      (freeSlots manager.registry.occupiedSlots 0 manager.config.deviceSlots.toInt.toNat)) := by
  have hforeign : ∀ slot ∈ freeSlots manager.registry.occupiedSlots 0
      manager.config.deviceSlots.toInt.toNat,
      manager.host.driver.backend.status slot = .unrecognized := by
    intro slot hslot
    obtain ⟨hsearched, hfree⟩ := List.mem_filter.mp hslot
    obtain ⟨hnonneg, hbelow⟩ := mem_slotsFrom_zero.mp hsearched
    rw [hmemory]
    exact status_of_notMem_usableSlots (hnone slot) hnonneg hbelow (of_decide_eq_true hfree)
  have hsearch := @searchSlots_of_foreign _ _ _ 0 _ hforeign
  rw [findFreeSlot, hpresent]
  exact hsearch

section Least

variable (hleast : IsLeast (manager.usableSlots state) slot)

include hleast

/-- A free slot in front of the least usable one belongs to another driver. -/
theorem status_of_lt_least {other : Int32} (hnonneg : 0 ≤ other) (hlt : other < slot)
    (hfree : other ∉ manager.registry.occupiedSlots) : state.status other = .unrecognized := by
  refine status_of_notMem_usableSlots (fun husable => ?_) hnonneg
    (Int32.lt_trans hlt hleast.1.below) hfree
  exact absurd (hleast.2 husable) (Int32.not_le.mpr hlt)

/-- A missing slot that is the least usable one is the first that is missing at all. -/
theorem fst_add_of_isLeast (hserviced : Serviced state manager)
    (hmissing : state.status slot = .notPresent) : state.add.1 = some slot := by
  refine MemoryDriver.fst_add_of_first hmissing fun other hnonneg hlt => ?_
  by_cases hheld : other ∈ manager.registry.occupiedSlots
  · rw [hserviced.available other hheld]
    exact nofun
  · rw [status_of_lt_least hleast hnonneg hlt hheld]
    exact nofun

/-- The free slots up to the least usable one are checked, and it is found.  If it is missing
it is added. -/
theorem findFreeSlot_of_isLeast (hpresent : manager.binding = .present)
    (hserviced : Serviced state manager) :
    let checked := manager.host.driver.checkAll
      (freeSlots manager.registry.occupiedSlots 0 (slot.toInt.toNat + 1))
    manager.findFreeSlot = (some slot,
      if state.status slot = .notPresent then checked.add.2 else checked) := by
  intro checked
  have hmemory := hserviced.backend_eq
  have husable : state.Usable _ _ slot := hleast.1
  have hslot : Int32.ofNat slot.toInt.toNat = slot := by
    rw [Int32.toNat_toInt]
    exact Int32.ofNat_toNatClampNeg slot husable.nonneg
  have hforeign : ∀ other ∈ freeSlots manager.registry.occupiedSlots 0 slot.toInt.toNat,
      manager.host.driver.backend.status other = .unrecognized := by
    intro other hother
    obtain ⟨hsearched, hfree⟩ := List.mem_filter.mp hother
    obtain ⟨hnonneg, hlt⟩ := mem_slotsFrom_zero.mp hsearched
    rw [hmemory]
    exact status_of_lt_least hleast hnonneg hlt (of_decide_eq_true hfree)
  -- the range consists of the slots in front, the slot itself and the slots behind
  obtain ⟨rest, hrest⟩ : ∃ rest, manager.config.deviceSlots.toInt.toNat =
      slot.toInt.toNat + (rest + 1) := by
    have hlow := Int32.le_iff_toInt_le.mp husable.nonneg
    have hzero : (0 : Int32).toInt = 0 := rfl
    have hlt := Int32.lt_iff_toInt_lt.mp husable.below
    exact ⟨manager.config.deviceSlots.toInt.toNat - slot.toInt.toNat - 1, by omega⟩
  set passed := manager.host.driver.checkAll
    (freeSlots manager.registry.occupiedSlots 0 slot.toInt.toNat)
  have hpassed : passed.backend = .memory state := hmemory
  have hchecked : checked = passed.checkAll [slot] := by
    have hlast : freeSlots manager.registry.occupiedSlots (0 + slot.toInt.toNat) 1 = [slot] := by
      rw [Nat.zero_add, freeSlots_succ_of_notMem (by rw [hslot]; exact husable.free), hslot]
      rfl
    rw [← Driver.checkAll_append, ← hlast, ← freeSlots_add]
  have hsearch := @searchSlots_of_foreign _ _ _ (rest + 1) _ hforeign
  rw [Nat.zero_add, hslot] at hsearch
  rw [findFreeSlot, hpresent, hrest, hchecked]
  refine hsearch.trans ?_
  rcases husable.status with havailable | hmissing
  · have hstatus : passed.backend.status slot = .available := by rwa [hpassed]
    rw [if_neg (by rw [havailable]; decide)]
    exact searchSlots_of_available husable.free hstatus
  · have hstatus : passed.backend.status slot = .notPresent := by rwa [hpassed]
    have hadded : passed.backend.add.1 = some slot := by
      rw [hpassed]
      exact fst_add_of_isLeast hleast hserviced hmissing
    rw [if_pos hmissing]
    exact searchSlots_of_added husable.free hstatus hadded

end Least

/-! ## The device -/

/-- A slot that was found is opened, and welcomed if the driver agrees. -/
theorem trace_provision_of_found {driver : Driver} (hpresent : manager.binding = .present)
    (hfound : manager.findFreeSlot = (some slot, driver)) (mode : Mode) :
    (manager.provision mode).2.trace = driver.trace ++
      (manager.provision mode).1.elim [.openDevice slot none] (Hardware.welcome mode) := by
  rw [provision_of_found hpresent hfound]
  cases driver.backend.grant? slot <;> simp [Hardware.welcome]

/-- An available slot gives a device unless the driver refuses to open it. -/
theorem slot_provision_of_found {driver : Driver} (hpresent : manager.binding = .present)
    (hfound : manager.findFreeSlot = (some slot, driver)) (hnonneg : 0 ≤ slot)
    (havailable : driver.backend.status slot = .available) (mode : Mode) :
    (manager.provision mode).1.map (fun hardware => hardware.connection.slot) =
      if slot ∈ driver.backend.refusing then none else some slot := by
  rw [provision_of_found hpresent hfound]
  by_cases hrefused : slot ∈ driver.backend.refusing
  · have hgrant : driver.backend.grant? slot = none :=
      Option.not_isSome_iff_eq_none.mp fun hgranted =>
        Backend.notMem_refusing_of_grant? hgranted hrefused
    simp only [hgrant, if_pos hrefused, Option.map_none]
  · obtain ⟨handle, hgrant⟩ := Option.isSome_iff_exists.mp
      (Backend.isSome_grant?_of_available hnonneg havailable hrefused)
    simp only [hgrant, if_neg hrefused, Option.map_some]

/-- The device comes up in the least usable slot, and no other slot changes. -/
theorem provision_of_isLeast (hleast : IsLeast (manager.usableSlots state) slot)
    (hpresent : manager.binding = .present) (hserviced : Serviced state manager) (mode : Mode) :
    let provided := manager.provision mode
    (∃ next, provided.2.backend = .memory next ∧ ∀ other,
      next.status other = if other = slot then .available else state.status other) ∧
      provided.1.map (fun hardware => hardware.connection.slot) =
        (if slot ∈ state.refusing then none else some slot) ∧
      provided.2.trace = manager.host.driver.trace ++
        ((freeSlots manager.registry.occupiedSlots 0 (slot.toInt.toNat + 1)).map .checkDevice ++
          (if state.status slot = .notPresent then [.addDevice] else []) ++
          provided.1.elim [.openDevice slot none] (Hardware.welcome mode)) := by
  intro provided
  have hfound := findFreeSlot_of_isLeast hleast hpresent hserviced
  have htrace := trace_provision_of_found hpresent hfound mode
  have hdevice := slot_provision_of_found hpresent hfound hleast.1.nonneg
  have hbackend := manager.backend_provision mode
  rw [hfound] at hbackend
  set checked := manager.host.driver.checkAll
    (freeSlots manager.registry.occupiedSlots 0 (slot.toInt.toNat + 1))
  have hchecked : checked.backend = .memory state := hserviced.backend_eq
  -- an available slot is opened as it is, a missing one is added first
  rcases hleast.1.status with havailable | hmissing
  · have hpresentSlot : ¬state.status slot = .notPresent := by rw [havailable]; exact nofun
    simp only [if_neg hpresentSlot, hchecked] at htrace hdevice hbackend ⊢
    refine ⟨⟨state, hbackend, fun other => ?_⟩, hdevice havailable mode, ?_⟩
    · split
      · rename_i hsame
        rw [hsame, havailable]
      · rfl
    · rw [List.append_nil, ← List.append_assoc]
      exact htrace
  · have hadded := fst_add_of_isLeast hleast hserviced hmissing
    have hstatus := MemoryDriver.status_add hmissing hadded
    have hlater : checked.add.2.backend = .memory state.add.2 := by
      rw [show checked.add.2.backend = checked.backend.add.2 from rfl, hchecked]
      rfl
    -- adding a device does not change what the driver refuses to open
    have hrefusing : (Backend.memory state.add.2).refusing = state.refusing := state.refusing_add
    simp only [if_pos hmissing, hlater] at htrace hdevice hbackend ⊢
    refine ⟨⟨state.add.2, hbackend, hstatus⟩, ?_, ?_⟩
    · have hopened := hdevice ((hstatus slot).trans (if_pos rfl)) mode
      rwa [hrefusing] at hopened
    · rw [Driver.trace_add] at htrace
      rw [← List.append_assoc, ← List.append_assoc]
      exact htrace

/-- Where nothing is usable, nothing is asked of the driver but the status of free slots. -/
theorem provision_of_not_usable (hpresent : manager.binding = .present)
    (hmemory : manager.host.driver.backend = .memory state)
    (hnone : ∀ slot, slot ∉ manager.usableSlots state) (mode : Mode) :
    manager.provision mode = (none, manager.host.driver.checkAll
      (freeSlots manager.registry.occupiedSlots 0 manager.config.deviceSlots.toInt.toNat)) :=
  provision_of_not_found (findFreeSlot_of_not_usable hpresent hmemory hnone) mode

/-! ## The display -/

/-- Take any run on a driver in memory, whatever it opens and whatever it says about slots,
in which nobody sets statuses afterwards, and create a display with the driver ready and real
monitors enabled.

* If some slot that can be searched is held by nobody and is available or missing, take the
  least such slot.  The free slots up to it are checked in ascending order; it is added if it
  is missing, and the driver adds just this slot.  Afterwards it is available, and no other
  slot has changed.  Then it is opened.  If the driver does not refuse to open it, the display
  has a device in that slot, and otherwise none.
* If there is no such slot, all free slots that can be searched are checked, once and in
  ascending order.  None is added or opened, and the display has no device.

A display that is replaced is given up after that. -/
theorem creation_takes_least_slot (config : Config) (files : Files) (source : DriverSource)
    (initial : MemoryDriver) (probes : Nat) (operations : List Operation)
    (hkeeps : ∀ step ∈ (new config ⟨files, source, .fresh (.memory initial), probes⟩).history
      operations, step.KeepsSlots)
    (request : DisplayRequest) :
    let manager := ((new config ⟨files, source, .fresh (.memory initial), probes⟩).run operations).2
    let trace := manager.host.driver.trace
    let held := manager.registry.occupiedSlots
    let checks (count : Nat) : List Call := (freeSlots held 0 count).map .checkDevice
    let farewell := (manager.registry.get? request.uuid.text).elim []
      (Record.onDevice Hardware.farewell)
    let display := request.display config.displayNameStem
    let after := (manager.createDisplay request).2
    manager.state = .ready → manager.hardwareEnabled = true →
      ∃ state hardware?, manager.host.driver.backend = .memory state ∧
        after.registry.get? request.uuid.text = some ⟨display, hardware?⟩ ∧
        (∀ slot, IsLeast {slot | state.Usable held config.deviceSlots slot} slot →
          (state.status slot = .notPresent → state.add.1 = some slot) ∧
          (∃ next, after.host.driver.backend = .memory next ∧ ∀ other,
            next.status other = if other = slot then .available else state.status other) ∧
          hardware?.map (fun hardware => hardware.connection.slot) =
            (if slot ∈ state.refusing then none else some slot) ∧
          after.host.driver.trace = trace ++ (checks (slot.toInt.toNat + 1) ++
            (if state.status slot = .notPresent then [.addDevice] else []) ++
            hardware?.elim [.openDevice slot none] (Hardware.welcome display.mode)) ++
            farewell) ∧
        ((∀ slot, ¬state.Usable held config.deviceSlots slot) →
          after.host.driver.backend = .memory state ∧ hardware? = none ∧
          after.host.driver.trace =
            trace ++ checks config.deviceSlots.toInt.toNat ++ farewell) := by
  intro manager trace held checks farewell display after hready henabled
  have hholds : Holds manager.registry.records manager.host.driver :=
    holds_run config files source (.memory initial) probes operations
  have hconfig : manager.config = config := config_run _ operations
  -- no slot that a record holds has vanished, so the driver adds none of these
  obtain ⟨state, hserviced⟩ : ∃ state, Serviced state manager :=
    serviced_run (serviced_new config files source initial probes) operations hkeeps
  have hpresent := binding_of_hardwareEnabled henabled
  have hisReady : manager.state.isReady = true := beq_iff_eq.mpr hready
  -- what the driver becomes, its calls and the new record all come from provisioning
  have hbackend : after.host.driver.backend = (manager.provision display.mode).2.backend := by
    rw [backend_provision]
    exact backend_createDisplay request hisReady
  have htrace : after.host.driver.trace =
      (manager.provision display.mode).2.trace ++ farewell := by
    simp only [display, ← hconfig]
    exact trace_createDisplay request hholds hisReady
  have hregistered : after.registry.get? request.uuid.text =
      some ⟨display, (manager.provision display.mode).1⟩ := by
    simp only [display, after, ← hconfig]
    rw [registry_createDisplay request hisReady]
    exact Registry.get?_insert_self ⟨request.display manager.config.displayNameStem, _⟩ _
  refine ⟨state, (manager.provision display.mode).1, hserviced.backend_eq, hregistered, ?_, ?_⟩
  · intro slot husable
    have hleast : IsLeast (manager.usableSlots state) slot := by
      rw [← hconfig] at husable
      exact husable
    obtain ⟨hnext, hdevice, hcalls⟩ := provision_of_isLeast hleast hpresent hserviced display.mode
    refine ⟨fst_add_of_isLeast hleast hserviced, ?_, hdevice, ?_⟩
    · rwa [hbackend]
    · rw [htrace, hcalls]
  · intro hnone
    have hunusable : ∀ slot, slot ∉ manager.usableSlots state := by
      rw [← hconfig] at hnone
      exact hnone
    have hprovided := provision_of_not_usable hpresent hserviced.backend_eq hunusable display.mode
    rw [hbackend, htrace, hprovided, hconfig]
    exact ⟨hserviced.backend_eq, rfl, rfl⟩

/-- A display holds the first of four slots, and the second belongs to another driver.  What
the driver refuses changes, the statuses do not.  The next display passes over the second
slot and gets the third, which the driver adds. -/
theorem creation_takes_least_slot_third :
    let request (digit : Fin 16) : DisplayRequest :=
      ⟨⟨Vector.replicate 32 digit⟩, "client", "screen", 1920, 1080, 60000⟩
    let initial : MemoryDriver := .ofSlots [.available, .unrecognized, .notPresent, .notPresent]
    let manager := ((new .standard ⟨⟨fun _ => some (.file [])⟩, .given, .fresh (.memory initial),
      0⟩).run [.openDriver, .create (request 0), .setMemory { initial with refusing := [3] }]).2
    let after := (manager.createDisplay (request 1)).2
    ∃ hardware, after.device? (request 1).uuid = some hardware ∧ hardware.connection.slot = 2 ∧
      after.host.driver.trace = manager.host.driver.trace ++
        ([.checkDevice 1, .checkDevice 2, .addDevice] ++ hardware.welcome ⟨1920, 1080, 60⟩) := by
  intro request initial manager after
  have hkeeps : ∀ step ∈ (new .standard ⟨⟨fun _ => some (.file [])⟩, .given,
      .fresh (.memory initial), 0⟩).history
        [.openDriver, .create (request 0), .setMemory { initial with refusing := [3] }],
      step.KeepsSlots := by
    simp only [history, List.forall_mem_cons, List.not_mem_nil, false_implies, implies_true,
      and_true]
    refine ⟨nofun, nofun, fun state hset => ?_⟩
    cases hset
    decide +kernel
  obtain ⟨state, hardware?, hmemory, hregistered, hleast, -⟩ := creation_takes_least_slot .standard
    ⟨fun _ => some (.file [])⟩ .given initial 0 _ hkeeps (request 1) (by decide +kernel)
    (by decide +kernel)
  have hstate : manager.host.driver.backend = .memory { initial with refusing := [3] } := by
    decide +kernel
  obtain rfl : { initial with refusing := [3] } = state :=
    Backend.memory.inj (hstate.symm.trans hmemory)
  have husable : IsLeast {slot | MemoryDriver.Usable { initial with refusing := [3] }
      manager.registry.occupiedSlots Config.standard.deviceSlots slot} 2 := by
    have hheld : manager.registry.occupiedSlots = [0] := by decide +kernel
    rw [hheld]
    refine ⟨⟨by decide, by decide, by decide, .inr (by decide)⟩, fun other hother => ?_⟩
    by_contra hlt
    have hnonneg := Int32.le_iff_toInt_le.mp hother.nonneg
    have hbelow := Int32.lt_iff_toInt_lt.mp (Int32.not_le.mp hlt)
    have hnumbers : (0 : Int32).toInt = 0 ∧ (1 : Int32).toInt = 1 ∧ (2 : Int32).toInt = 2 := by
      decide
    -- the slots in front are held or belong to another driver
    have hcases : other.toInt = (0 : Int32).toInt ∨ other.toInt = (1 : Int32).toInt := by omega
    rcases hcases with hzero | hone
    · exact hother.free (by rw [Int32.toInt_inj.mp hzero]; exact List.mem_cons_self)
    · have hstatus := hother.status
      rw [Int32.toInt_inj.mp hone] at hstatus
      exact absurd hstatus (by decide)
  obtain ⟨-, -, hslot, htrace⟩ := hleast 2 husable
  rw [if_neg (by decide)] at hslot
  obtain ⟨hardware, rfl, hconnection⟩ := Option.map_eq_some_iff.mp hslot
  have hnew : (manager.registry.get? (request 1).uuid.text) = none := by decide +kernel
  refine ⟨hardware, by rw [device?, hregistered]; rfl, hconnection, ?_⟩
  have hchecks : (freeSlots manager.registry.occupiedSlots 0 3).map Call.checkDevice =
      [.checkDevice 1, .checkDevice 2] := by decide +kernel
  have hcount : (2 : Int32).toInt.toNat + 1 = 3 := by decide
  beta_reduce at htrace
  rw [hnew, hcount, hchecks, if_pos (by decide)] at htrace
  have hmode : ((request 1).display Config.standard.displayNameStem).mode = ⟨1920, 1080, 60⟩ := by
    decide +kernel
  rw [htrace, Option.elim_none, List.append_nil, Option.elim_some, hmode]
  rfl

end Manager

end VirtualMonitor
