import VirtualMonitor.Proofs.Manager.Recreation
import VirtualMonitor.Proofs.Manager.Session

/-!
# Held slots stay available

A manager changes the statuses of a driver in memory only by adding a device, and that makes
a slot available.  So unless statuses are set from outside, an available slot stays available
(`retains_perform`), and since every slot was available when it was opened, the slots of all
displays are available after every run (`serviced_run`).
-/

namespace VirtualMonitor

/-! ## What stays available -/

namespace Backend

/-- The statuses of a driver in memory, slot by slot; a scripted driver has none. -/
def row : Backend → List SlotStatus
  | .memory state => state.slots
  | .scripted _ => []

/-- A driver in memory stays one, and its available slots stay available. -/
def Retains (first second : Backend) : Prop :=
  ∀ state, first = .memory state → ∃ next, second = .memory next ∧
    ∀ slot, state.status slot = .available → next.status slot = .available

variable {first second third : Backend}

theorem Retains.of_eq (heq : second = first) : first.Retains second :=
  fun state hfirst => ⟨state, heq.trans hfirst, fun _ => id⟩

theorem Retains.refl (backend : Backend) : backend.Retains backend := .of_eq rfl

theorem Retains.trans (hfirst : first.Retains second) (hsecond : second.Retains third) :
    first.Retains third := by
  intro state hstate
  obtain ⟨next, hnext, havailable⟩ := hfirst state hstate
  obtain ⟨last, hlast, hlater⟩ := hsecond next hnext
  exact ⟨last, hlast, fun slot hslot => hlater slot (havailable slot hslot)⟩

theorem retains_add (backend : Backend) : backend.Retains backend.add.2 := by
  rintro state rfl
  exact ⟨state.add.2, rfl, fun slot => MemoryDriver.status_add_of_available⟩

theorem retains_look (occupied : List Int32) (index : Int32) (backend : Backend) :
    backend.Retains (backend.look occupied index).2 := by
  unfold look
  split
  · exact .refl backend
  · split
    · exact .refl backend
    · exact .refl backend
    · exact backend.retains_add

theorem retains_findSlot (occupied : List Int32) (remaining : Nat) (index : Int32)
    (backend : Backend) : backend.Retains (backend.findSlot occupied remaining index).2 := by
  induction remaining generalizing index backend with
  | zero => exact .refl backend
  | succ remaining ih =>
      have hlook := backend.retains_look occupied index
      cases hfound : (backend.look occupied index).1 with
      | none =>
          rw [findSlot_succ_of_none hfound]
          exact hlook.trans (ih (index + 1) _)
      | some slot => rwa [findSlot_succ_of_some hfound]

theorem retains_reload (backend : Backend) : backend.Retains backend.reload := by
  rintro state rfl
  exact Retains.refl _ state rfl

theorem retains_setScript (script : Script) (backend : Backend) :
    backend.Retains (backend.setScript script) := by
  rintro state rfl
  exact Retains.refl _ state rfl

/-- What a driver in memory refuses, and whether its devices are alive, does not matter. -/
theorem retains_setMemory {backend : Backend} {state : MemoryDriver}
    (hrow : state.slots = backend.row) : backend.Retains (backend.setMemory state) := by
  rintro before rfl
  have hslots : state.slots = before.slots := hrow
  refine ⟨state, rfl, fun slot havailable => ?_⟩
  rwa [MemoryDriver.status, hslots]

end Backend

namespace Registry

theorem backend_releaseAll (registry : Registry) (driver : Driver) :
    (registry.releaseAll driver).backend = driver.backend := by
  unfold releaseAll
  generalize registry.records = records
  induction records generalizing driver with
  | nil => rfl
  | cons record records ih => rw [List.foldl_cons, ih, Record.backend_release]

end Registry

namespace Manager

/-! ## One step -/

theorem backend_findLoss (records : List Record) (driver : Driver) :
    (findLoss records driver).2.backend = driver.backend := by
  induction records generalizing driver with
  | nil => rfl
  | cons record records ih =>
      unfold findLoss
      split
      · rename_i hardware _ _
        have halive : (hardware.connection.alive driver).2.backend = driver.backend := rfl
        split
        rename_i code after hanswer
        rw [hanswer] at halive
        split
        · exact halive
        · rw [ih, halive]
      · exact ih driver

theorem backend_remode (width height millihertz : UInt32) (record : Record) (driver : Driver) :
    (remode width height millihertz record driver).2.backend = driver.backend := by
  unfold remode
  split
  · rfl
  · exact Connection.backend_connect _ _ driver

theorem retains_probe (candidates : List String) (host : Host) :
    host.driver.backend.Retains (host.probe candidates).2.driver.backend := by
  unfold Host.probe
  split
  · exact .refl _
  · exact .refl _
  · split
    · exact Backend.retains_reload _
    · exact .refl _

theorem retains_findFreeSlot (manager : Manager) :
    manager.host.driver.backend.Retains manager.findFreeSlot.2.backend := by
  cases hbinding : manager.binding with
  | absent =>
      rw [findFreeSlot_of_absent hbinding]
      exact .refl _
  | present =>
      have hbackend := congrArg Prod.snd (findFreeSlot_of_present hbinding)
      rw [show manager.findFreeSlot.2.backend = _ from hbackend]
      exact Backend.retains_findSlot _ _ _ _

theorem backend_provision (mode : Mode) (manager : Manager) :
    (manager.provision mode).2.backend = manager.findFreeSlot.2.backend := by
  obtain ⟨slot?, driver, hsearch⟩ :
      ∃ slot? driver, manager.findFreeSlot = (slot?, driver) := ⟨_, _, rfl⟩
  rw [hsearch]
  cases slot? with
  | none => rw [provision_of_not_found hsearch]
  | some slot =>
      -- without a driver no slot is found
      have hpresent : manager.binding = .present := by
        cases hbinding : manager.binding with
        | present => rfl
        | absent =>
            rw [findFreeSlot_of_absent hbinding] at hsearch
            cases hsearch
      rw [provision_of_found hpresent hsearch]
      cases driver.backend.grant? slot <;> rfl

theorem backend_createDisplay {manager : Manager} (request : DisplayRequest)
    (hready : manager.state.isReady = true) :
    (manager.createDisplay request).2.host.driver.backend = manager.findFreeSlot.2.backend := by
  rw [driver_createDisplay request hready]
  split
  · rw [Record.backend_release, backend_provision]
  · exact backend_provision _ manager

/-- The step leaves the statuses of a driver in memory to the manager.  What the driver
refuses, and whether its devices are alive, may be changed. -/
def Step.KeepsSlots (step : Step) : Prop :=
  ∀ state, step.operation = .setMemory state → state.slots = step.before.host.driver.backend.row

/-- Unless statuses are set, the available slots of a driver in memory stay available. -/
theorem retains_perform {step : Step} (hkeeps : step.KeepsSlots) :
    step.before.host.driver.backend.Retains step.after.host.driver.backend := by
  obtain ⟨manager, operation⟩ := step
  unfold Step.after
  cases operation with
  | openDriver =>
      simp only [perform, openDriver]
      split
      · exact .refl _
      · exact retains_probe _ manager.host
  | closeDriver => exact .of_eq (Registry.backend_releaseAll manager.registry _)
  | create request =>
      simp only [perform]
      by_cases hready : manager.state.isReady = true
      · rw [backend_createDisplay request hready]
        exact retains_findFreeSlot manager
      · rw [createDisplay_of_not_isReady request hready]
        exact .refl _
  | remove uuid =>
      simp only [perform]
      cases hget : manager.registry.get? uuid.text with
      | none =>
          rw [removeDisplay_of_get?_eq_none hget]
          exact .refl _
      | some record =>
          rw [removeDisplay_of_get? hget]
          exact .of_eq (Record.backend_release record _)
  | reconfigure name width height millihertz =>
      simp only [perform, reconfigure]
      split
      · exact .refl _
      · exact .of_eq (backend_remode width height millihertz _ _)
  | reconfigureIsolated name width height millihertz isolated =>
      simp only [perform, reconfigureIsolated, reconfigure]
      split
      · exact .refl _
      · exact .of_eq (backend_remode width height millihertz _ _)
  | frame name call =>
      simp only [perform, frame]
      split <;> exact .refl _
  | subscribe subscription =>
      cases subscription <;> simp only [perform, startWatchdog] <;> split <;> exact .refl _
  | scan =>
      have hlooked := backend_findLoss manager.registry.records manager.host.driver
      have hscanned := manager.scanned_scan
      simp only [perform]
      generalize manager.scan = outcome at hscanned ⊢
      -- only a watchdog that closes the driver does more than ask
      cases hscanned with
      | idle still => exact .refl _
      | healthy running => exact .of_eq hlooked
      | @lost reaction loss running found =>
          cases reaction with
          | report => exact .of_eq hlooked
          | markFailed => exact .of_eq hlooked
          | closeDriver =>
              exact .of_eq ((Registry.backend_releaseAll manager.registry _).trans hlooked)
  | setMemory state => exact Backend.retains_setMemory (hkeeps state rfl)
  | setScript script => exact Backend.retains_setScript script _
  | _ => exact .refl _

/-! ## Runs -/

/-- The driver is in memory in the given state, and the slots of all displays are
available. -/
structure Serviced (state : MemoryDriver) (manager : Manager) : Prop where
  backend_eq : manager.host.driver.backend = .memory state
  available : ∀ slot ∈ manager.registry.occupiedSlots, state.status slot = .available

theorem slot?_remode (width height millihertz : UInt32) (record : Record) (driver : Driver) :
    (remode width height millihertz record driver).1.slot? = record.slot? := by
  unfold remode Record.slot?
  split <;> rename_i hhardware <;> simp [hhardware]

/-- A device is provisioned in a slot that is available at that moment. -/
theorem available_of_provided {manager : Manager} {mode : Mode} {outcome : Option Hardware × Driver}
    {state : MemoryDriver} (hprovided : Provided manager mode outcome)
    (hmemory : outcome.2.backend = .memory state) :
    ∀ hardware ∈ outcome.1, state.status hardware.connection.slot = .available := by
  cases hprovided with
  | refused asked => simp
  | @granted driver slot handle asked free granted =>
      intro hardware hhardware
      obtain rfl := Option.some_inj.mp hhardware
      have hdriver : driver.backend = .memory state := hmemory
      rw [hdriver] at granted
      simp only [Backend.grant?, MemoryDriver.grant?] at granted
      split at granted
      · rename_i hopen
        exact hopen.1
      · cases granted

/-- What is held was available before the step, and stays so, or it has just been opened. -/
theorem Serviced.perform {step : Step} {state : MemoryDriver}
    (hserviced : Serviced state step.before) (hkeeps : step.KeepsSlots) :
    ∃ next, Serviced next step.after := by
  obtain ⟨next, hnext, hretained⟩ := retains_perform hkeeps state hserviced.backend_eq
  have hrecords := forall_mem_of_effect
    (P := fun record => ∀ slot ∈ record.slot?, next.status slot = .available)
    (step.before.effect_perform step.operation) ?_ ?_ ?_
  · refine ⟨next, hnext, fun slot hslot => ?_⟩
    obtain ⟨record, hrecord, hheld⟩ := List.mem_filterMap.mp hslot
    exact hrecords record hrecord slot hheld
  · intro request outcome hprovided hbackend slot hslot
    obtain ⟨hardware, hhardware, rfl⟩ := Option.map_eq_some_iff.mp hslot
    exact available_of_provided hprovided (hbackend.symm.trans hnext) hardware hhardware
  · intro record width height millihertz driver havailable
    rwa [slot?_remode]
  · intro record hrecord slot hslot
    exact hretained slot
      (hserviced.available slot (List.mem_filterMap.mpr ⟨record, hrecord, hslot⟩))

/-- On a driver in memory whose statuses nobody sets, the slots of all displays are available
after every run. -/
theorem serviced_run {state : MemoryDriver} {manager : Manager} (hserviced : Serviced state manager)
    (operations : List Operation) (hkeeps : ∀ step ∈ manager.history operations, step.KeepsSlots) :
    ∃ last, Serviced last (manager.run operations).2 := by
  induction operations generalizing state manager with
  | nil => exact ⟨state, hserviced⟩
  | cons operation operations ih =>
      obtain ⟨hfirst, hrest⟩ := List.forall_mem_cons.mp hkeeps
      obtain ⟨next, hnext⟩ := hserviced.perform hfirst
      exact ih hnext hrest

theorem serviced_new (config : Config) (files : Files) (source : DriverSource)
    (initial : MemoryDriver) (probes : Nat) :
    Serviced initial (new config ⟨files, source, .fresh (.memory initial), probes⟩) where
  backend_eq := rfl
  available := by simp [new, Registry.empty, Registry.occupiedSlots]

end Manager

end VirtualMonitor
