import VirtualMonitor.Manager.Operation
import VirtualMonitor.Proofs.Manager.Holding

/-!
# What an operation does to records and driver

`Effect manager registry driver` lists all that one operation can do to the records
of a manager and to the driver of its host, and `effect_perform` says that the list is
complete.  An invariant on records and driver is proved along it, one case for each
kind of effect; `forall_mem_of_effect` does so for whatever holds of each record by
itself.

Two more case distinctions help with the rest of a manager.  `Scanned` lists the ends that
a look of the watchdog can come to, and `perform_of_not_isLifecycle` sets apart the
operations that change nothing but the host and the registry.

`run_induction` carries what every operation keeps to whole runs.
-/

namespace VirtualMonitor.Manager

/-- The records and the driver that one operation can leave behind. -/
inductive Effect (manager : Manager) : Registry → Driver → Prop where
  /-- No record changes, and no handle is touched. -/
  | kept {driver : Driver} (asked : Asked manager.host.driver driver) :
      Effect manager manager.registry driver
  /-- A frame call is made on the device of a record. -/
  | used {record : Record} {hardware : Hardware} (mem : record ∈ manager.registry.records)
      (backed : record.hardware? = some hardware) (call : FrameCall) :
      Effect manager manager.registry (hardware.connection.frame call manager.host.driver).2
  /-- The watchdog looks at the displays. -/
  | looked :
      Effect manager manager.registry
        (findLoss manager.registry.records manager.host.driver).2
  /-- A display joins. -/
  | created (request : DisplayRequest) {outcome : Option Hardware × Driver}
      (provided : Provided manager (request.display manager.config.displayNameStem).mode outcome)
      (absent : manager.registry.get? request.uuid.text = none) :
      Effect manager
        (manager.registry.insert
          ⟨request.display manager.config.displayNameStem, outcome.1⟩).2
        outcome.2
  /-- A display takes the place of another, which is given up. -/
  | recreated (request : DisplayRequest) {outcome : Option Hardware × Driver} {record : Record}
      (provided : Provided manager (request.display manager.config.displayNameStem).mode outcome)
      (present : manager.registry.get? request.uuid.text = some record) :
      Effect manager
        (manager.registry.insert
          ⟨request.display manager.config.displayNameStem, outcome.1⟩).2
        (record.release outcome.2)
  /-- A display leaves and is given up. -/
  | removed {record : Record} (present : manager.registry.get? record.uuid = some record) :
      Effect manager (manager.registry.remove record.uuid).2
        (record.release manager.host.driver)
  /-- A display gets another mode. -/
  | remoded {record : Record} (present : manager.registry.get? record.uuid = some record)
      (width height millihertz : UInt32) :
      Effect manager
        (manager.registry.replace
          (remode width height millihertz record manager.host.driver).1)
        (remode width height millihertz record manager.host.driver).2
  /-- All displays are given up. -/
  | closed :
      Effect manager .empty (manager.registry.releaseAll manager.host.driver)
  /-- The watchdog looks at the displays, and then all are given up. -/
  | lookedAndClosed :
      Effect manager .empty
        (manager.registry.releaseAll
          (findLoss manager.registry.records manager.host.driver).2)

@[simp] theorem uuid_remode (width height millihertz : UInt32) (record : Record)
    (driver : Driver) :
    (remode width height millihertz record driver).1.uuid = record.uuid := by
  unfold remode
  split <;> rfl

/-! ## The ways a look can end -/

/-- The outcomes that a look of the watchdog can have. -/
inductive Scanned (manager : Manager) : Option Loss × Manager → Prop where
  /-- A watchdog that does not run does not look. -/
  | idle (still : ∀ reaction, manager.watchdog ≠ .running reaction) :
      Scanned manager (none, manager)
  /-- No device is found gone, and the watchdog goes on. -/
  | healthy {reaction : Reaction} (running : manager.watchdog = .running reaction) :
      Scanned manager
        (none, manager.withDriver (findLoss manager.registry.records manager.host.driver).2)
  /-- A device is found gone.  That finishes the watchdog, and its subscriber reacts. -/
  | lost {reaction : Reaction} {loss : Loss} (running : manager.watchdog = .running reaction)
      (found : (findLoss manager.registry.records manager.host.driver).1 = some loss) :
      Scanned manager
        (some loss, react
          { manager.withDriver (findLoss manager.registry.records manager.host.driver).2 with
            watchdog := .finished } reaction)

theorem scanned_scan (manager : Manager) : Scanned manager manager.scan := by
  unfold scan
  split
  · rename_i habsent
    exact .idle fun reaction => by simp [habsent]
  · rename_i hfinished
    exact .idle fun reaction => by simp [hfinished]
  · rename_i reaction hrunning
    have hhealthy : Scanned manager
        (none, manager.withDriver (findLoss manager.registry.records manager.host.driver).2) :=
      .healthy hrunning
    split <;> rename_i hloss
    · rwa [hloss] at hhealthy
    · have hlost := Scanned.lost hrunning (congrArg Prod.fst hloss)
      rwa [hloss] at hlost

/-- Where no watchdog runs, looking does nothing. -/
theorem scan_of_not_running {manager : Manager}
    (hwatchdog : ∀ reaction, manager.watchdog ≠ .running reaction) :
    manager.scan = (none, manager) := by
  have hscanned := manager.scanned_scan
  generalize manager.scan = outcome at hscanned ⊢
  cases hscanned with
  | idle still => rfl
  | healthy running => exact absurd running (hwatchdog _)
  | lost running found => exact absurd running (hwatchdog _)

/-! ## The list is complete -/

theorem asked_probe (candidates : List String) (host : Host) :
    Asked host.driver (host.probe candidates).2.driver := by
  unfold Host.probe
  split
  · exact .refl _
  · exact .refl _
  · split
    · exact .withBackend _ host.driver.backend.handleOf_reload
    · exact .refl _

theorem effect_openDriver (manager : Manager) :
    Effect manager manager.openDriver.registry manager.openDriver.host.driver := by
  unfold openDriver
  split
  · exact .kept (.refl _)
  · exact .kept (asked_probe manager.config.libraryCandidates manager.host)

theorem registry_createDisplay {manager : Manager} (request : DisplayRequest)
    (hready : manager.state.isReady = true) :
    (manager.createDisplay request).2.registry =
      (manager.registry.insert ⟨request.display manager.config.displayNameStem,
        (manager.provision (request.display manager.config.displayNameStem).mode).1⟩).2 := by
  simp only [createDisplay, hready, if_true]

/-- The new device is there before the replaced one is given up. -/
theorem driver_createDisplay {manager : Manager} (request : DisplayRequest)
    (hready : manager.state.isReady = true) :
    (manager.createDisplay request).2.host.driver =
      match manager.registry.get? request.uuid.text with
      | some replaced =>
          replaced.release
            (manager.provision (request.display manager.config.displayNameStem).mode).2
      | none => (manager.provision (request.display manager.config.displayNameStem).mode).2 := by
  simp only [createDisplay, hready, if_true]
  rfl

theorem createDisplay_of_not_isReady {manager : Manager} (request : DisplayRequest)
    (hready : ¬manager.state.isReady = true) :
    manager.createDisplay request = (.error .driverNotReady, manager) :=
  if_neg hready

theorem effect_createDisplay (request : DisplayRequest) (manager : Manager) :
    Effect manager (manager.createDisplay request).2.registry
      (manager.createDisplay request).2.host.driver := by
  by_cases hready : manager.state.isReady = true
  · have hprovided := manager.provided_provision
      (request.display manager.config.displayNameStem).mode
    rw [registry_createDisplay request hready, driver_createDisplay request hready]
    cases hget : manager.registry.get? request.uuid.text with
    | none => exact .created request hprovided hget
    | some record => exact .recreated request hprovided hget
  · rw [createDisplay_of_not_isReady request hready]
    exact .kept (.refl _)

theorem removeDisplay_of_get? {manager : Manager} {uuid : Uuid} {record : Record}
    (hget : manager.registry.get? uuid.text = some record) :
    manager.removeDisplay uuid =
      (.ok (), { manager.withDriver (record.release manager.host.driver) with
        registry := (manager.registry.remove uuid.text).2 }) := by
  rw [← Registry.fst_remove] at hget
  unfold removeDisplay
  split <;> rename_i hremove <;> simp_all

theorem removeDisplay_of_get?_eq_none {manager : Manager} {uuid : Uuid}
    (hget : manager.registry.get? uuid.text = none) :
    manager.removeDisplay uuid = (.error (.notFound uuid.text), manager) := by
  rw [← Registry.fst_remove] at hget
  unfold removeDisplay
  split <;> rename_i hremove <;> simp_all

theorem effect_removeDisplay (uuid : Uuid) (manager : Manager) :
    Effect manager (manager.removeDisplay uuid).2.registry
      (manager.removeDisplay uuid).2.host.driver := by
  cases hget : manager.registry.get? uuid.text with
  | none =>
      rw [removeDisplay_of_get?_eq_none hget]
      exact .kept (.refl _)
  | some record =>
      rw [removeDisplay_of_get? hget]
      -- the effect names the record by its own key
      have hkey := (Registry.get?_eq_some_iff.mp hget).2
      rw [← hkey] at hget ⊢
      exact .removed hget

theorem effect_reconfigure (name : String) (width height millihertz : UInt32)
    (manager : Manager) :
    Effect manager (manager.reconfigure name width height millihertz).registry
      (manager.reconfigure name width height millihertz).host.driver := by
  unfold reconfigure
  split
  · exact .kept (.refl _)
  · rename_i record hnamed
    exact .remoded (Registry.get?_of_named? hnamed) width height millihertz

theorem effect_frame (name : String) (call : FrameCall) (manager : Manager) :
    Effect manager (manager.frame name call).2.registry
      (manager.frame name call).2.host.driver := by
  unfold frame
  split
  · exact .kept (.refl _)
  · rename_i connection hconnection
    obtain ⟨hardware, hbacked, rfl⟩ := Option.map_eq_some_iff.mp hconnection
    obtain ⟨record, hnamed, hrecord⟩ := Option.bind_eq_some_iff.mp hbacked
    exact .used (List.mem_of_find?_eq_some hnamed) hrecord call

theorem effect_scan (manager : Manager) :
    Effect manager manager.scan.2.registry manager.scan.2.host.driver := by
  have hscanned := manager.scanned_scan
  generalize manager.scan = outcome at hscanned ⊢
  cases hscanned with
  | idle still => exact .kept (.refl _)
  | healthy running => exact .looked
  | @lost reaction loss running found =>
      -- only one reaction gives the displays up
      cases reaction with
      | report => exact .looked
      | markFailed => exact .looked
      | closeDriver => exact .lookedAndClosed

theorem effect_startWatchdog (reaction : Reaction) (manager : Manager) :
    Effect manager (manager.startWatchdog reaction).2.registry
      (manager.startWatchdog reaction).2.host.driver := by
  unfold startWatchdog
  split <;> exact .kept (.refl _)

/-- Whatever happens to a manager, its records and its driver change in one of the
listed ways. -/
theorem effect_perform (manager : Manager) (operation : Operation) :
    Effect manager (manager.perform operation).2.registry
      (manager.perform operation).2.host.driver := by
  cases operation with
  | openDriver => exact effect_openDriver manager
  | closeDriver => exact .closed
  | create request => exact effect_createDisplay request manager
  | remove uuid => exact effect_removeDisplay uuid manager
  | reconfigure name width height millihertz =>
      exact effect_reconfigure name width height millihertz manager
  | reconfigureIsolated name width height millihertz isolated =>
      exact effect_reconfigure name width height millihertz manager
  | frame name call => exact effect_frame name call manager
  | subscribe subscription =>
      cases subscription with
      | channel => exact effect_startWatchdog .report manager
      | callback reaction => exact effect_startWatchdog reaction manager
  | scan => exact effect_scan manager
  | setMemory state => exact .kept (.withBackend _ (Backend.handleOf_setMemory state _))
  | setScript script => exact .kept (.withBackend _ (Backend.handleOf_setScript script _))
  | _ => exact .kept (.refl _)

/-! ## What runs keep -/

/-- What holds of every display as it is created, with the driver answering from then on as
it did when the device was provisioned, and is kept when it gets another mode, is kept by
every effect. -/
theorem forall_mem_of_effect {P : Record → Prop} {manager : Manager} {registry : Registry}
    {driver : Driver} (heffect : Effect manager registry driver)
    (hcreated : ∀ (request : DisplayRequest) (outcome : Option Hardware × Driver),
      Provided manager (request.display manager.config.displayNameStem).mode outcome →
        driver.backend = outcome.2.backend →
          P ⟨request.display manager.config.displayNameStem, outcome.1⟩)
    (hremoded : ∀ record width height millihertz driver, P record →
      P (remode width height millihertz record driver).1)
    (hrecords : ∀ record ∈ manager.registry.records, P record) :
    ∀ record ∈ registry.records, P record := by
  -- what is inserted is the new record and records that were there before
  have hinserted : ∀ (request : DisplayRequest) (outcome : Option Hardware × Driver),
      Provided manager (request.display manager.config.displayNameStem).mode outcome →
        driver.backend = outcome.2.backend →
      ∀ record ∈ (manager.registry.insert
        ⟨request.display manager.config.displayNameStem, outcome.1⟩).2.records, P record := by
    intro request outcome hprovided hbackend record hrecord
    rcases List.mem_cons.mp ((Registry.insert_perm _ _).mem_iff.mp hrecord) with rfl | hrecord
    · exact hcreated request outcome hprovided hbackend
    · exact hrecords record (Registry.mem_records_remove.mp hrecord).1
  cases heffect with
  | kept asked => exact hrecords
  | used mem backed call => exact hrecords
  | looked => exact hrecords
  | created request provided absent => exact hinserted request _ provided rfl
  | recreated request provided present =>
      exact hinserted request _ provided (Record.backend_release _ _)
  | removed present =>
      exact fun record hrecord => hrecords record (Registry.mem_records_remove.mp hrecord).1
  | @remoded changed present width height millihertz =>
      intro record hrecord
      -- the changed record keeps its key, so it takes the place of the one before
      have hpresent : manager.registry.get?
          (remode width height millihertz changed manager.host.driver).1.uuid = some changed := by
        rwa [uuid_remode]
      rcases List.mem_cons.mp ((Registry.replace_perm hpresent).mem_iff.mp hrecord) with
        rfl | hrecord
      · exact hremoded changed width height millihertz _
          (hrecords changed (Registry.get?_eq_some_iff.mp present).1)
      · exact hrecords record (Registry.mem_records_remove.mp hrecord).1
  | closed => simp [Registry.empty]
  | lookedAndClosed => simp [Registry.empty]

/-- Whether an operation opens, closes or watches the driver; every other one deals with
displays or with the surroundings. -/
def Operation.isLifecycle : Operation → Bool
  | .openDriver | .closeDriver | .markFailed | .preferAdapter _ | .subscribe _ | .scan => true
  | _ => false

/-- Dealing with displays changes records and host only. -/
theorem perform_of_not_isLifecycle {operation : Operation}
    (hkind : operation.isLifecycle = false) (manager : Manager) :
    ∃ host registry, (manager.perform operation).2 =
      { manager with host := host, registry := registry } := by
  cases operation with
  | openDriver => cases hkind
  | closeDriver => cases hkind
  | markFailed => cases hkind
  | preferAdapter name => cases hkind
  | subscribe subscription => cases hkind
  | scan => cases hkind
  | create request =>
      simp only [perform, createDisplay]
      split <;> exact ⟨_, _, rfl⟩
  | remove uuid =>
      simp only [perform, removeDisplay]
      split <;> exact ⟨_, _, rfl⟩
  | reconfigure name width height millihertz =>
      simp only [perform, reconfigure]
      split <;> exact ⟨_, _, rfl⟩
  | reconfigureIsolated name width height millihertz isolated =>
      simp only [perform, reconfigureIsolated, reconfigure]
      split <;> exact ⟨_, _, rfl⟩
  | frame name call =>
      simp only [perform, frame]
      split <;> exact ⟨_, _, rfl⟩
  | _ => exact ⟨_, _, rfl⟩

/-- No operation changes the configuration. -/
@[simp] theorem config_perform (manager : Manager) (operation : Operation) :
    (manager.perform operation).2.config = manager.config := by
  -- dealing with displays leaves it by the lemma before; the six others are looked at singly
  cases hkind : operation.isLifecycle with
  | false =>
      obtain ⟨host, registry, hperform⟩ := perform_of_not_isLifecycle hkind manager
      rw [hperform]
  | true =>
      cases operation with
      | openDriver => simp only [perform, openDriver]; split <;> rfl
      | closeDriver => rfl
      | markFailed => rfl
      | preferAdapter name => rfl
      | subscribe subscription =>
          cases subscription <;> simp only [perform, startWatchdog] <;> split <;> rfl
      | scan =>
          have hscanned := manager.scanned_scan
          simp only [perform]
          generalize manager.scan = outcome at hscanned ⊢
          cases hscanned with
          | idle still => rfl
          | healthy running => rfl
          | @lost reaction loss running found => cases reaction <;> rfl
      | _ => cases hkind

@[simp] theorem config_run (manager : Manager) (operations : List Operation) :
    (manager.run operations).2.config = manager.config := by
  induction operations generalizing manager with
  | nil => rfl
  | cons operation operations ih => exact (ih _).trans (manager.config_perform operation)

theorem run_append (manager : Manager) (first second : List Operation) :
    (manager.run (first ++ second)).2 = ((manager.run first).2.run second).2 := by
  induction first generalizing manager with
  | nil => rfl
  | cons operation first ih => exact ih (manager.perform operation).2

/-- What holds at first and is kept by every operation holds after every run. -/
theorem run_induction {P : Manager → Prop} (manager : Manager) (hfirst : P manager)
    (hstep : ∀ manager operation, P manager → P (manager.perform operation).2)
    (operations : List Operation) : P (manager.run operations).2 := by
  induction operations generalizing manager with
  | nil => exact hfirst
  | cons operation operations ih => exact ih _ (hstep manager operation hfirst)

end VirtualMonitor.Manager
