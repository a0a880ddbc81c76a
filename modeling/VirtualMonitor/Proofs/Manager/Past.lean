import VirtualMonitor.Proofs.Manager.Passthrough

/-!
# A driver does not read its trace

What a driver answers depends on its backend alone.  The trace is only written: whatever a
driver was asked before, it answers the same, and the same calls are added to its trace.
`withPast` puts earlier calls in front of a trace, and every lemma below says that an
operation does not notice.  They lead up from single calls to whole runs of a manager
(`Manager.run_withPast`).

A host counts how often it was searched for a driver.  That number is not read either.
-/

namespace VirtualMonitor

/-! ## Drivers and connections -/

namespace Driver

/-- A driver that was called before as well. -/
def withPast (past : List Call) (driver : Driver) : Driver :=
  { driver with trace := past ++ driver.trace }

variable (past : List Call) (driver : Driver)

theorem record_withPast (call : Call) :
    (driver.withPast past).record call = (driver.record call).withPast past := by
  simp only [record, withPast, List.append_assoc]

theorem check_withPast (slot : Int32) :
    (driver.withPast past).check slot = (driver.check slot).map id (withPast past) := by
  rw [check, record_withPast]
  rfl

theorem add_withPast :
    (driver.withPast past).add = driver.add.map id (withPast past) := by
  rw [add, record_withPast]
  rfl

theorem openSlot_withPast (slot : Int32) :
    (driver.withPast past).openSlot slot = (driver.openSlot slot).map id (withPast past) := by
  rw [openSlot, record_withPast]
  rfl

theorem send_withPast (handle : Handle) (request : Request) :
    (driver.withPast past).send handle request =
      (driver.send handle request).map id (withPast past) := by
  rw [send, record_withPast]
  rfl

end Driver

namespace Connection

variable (past : List Call) (connection : Connection) (driver : Driver)

theorem open?_withPast (binding : Binding) (slot : Int32) :
    open? binding slot (driver.withPast past) =
      (open? binding slot driver).map id (Driver.withPast past) := by
  cases binding with
  | absent => rfl
  | present =>
      rw [open?, Binding.openSlot, Driver.openSlot_withPast]
      rfl

theorem disconnect_withPast :
    connection.disconnect (driver.withPast past) =
      (connection.disconnect driver).map id (Driver.withPast past) := by
  unfold disconnect
  rw [Driver.send_withPast]
  split <;> rfl

theorem connect_withPast (edid : List UInt8) :
    connection.connect edid (driver.withPast past) =
      (connection.connect edid driver).map id (Driver.withPast past) := by
  unfold connect
  rw [disconnect_withPast]
  simp only [Prod.map, Driver.send_withPast, id]

theorem frame_withPast (call : FrameCall) :
    connection.frame call (driver.withPast past) =
      (connection.frame call driver).map id (Driver.withPast past) :=
  driver.send_withPast past connection.handle (.frame call)

theorem alive_withPast :
    connection.alive (driver.withPast past) =
      (connection.alive driver).map id (Driver.withPast past) := by
  unfold alive
  rw [frame_withPast]
  rfl

theorem release_withPast :
    connection.release (driver.withPast past) =
      (connection.release driver).withPast past := by
  unfold release
  rw [disconnect_withPast]
  simp only [Prod.map, Driver.send_withPast, id]

end Connection

/-! ## Records -/

theorem Record.release_withPast (past : List Call) (record : Record) (driver : Driver) :
    record.release (driver.withPast past) = (record.release driver).withPast past := by
  unfold release
  split
  · exact Connection.release_withPast past _ driver
  · rfl

theorem Registry.releaseAll_withPast (past : List Call) (registry : Registry) (driver : Driver) :
    registry.releaseAll (driver.withPast past) = (registry.releaseAll driver).withPast past := by
  unfold releaseAll
  induction registry.records generalizing driver with
  | nil => rfl
  | cons record records ih =>
      rw [List.foldl_cons, Record.release_withPast]
      exact ih (record.release driver)

namespace Manager

theorem findLoss_withPast (past : List Call) (records : List Record) (driver : Driver) :
    findLoss records (driver.withPast past) =
      (findLoss records driver).map id (Driver.withPast past) := by
  induction records generalizing driver with
  | nil => rfl
  | cons record records ih =>
      unfold findLoss
      split
      · rename_i hardware _ _
        rw [Connection.alive_withPast]
        obtain ⟨code, after⟩ := hardware.connection.alive driver
        simp only [Prod.map, id]
        split
        · rfl
        · exact ih after
      · exact ih driver

theorem remode_withPast (past : List Call) (width height millihertz : UInt32) (record : Record)
    (driver : Driver) :
    remode width height millihertz record (driver.withPast past) =
      (remode width height millihertz record driver).map id (Driver.withPast past) := by
  unfold remode
  split
  · rfl
  · simp only [Connection.connect_withPast, Prod.map, id]

theorem searchSlots_withPast (past : List Call) (binding : Binding) (occupied : List Int32)
    (remaining : Nat) (index : Int32) (driver : Driver) :
    searchSlots binding occupied remaining index (driver.withPast past) =
      (searchSlots binding occupied remaining index driver).map id (Driver.withPast past) := by
  induction remaining generalizing index driver with
  | zero => rfl
  | succ remaining ih =>
      have hcheck : binding.check index (driver.withPast past) =
          (binding.check index driver).map id (Driver.withPast past) := by
        cases binding with
        | absent => rfl
        | present => exact driver.check_withPast past index
      have hadd : ∀ other : Driver, binding.add (other.withPast past) =
          (binding.add other).map id (Driver.withPast past) := by
        intro other
        cases binding with
        | absent => rfl
        | present => exact other.add_withPast past
      unfold searchSlots
      split
      · exact ih (index + 1) driver
      · rw [hcheck]
        obtain ⟨status, checked⟩ := binding.check index driver
        -- whatever the status of the slot is, the rest of the search has the same past
        cases status with
        | available => rfl
        | unrecognized => exact ih (index + 1) checked
        | notPresent =>
            simp only [Prod.map, id, hadd]
            obtain ⟨added?, after⟩ := binding.add checked
            cases added? with
            | none => exact ih (index + 1) after
            | some added =>
                simp only
                split
                · exact ih (index + 1) after
                · rfl

end Manager

/-! ## Managers -/

def Host.withPast (past : List Call) (probes : Nat) (host : Host) : Host :=
  { host with driver := host.driver.withPast past, probes := probes + host.probes }

theorem Host.probe_withPast (past : List Call) (probes : Nat) (candidates : List String)
    (host : Host) :
    (host.withPast past probes).probe candidates =
      (host.probe candidates).map id (withPast past probes) := by
  unfold probe
  cases hsource : host.source with
  | missing => simp [withPast, hsource, Nat.add_assoc]
  | given => simp [withPast, hsource, Nat.add_assoc]
  | loader missing? =>
      simp only [withPast, hsource]
      split <;> rfl

namespace Manager

/-- A manager on a host that was in use before. -/
def withPast (past : List Call) (probes : Nat) (manager : Manager) : Manager :=
  { manager with host := manager.host.withPast past probes }

variable (past : List Call) (probes : Nat) (manager : Manager)

theorem openDriver_withPast :
    (manager.withPast past probes).openDriver = manager.openDriver.withPast past probes := by
  by_cases hstate : manager.state = .ready
  · have hready : (manager.withPast past probes).state = .ready := hstate
    rw [openDriver_of_ready hstate, openDriver_of_ready hready]
  · have hnotReady : (manager.withPast past probes).state ≠ .ready := hstate
    have hprobe := manager.host.probe_withPast past probes manager.config.libraryCandidates
    have hfinds : (manager.withPast past probes).findsDriver = manager.findsDriver := by
      simp only [findsDriver, withPast, hprobe]
      rfl
    rw [openDriver_of_state_ne hstate, openDriver_of_state_ne hnotReady, hfinds]
    simp only [withPast, hprobe]
    rfl

theorem closeDriver_withPast :
    (manager.withPast past probes).closeDriver = manager.closeDriver.withPast past probes := by
  have hreleased := manager.registry.releaseAll_withPast past manager.host.driver
  simp only [closeDriver, withDriver, withPast, Host.withPast, hreleased]

theorem provision_withPast (mode : Mode) :
    (manager.withPast past probes).provision mode =
      (manager.provision mode).map id (Driver.withPast past) := by
  have hsearch : (manager.withPast past probes).findFreeSlot =
      manager.findFreeSlot.map id (Driver.withPast past) :=
    searchSlots_withPast ..
  unfold provision
  rw [hsearch]
  obtain ⟨slot?, driver⟩ := manager.findFreeSlot
  cases slot? with
  | none => rfl
  | some slot =>
      have hopen := Connection.open?_withPast past driver manager.binding slot
      simp only [Prod.map, id, withPast, hopen]
      obtain ⟨connection?, opened⟩ := Connection.open? manager.binding slot driver
      cases connection? with
      | none => rfl
      | some connection =>
          simp only [Prod.map, id, Connection.connect_withPast]
          rfl

/-- What a creation leaves behind follows from the request and from what is provisioned. -/
theorem createDisplay_of_provision {manager : Manager} {request : DisplayRequest}
    {hardware? : Option Hardware} {driver : Driver} (hready : manager.state.isReady = true)
    (hprovision : manager.provision (request.display manager.config.displayNameStem).mode =
      (hardware?, driver)) :
    manager.createDisplay request =
      (.ok (Display.nameFor manager.config.displayNameStem request.uuid),
        { manager.withDriver ((manager.registry.get? request.uuid.text).elim driver
            fun replaced => replaced.release driver) with
          registry := (manager.registry.insert
            ⟨request.display manager.config.displayNameStem, hardware?⟩).2 }) := by
  have hreplaced : (manager.registry.insert
      ⟨request.display manager.config.displayNameStem, hardware?⟩).1 =
        manager.registry.get? request.uuid.text := rfl
  unfold createDisplay
  rw [if_pos hready]
  simp only [hprovision, hreplaced]
  cases manager.registry.get? request.uuid.text <;> rfl

theorem createDisplay_withPast (request : DisplayRequest) :
    (manager.withPast past probes).createDisplay request =
      (manager.createDisplay request).map id (withPast past probes) := by
  by_cases hstate : manager.state = .ready
  · have hready : manager.state.isReady = true := beq_iff_eq.mpr hstate
    have hreadyPast : (manager.withPast past probes).state.isReady = true := hready
    have hpast := manager.provision_withPast past probes
      (request.display manager.config.displayNameStem).mode
    -- provisioning finds the same device, and after it the record is the same in both
    rcases hprovision : manager.provision
      (request.display manager.config.displayNameStem).mode with ⟨hardware?, driver⟩
    rw [hprovision] at hpast
    rw [createDisplay_of_provision hready hprovision, createDisplay_of_provision hreadyPast hpast]
    cases hget : manager.registry.get? request.uuid.text with
    | none =>
        have hgetPast : (manager.withPast past probes).registry.get? request.uuid.text = none :=
          hget
        rw [hgetPast]
        rfl
    | some replaced =>
        have hgetPast : (manager.withPast past probes).registry.get? request.uuid.text =
            some replaced := hget
        have hreleased := replaced.release_withPast past driver
        rw [hgetPast]
        simp only [Option.elim_some, id, hreleased]
        rfl
  · have hnotReady : (manager.withPast past probes).state ≠ .ready := hstate
    rw [createDisplay_of_state_ne request hstate, createDisplay_of_state_ne request hnotReady]
    rfl

theorem removeDisplay_withPast (uuid : Uuid) :
    (manager.withPast past probes).removeDisplay uuid =
      (manager.removeDisplay uuid).map id (withPast past probes) := by
  cases hget : manager.registry.get? uuid.text with
  | none =>
      have hgetPast : (manager.withPast past probes).registry.get? uuid.text = none := hget
      rw [removeDisplay_of_get?_eq_none hget, removeDisplay_of_get?_eq_none hgetPast]
      rfl
  | some record =>
      have hgetPast : (manager.withPast past probes).registry.get? uuid.text = some record := hget
      have hreleased := record.release_withPast past manager.host.driver
      rw [removeDisplay_of_get? hget, removeDisplay_of_get? hgetPast]
      simp only [Prod.map, withPast, Host.withPast, withDriver, hreleased, id]

theorem reconfigure_withPast (name : String) (width height millihertz : UInt32) :
    (manager.withPast past probes).reconfigure name width height millihertz =
      (manager.reconfigure name width height millihertz).withPast past probes := by
  unfold reconfigure
  cases hnamed : manager.registry.named? name with
  | none => simp only [withPast, hnamed]
  | some record =>
      simp only [withPast, Host.withPast, withDriver, hnamed, remode_withPast]
      rfl

theorem frame_withPast (name : String) (call : FrameCall) :
    (manager.withPast past probes).frame name call =
      (manager.frame name call).map id (withPast past probes) := by
  have hconnection : (manager.withPast past probes).connection? name =
      manager.connection? name := rfl
  unfold frame
  rw [hconnection]
  cases manager.connection? name with
  | none => rfl
  | some connection =>
      simp only [withPast, Host.withPast, Connection.frame_withPast]
      rfl

theorem startWatchdog_withPast (reaction : Reaction) :
    (manager.withPast past probes).startWatchdog reaction =
      (manager.startWatchdog reaction).map id (withPast past probes) := by
  unfold startWatchdog
  cases hwatchdog : manager.watchdog <;> simp [withPast, hwatchdog]

theorem scan_withPast :
    (manager.withPast past probes).scan = manager.scan.map id (withPast past probes) := by
  have hlook := findLoss_withPast past manager.registry.records manager.host.driver
  cases hwatchdog : manager.watchdog with
  | absent => simp [scan, withPast, hwatchdog]
  | finished => simp [scan, withPast, hwatchdog]
  | running reaction =>
      have hrunning : (manager.withPast past probes).watchdog = .running reaction := hwatchdog
      -- both look at the same records with the same driver
      have hlookPast : findLoss (manager.withPast past probes).registry.records
          (manager.withPast past probes).host.driver =
            (findLoss manager.registry.records manager.host.driver).map id
              (Driver.withPast past) := hlook
      unfold scan
      rw [hrunning, hwatchdog]
      simp only [hlookPast]
      obtain ⟨loss?, driver⟩ := findLoss manager.registry.records manager.host.driver
      cases loss? with
      | none => rfl
      | some loss =>
          -- what the subscriber does about the loss has the same past
          cases reaction with
          | report => rfl
          | markFailed => rfl
          | closeDriver =>
              have hclosed := closeDriver_withPast past probes
                { manager.withDriver driver with watchdog := .finished }
              exact congrArg (Prod.mk _) hclosed

/-- An operation does not notice what its host was used for before. -/
theorem perform_withPast (operation : Operation) :
    (manager.withPast past probes).perform operation =
      (manager.perform operation).map id (withPast past probes) := by
  cases operation with
  | openDriver =>
      simp only [perform, openDriver_withPast]
      rfl
  | closeDriver =>
      simp only [perform, closeDriver_withPast]
      rfl
  | create request =>
      simp only [perform, createDisplay_withPast]
      rfl
  | remove uuid =>
      simp only [perform, removeDisplay_withPast]
      rfl
  | reconfigure name width height millihertz =>
      simp only [perform, reconfigure_withPast]
      rfl
  | reconfigureIsolated name width height millihertz isolated =>
      simp only [perform, reconfigureIsolated, reconfigure_withPast]
      rfl
  | frame name call =>
      simp only [perform, frame_withPast]
      rfl
  | subscribe subscription =>
      cases subscription <;> simp only [perform, startWatchdog_withPast] <;> rfl
  | scan =>
      simp only [perform, scan_withPast]
      rfl
  | _ => rfl

/-- A whole run gives the same answers and adds the same calls, whatever its host was used
for before. -/
theorem run_withPast (operations : List Operation) :
    (manager.withPast past probes).run operations =
      (manager.run operations).map id (withPast past probes) := by
  induction operations generalizing manager with
  | nil => rfl
  | cons operation operations ih =>
      simp only [run, perform_withPast, Prod.map, ih]
      rfl

end Manager

end VirtualMonitor
