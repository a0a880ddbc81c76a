import VirtualMonitor.Proofs.Manager.Readiness
import VirtualMonitor.Proofs.Manager.Session

/-!
# Sessions without a driver

When the driver is opened and none is found, or its kernel module is not loaded, displays
are passthrough: they are created, listed and removed as ever, and no driver hears of it.
This would not be so if a connection could come from the stand-in for a driver, because
every device of the stand-in counts as gone.  None ever does: no slot is found without a
driver, so no record gets a device, and whatever is done to a record without a device is
done to the record alone.

`Inert` is what this comes to.  Every operation keeps it unless it opens a real driver
(`Inert.perform`).

* `passthrough_inert`: in a run in which no real driver is opened, the driver is ready after
  each opening, no call is made, no display has a device, and no loss is reported.
-/

namespace VirtualMonitor

/-! ## Records without a device -/

namespace Record

variable {record : Record}

theorem release_of_passthrough (hpassthrough : record.hardware? = none) (driver : Driver) :
    record.release driver = driver := by
  simp only [release, hpassthrough]

theorem snapshot_of_passthrough (hpassthrough : record.hardware? = none) :
    record.snapshot = ⟨record.display, false, none, none⟩ := by
  simp [snapshot, slot?, hpassthrough]

end Record

/-- No display has a device. -/
def Registry.Passthrough (registry : Registry) : Prop :=
  ∀ record ∈ registry.records, record.hardware? = none

namespace Registry.Passthrough

variable {registry : Registry} {record : Record}

theorem empty : Registry.empty.Passthrough := nofun

theorem insert (hpassthrough : registry.Passthrough) (hrecord : record.hardware? = none) :
    (registry.insert record).2.Passthrough := by
  intro other hother
  rcases List.mem_cons.mp ((insert_perm record registry).mem_iff.mp hother) with rfl | hother
  · exact hrecord
  · exact hpassthrough other (mem_records_remove.mp hother).1

theorem remove (hpassthrough : registry.Passthrough) (uuid : String) :
    (registry.remove uuid).2.Passthrough :=
  fun other hother => hpassthrough other (mem_records_remove.mp hother).1

theorem replace (hpassthrough : registry.Passthrough) (hrecord : record.hardware? = none) :
    (registry.replace record).Passthrough := by
  intro other hother
  obtain ⟨old, hold, rfl⟩ := List.mem_map.mp hother
  split
  · exact hrecord
  · exact hpassthrough old hold

/-- Giving up displays without a device asks nothing of the driver. -/
theorem releaseAll (hpassthrough : registry.Passthrough) (driver : Driver) :
    registry.releaseAll driver = driver := by
  unfold Registry.releaseAll
  unfold Registry.Passthrough at hpassthrough
  generalize registry.records = records at hpassthrough
  induction records with
  | nil => rfl
  | cons record records ih =>
      obtain ⟨hrecord, hrest⟩ := List.forall_mem_cons.mp hpassthrough
      rw [List.foldl_cons, Record.release_of_passthrough hrecord, ih hrest]

/-- Whatever the driver would say about its devices, it is not asked. -/
theorem findLoss (hpassthrough : registry.Passthrough) (driver : Driver) :
    Manager.findLoss registry.records driver = (none, driver) := by
  unfold Registry.Passthrough at hpassthrough
  generalize registry.records = records at hpassthrough
  induction records with
  | nil => rfl
  | cons record records ih =>
      obtain ⟨hrecord, hrest⟩ := List.forall_mem_cons.mp hpassthrough
      rw [Manager.findLoss, hrecord]
      simpa using ih hrest

theorem named? (hpassthrough : registry.Passthrough) (name : String) :
    (registry.named? name).bind Record.hardware? = none :=
  Option.bind_eq_none_iff.mpr fun _ hnamed => hpassthrough _ (List.mem_of_find?_eq_some hnamed)

end Registry.Passthrough

namespace Manager

/-! ## Inert managers -/

/-- Whether opening the driver now would find one, with its kernel module loaded. -/
def findsDriver (manager : Manager) : Bool :=
  let (found, host) := manager.host.probe manager.config.libraryCandidates
  found && host.moduleLoaded manager.config

/-- The manager has no driver and no device, and the trace of the driver is still `trace`. -/
structure Inert (trace : List Call) (manager : Manager) : Prop where
  binding : manager.binding = .absent
  passthrough : manager.registry.Passthrough
  trace_eq : manager.host.driver.trace = trace

/-- Opening makes the driver ready in any case; only a driver that is found is used. -/
theorem openDriver_of_state_ne {manager : Manager} (hstate : manager.state ≠ .ready) :
    manager.openDriver =
      { manager with
        host := (manager.host.probe manager.config.libraryCandidates).2
        binding := if manager.findsDriver then .present else .absent
        state := .ready } :=
  if_neg fun hready => hstate (eq_of_beq hready)

theorem trace_probe (candidates : List String) (host : Host) :
    (host.probe candidates).2.driver.trace = host.driver.trace := by
  unfold Host.probe
  split
  · rfl
  · rfl
  · split <;> rfl

namespace Inert

variable {trace : List Call} {manager : Manager}

/-! ### What an inert manager answers -/

theorem provision (hinert : Inert trace manager) (mode : Mode) :
    manager.provision mode = (none, manager.host.driver) := by
  simp only [Manager.provision, findFreeSlot_of_absent hinert.binding]

theorem hardwareEnabled (hinert : Inert trace manager) : manager.hardwareEnabled = false := by
  rw [Manager.hardwareEnabled, hinert.binding]
  rfl

theorem connection? (hinert : Inert trace manager) (name : String) :
    manager.connection? name = none := by
  rw [Manager.connection?, hinert.passthrough.named? name]
  rfl

theorem frame (hinert : Inert trace manager) (name : String) (call : FrameCall) :
    manager.frame name call = (none, manager) := by
  simp only [Manager.frame, hinert.connection? name]

theorem slotOf? (hinert : Inert trace manager) (name : String) : manager.slotOf? name = none := by
  have hhardware := hinert.passthrough.named? name
  unfold Manager.slotOf?
  cases hnamed : manager.registry.named? name with
  | none => rfl
  | some record => simpa [hnamed, Record.slot?] using hhardware

theorem isHardwareBacked (hinert : Inert trace manager) (name : String) :
    manager.isHardwareBacked name = false := by
  have hhardware := hinert.passthrough.named? name
  unfold Manager.isHardwareBacked
  cases hnamed : manager.registry.named? name with
  | none => rfl
  | some record => simpa [hnamed] using hhardware

theorem snapshots (hinert : Inert trace manager) :
    ∀ snapshot ∈ manager.registry.snapshots,
      snapshot.usingHardware = false ∧ snapshot.slot? = none ∧ snapshot.node? = none := by
  intro snapshot hsnapshot
  obtain ⟨record, hrecord, rfl⟩ := List.mem_map.mp hsnapshot
  rw [Record.snapshot_of_passthrough (hinert.passthrough record hrecord)]
  exact ⟨rfl, rfl, rfl⟩

/-! ### What keeps a manager inert -/

theorem openDriver (hinert : Inert trace manager)
    (hfinds : manager.state ≠ .ready → manager.findsDriver = false) :
    Inert trace manager.openDriver := by
  by_cases hstate : manager.state = .ready
  · rwa [openDriver_of_ready hstate]
  · rw [openDriver_of_state_ne hstate, hfinds hstate]
    exact ⟨rfl, hinert.passthrough, (trace_probe _ manager.host).trans hinert.trace_eq⟩

theorem closeDriver (hinert : Inert trace manager) : Inert trace manager.closeDriver where
  binding := rfl
  passthrough := .empty
  trace_eq := by
    rw [← hinert.trace_eq]
    exact congrArg Driver.trace (hinert.passthrough.releaseAll manager.host.driver)

theorem drop (hinert : Inert trace manager) : manager.drop.trace = trace :=
  hinert.closeDriver.trace_eq

theorem createDisplay (hinert : Inert trace manager) (request : DisplayRequest) :
    Inert trace (manager.createDisplay request).2 := by
  by_cases hready : manager.state.isReady = true
  · have hregistry := registry_createDisplay request hready
    have hdriver := driver_createDisplay request hready
    rw [hinert.provision] at hregistry hdriver
    refine ⟨?_, ?_, ?_⟩
    · rw [Manager.createDisplay, if_pos hready]
      exact hinert.binding
    · rw [hregistry]
      exact hinert.passthrough.insert rfl
    · rw [hdriver, ← hinert.trace_eq]
      cases hget : manager.registry.get? request.uuid.text with
      | none => rfl
      | some replaced =>
          have hmem := (Registry.get?_eq_some_iff.mp hget).1
          exact congrArg Driver.trace
            (Record.release_of_passthrough (hinert.passthrough replaced hmem) _)
  · rw [createDisplay_of_not_isReady request hready]
    exact hinert

theorem removeDisplay (hinert : Inert trace manager) (uuid : Uuid) :
    Inert trace (manager.removeDisplay uuid).2 := by
  cases hget : manager.registry.get? uuid.text with
  | none =>
      rw [removeDisplay_of_get?_eq_none hget]
      exact hinert
  | some record =>
      have hrecord := hinert.passthrough record (Registry.get?_eq_some_iff.mp hget).1
      rw [removeDisplay_of_get? hget, Record.release_of_passthrough hrecord]
      exact ⟨hinert.binding, hinert.passthrough.remove uuid.text, hinert.trace_eq⟩

theorem reconfigure (hinert : Inert trace manager) (name : String)
    (width height millihertz : UInt32) :
    Inert trace (manager.reconfigure name width height millihertz) := by
  unfold Manager.reconfigure
  split
  · exact hinert
  · rename_i record hnamed
    have hrecord := hinert.passthrough record (List.mem_of_find?_eq_some hnamed)
    simp only [remode, hrecord]
    exact ⟨hinert.binding, hinert.passthrough.replace rfl, hinert.trace_eq⟩

/-- A look finds nothing to ask about, so it reports nothing. -/
theorem scan (hinert : Inert trace manager) : manager.scan = (none, manager) := by
  have hlook := hinert.passthrough.findLoss manager.host.driver
  have hscanned := manager.scanned_scan
  generalize manager.scan = outcome at hscanned ⊢
  cases hscanned with
  | idle still => rfl
  | healthy running =>
      rw [hlook]
      rfl
  | lost running found =>
      rw [hlook] at found
      cases found

/-- Only opening a real driver ends it. -/
theorem perform (hinert : Inert trace manager) {operation : Operation}
    (hfinds : operation = .openDriver → manager.state ≠ .ready → manager.findsDriver = false) :
    Inert trace (manager.perform operation).2 := by
  cases operation with
  | openDriver => exact hinert.openDriver (hfinds rfl)
  | closeDriver => exact hinert.closeDriver
  | create request => exact hinert.createDisplay request
  | remove uuid => exact hinert.removeDisplay uuid
  | reconfigure name width height millihertz =>
      exact hinert.reconfigure name width height millihertz
  | reconfigureIsolated name width height millihertz isolated =>
      exact hinert.reconfigure name width height millihertz
  | frame name call =>
      simp only [Manager.perform, hinert.frame]
      exact hinert
  | subscribe subscription =>
      cases subscription <;> simp only [Manager.perform, startWatchdog] <;> split <;>
        exact ⟨hinert.binding, hinert.passthrough, hinert.trace_eq⟩
  | scan =>
      simp only [Manager.perform, hinert.scan]
      exact hinert
  | _ => exact ⟨hinert.binding, hinert.passthrough, hinert.trace_eq⟩

end Inert

/-! ## Inert runs -/

theorem inert_new (config : Config) (host : Host) : Inert host.driver.trace (new config host) where
  binding := rfl
  passthrough := .empty
  trace_eq := rfl

/-- A run in which no real driver is opened stays inert at every step. -/
theorem inert_run {trace : List Call} {manager : Manager} (hinert : Inert trace manager)
    (operations : List Operation)
    (hfinds : ∀ step ∈ manager.history operations, step.operation = .openDriver →
      step.before.state ≠ .ready → step.before.findsDriver = false) :
    (∀ step ∈ manager.history operations, Inert trace step.before) ∧
      Inert trace (manager.run operations).2 := by
  induction operations generalizing manager with
  | nil => exact ⟨by simp [history], hinert⟩
  -- the premise of the first step is the one `Inert.perform` asks for; the rest is a run itself
  | cons operation operations ih =>
      obtain ⟨hfirst, hrest⟩ := List.forall_mem_cons.mp hfinds
      obtain ⟨hsteps, hlast⟩ := ih (hinert.perform hfirst) hrest
      exact ⟨List.forall_mem_cons.mpr ⟨hinert, hsteps⟩, hlast⟩

theorem Inert.loss?_eq_none {trace : List Call} {step : Step} (hinert : Inert trace step.before) :
    step.loss? = none := by
  cases hloss : step.loss? with
  | none => rfl
  | some loss =>
      obtain ⟨-, -, hfound⟩ := Step.loss?_eq_some hloss
      rw [hinert.passthrough.findLoss] at hfound
      cases hfound

/-- Take any run in which no opening finds a driver whose kernel module is loaded; what is
found later, while the driver is ready, does not matter.  Every beginning of such a run is one
itself, so what is said about its end holds all along.

The driver is ready after each opening, and real monitors are never enabled.  The driver that
would have answered is never asked anything, not even when the session is closed or the
manager ends.  No display has a device or a node, and no name leads to a device or to a slot.
No look of the watchdog reports a loss, in the run or after it, although a device of the
stand-in would count as gone whenever it was asked about.  All this rests on the stand-in: it
is what is searched for a slot, and it recognises, adds and opens none. -/
theorem passthrough_inert (config : Config) (host : Host) (operations : List Operation)
    (hfinds : ∀ step ∈ (new config host).history operations, step.operation = .openDriver →
      step.before.state ≠ .ready → step.before.findsDriver = false) :
    let manager := ((new config host).run operations).2
    (∀ step ∈ (new config host).history operations, step.loss? = none ∧
      (step.operation = .openDriver → step.answer = .state .ready ∧ step.after.state = .ready)) ∧
      manager.hardwareEnabled = false ∧
      manager.host.driver.trace = host.driver.trace ∧
      manager.closeDriver.host.driver.trace = host.driver.trace ∧
      manager.drop.trace = host.driver.trace ∧
      (∀ record ∈ manager.registry.records, record.hardware? = none) ∧
      (∀ snapshot ∈ manager.registry.snapshots,
        snapshot.usingHardware = false ∧ snapshot.slot? = none ∧ snapshot.node? = none) ∧
      (∀ name, manager.isHardwareBacked name = false ∧ manager.slotOf? name = none ∧
        manager.connection? name = none ∧ ∀ call, manager.frame name call = (none, manager)) ∧
      manager.scan = (none, manager) ∧
      manager.binding = .absent ∧
      manager.findFreeSlot = (none, manager.host.driver) ∧
      ∀ driver,
        (∀ slot, Binding.absent.check slot driver = (.unrecognized, driver) ∧
          Binding.absent.openSlot slot driver = (none, driver)) ∧
        Binding.absent.add driver = (none, driver) ∧
        ∀ handle, Binding.absent.send? handle (.frame .eventReady) driver =
          some (.code (-1), driver) := by
  intro manager
  obtain ⟨hsteps, hinert⟩ := inert_run (inert_new config host) operations hfinds
  refine ⟨?_, hinert.hardwareEnabled, hinert.trace_eq, hinert.closeDriver.trace_eq, hinert.drop,
    hinert.passthrough, hinert.snapshots, ?_, hinert.scan, hinert.binding,
    findFreeSlot_of_absent hinert.binding,
    fun driver => ⟨fun slot => ⟨rfl, rfl⟩, rfl, fun handle => rfl⟩⟩
  · -- an opening that finds no driver makes the manager ready with the stand-in
    intro step hstep
    refine ⟨(hsteps step hstep).loss?_eq_none, ?_⟩
    obtain ⟨before, operation⟩ := step
    rintro rfl
    exact ⟨congrArg Answer.state before.state_openDriver, before.state_openDriver⟩
  · intro name
    exact ⟨hinert.isHardwareBacked name, hinert.slotOf? name, hinert.connection? name,
      hinert.frame name⟩

/-- The kernel module is not loaded at first and is when the driver is ready already; for the
second opening there is no driver.  The watchdog looks at a display both times. -/
theorem passthrough_inert_late_module :
    let request : DisplayRequest :=
      ⟨⟨Vector.replicate 32 0⟩, "client", "screen", 1920, 1080, 60000⟩
    let backend : Backend := .memory (.ofSlots [.available])
    let operations : List Operation :=
      [.openDriver, .create request, .setFiles ⟨fun _ => some (.file [])⟩, .openDriver,
        .create request, .subscribe .channel, .scan, .closeDriver, .setSource .missing,
        .openDriver, .create request, .subscribe .channel, .scan]
    let manager := ((new .standard ⟨⟨fun _ => none⟩, .given, .fresh backend, 0⟩).run operations).2
    manager.registry.size = 1 ∧ manager.findFreeSlot.1 = none ∧ manager.scan.1 = none ∧
      manager.drop.trace = [] := by
  intro request backend operations manager
  have hfinds : ∀ step ∈ (new .standard ⟨⟨fun _ => none⟩, .given, .fresh backend, 0⟩).history
      operations, step.operation = .openDriver → step.before.state ≠ .ready →
        step.before.findsDriver = false := by
    simp only [operations, history, List.forall_mem_cons, List.not_mem_nil, reduceCtorEq,
      false_implies, forall_const, implies_true, true_and, and_true]
    exact ⟨by decide +kernel, by decide +kernel, by decide +kernel⟩
  obtain ⟨-, -, -, -, hdropped, -, -, -, hscan, -, hsearch, -⟩ := passthrough_inert .standard
    ⟨⟨fun _ => none⟩, .given, .fresh backend, 0⟩ operations hfinds
  exact ⟨by decide +kernel, congrArg Prod.fst hsearch, congrArg Prod.fst hscan, hdropped⟩

end Manager

end VirtualMonitor
