import VirtualMonitor.CommandLine.Run
import VirtualMonitor.Proofs.Driver.Tidy
import VirtualMonitor.Proofs.Manager.Calls
import VirtualMonitor.Proofs.Manager.Passthrough

/-!
# Keeping a display

To create a display, keep it for a while and end is one run of the manager: the
operations of `opening`, then whatever passes while the display is kept, then the
operations of `closing` (`begin_eq`, `finish_eq`).  What passes may be any number of looks
of the watchdog and any changes of the surroundings, so a script may have the device go at
any moment (`CanEnd`).

While the display is kept, its record is the only one, and all that was done to a device is
its welcome (`Keeps`).  So all that a whole run does to a device is its welcome and its
farewell, whichever way the run ends (`tidy_of_canEnd`).
-/

namespace VirtualMonitor.CommandLine

open Manager

/-! ### A run of the manager -/

def request (mode : Mode) (uuid : Uuid) : DisplayRequest :=
  ⟨uuid, clientName, clientName, mode.width, mode.height, mode.hertz * 1000⟩

/-- The operations with which a display is created. -/
def opening (mode : Mode) (uuid : Uuid) : List Operation :=
  [.openDriver, .subscribe .channel, .create (request mode uuid)]

/-- The operations with which a run ends. -/
def closing (uuid : Uuid) (loss? : Option Loss) : List Operation :=
  match loss? with
  | some _ => [.markFailed, .closeDriver]
  | none => [.remove uuid, .closeDriver]

/-- What may happen while a display is kept: the watchdog looks, or the surroundings
change. -/
def isPassing : Operation → Bool
  | .scan | .setMemory _ | .setScript _ | .setFiles _ | .setSource _ => true
  | _ => false

/-- The run goes on after the given operations. -/
def Kept.after (operations : List Operation) (kept : Kept) : Kept :=
  { kept with manager := (kept.manager.run operations).2 }

/-- Creating a display never fails, since the driver was opened before. -/
theorem begin_eq (mode : Mode) (uuid : Uuid) (manager : Manager) :
    ∃ output, begin mode uuid manager =
      .ok ⟨(manager.run (opening mode uuid)).2, uuid, output⟩ := by
  have hready : (manager.openDriver.startWatchdog .report).2.state.isReady = true := by
    have hstate : (manager.openDriver.startWatchdog .report).2.state =
        manager.openDriver.state := by
      unfold startWatchdog
      split <;> rfl
    rw [hstate, manager.state_openDriver]
    rfl
  have hcreated : (manager.openDriver.startWatchdog .report).2.createDisplay (request mode uuid) =
      (.ok _, (manager.run (opening mode uuid)).2) :=
    Prod.ext (by rw [createDisplay, if_pos hready]) rfl
  unfold request at hcreated
  simp only [begin, hcreated]
  exact ⟨_, rfl⟩

theorem finish_eq (kept : Kept) (loss? : Option Loss) :
    (kept.finish loss?).2 = (kept.manager.run (closing kept.uuid loss?)).2 := by
  cases loss? with
  | some loss => rfl
  | none =>
      have hrun : (kept.manager.run (closing kept.uuid none)).2 =
          (kept.manager.removeDisplay kept.uuid).2.closeDriver := rfl
      rw [hrun]
      unfold Kept.finish
      cases kept.manager.removeDisplay kept.uuid with
      | mk outcome removed => cases outcome <;> rfl

/-- The ways in which creating a display can end, for a loss that was reported or because
the time is up: anything may pass before. -/
def CanEnd (mode : Mode) (uuid : Uuid) (manager : Manager) (loss? : Option Loss)
    (ended : Outcome × Manager) : Prop :=
  ∃ kept passing, begin mode uuid manager = .ok kept ∧
    (∀ operation ∈ passing, isPassing operation = true) ∧
    ended = (kept.after passing).finish loss?

/-- A whole run waits for at most one look of the watchdog. -/
theorem canEnd_keep (mode : Mode) (seconds : UInt64) (uuid : Uuid) (manager : Manager) :
    ∃ loss?, CanEnd mode uuid manager loss? (keep mode seconds uuid manager) := by
  obtain ⟨output, hbegin⟩ := begin_eq mode uuid manager
  unfold keep
  rw [hbegin]
  dsimp only
  split
  · exact ⟨_, _, [.scan], hbegin, by decide, rfl⟩
  · exact ⟨none, _, [], hbegin, by decide, rfl⟩

theorem drop_closing (uuid : Uuid) (loss? : Option Loss) (manager : Manager) :
    (manager.run (closing uuid loss?)).2.drop =
      (manager.run (closing uuid loss?)).2.host.driver := by
  cases loss? <;> rfl

/-! ### While the display is kept -/

/-- The manager keeps one display; only the command line listens to its watchdog; and all
that was done to a device is the welcome of the display's own. -/
structure Keeps (mode : Mode) (uuid : Uuid) (record : Record) (manager : Manager) : Prop where
  records : manager.registry.records = [record]
  uuid_eq : record.uuid = uuid.text
  watchdog : ∀ reaction, manager.watchdog = .running reaction → reaction = .report
  acts : manager.host.driver.trace.filter Call.acts = record.onDevice (Hardware.welcome mode)

/-- Looking does nothing to a device. -/
theorem filter_acts_findLoss (records : List Record) (driver : Driver) :
    (findLoss records driver).2.trace.filter Call.acts = driver.trace.filter Call.acts := by
  induction records generalizing driver with
  | nil => rfl
  | cons record records ih =>
      unfold findLoss
      split
      · rename_i hardware _ _
        have hasked : (hardware.connection.alive driver).2.trace.filter Call.acts =
            driver.trace.filter Call.acts := by
          simp [Connection.alive, Connection.frame, Call.acts]
        split
        rename_i code after halive
        rw [halive] at hasked
        split
        · exact hasked
        · exact (ih after).trans hasked
      · exact ih driver

namespace Keeps

variable {mode : Mode} {uuid : Uuid} {record : Record} {manager : Manager}

/-- Whatever passes, the display is kept. -/
theorem perform (hkeeps : Keeps mode uuid record manager) {operation : Operation}
    (hpassing : isPassing operation = true) :
    Keeps mode uuid record (manager.perform operation).2 := by
  obtain ⟨hrecords, huuid, hwatchdog, hacts⟩ := hkeeps
  cases operation with
  | scan =>
      have hlooked := filter_acts_findLoss manager.registry.records manager.host.driver
      have hscanned := manager.scanned_scan
      simp only [Manager.perform]
      generalize manager.scan = outcome at hscanned ⊢
      cases hscanned with
      | idle still => exact ⟨hrecords, huuid, hwatchdog, hacts⟩
      | healthy running => exact ⟨hrecords, huuid, hwatchdog, hlooked.trans hacts⟩
      | @lost reaction loss running found =>
          -- the command line is told of the loss, and nothing else happens
          obtain rfl := hwatchdog reaction running
          refine ⟨hrecords, huuid, fun _ hrunning => ?_, hlooked.trans hacts⟩
          cases hrunning
  | setMemory state => exact ⟨hrecords, huuid, hwatchdog, hacts⟩
  | setScript script => exact ⟨hrecords, huuid, hwatchdog, hacts⟩
  | setFiles files => exact ⟨hrecords, huuid, hwatchdog, hacts⟩
  | setSource source => exact ⟨hrecords, huuid, hwatchdog, hacts⟩
  | _ => cases hpassing

theorem run (hkeeps : Keeps mode uuid record manager) {operations : List Operation}
    (hpassing : ∀ operation ∈ operations, isPassing operation = true) :
    Keeps mode uuid record (manager.run operations).2 := by
  induction operations generalizing manager with
  | nil => exact hkeeps
  | cons operation operations ih =>
      obtain ⟨hfirst, hrest⟩ := List.forall_mem_cons.mp hpassing
      exact ih (hkeeps.perform hfirst) hrest

theorem get?_eq (hkeeps : Keeps mode uuid record manager) :
    manager.registry.get? uuid.text = some record := by
  rw [Registry.get?, hkeeps.records, List.find?_cons_of_pos]
  exact beq_iff_eq.mpr hkeeps.uuid_eq

/-- Both ways to end give up the one device that there is. -/
theorem trace_closing (hkeeps : Keeps mode uuid record manager) (hconnected : record.Connected)
    (loss? : Option Loss) :
    (manager.run (closing uuid loss?)).2.host.driver.trace =
      manager.host.driver.trace ++ record.onDevice Hardware.farewell := by
  have hrecords := hkeeps.records
  cases loss? with
  | some loss =>
      have hall : ∀ other ∈ manager.registry.records, other.Connected := by
        rw [hrecords]
        exact List.forall_mem_singleton.mpr hconnected
      have hreleased := Registry.trace_releaseAll hall manager.host.driver
      rw [hrecords, List.flatMap_singleton] at hreleased
      exact hreleased
  | none =>
      -- the display is removed, and closing finds nothing left to give up
      have hremoved := removeDisplay_of_get? hkeeps.get?_eq
      have hempty : (manager.registry.remove uuid.text).2.records = [] := by
        simp [Registry.remove, hrecords, hkeeps.uuid_eq]
      have hrun : (manager.run (closing uuid none)).2.host.driver =
          (manager.registry.remove uuid.text).2.releaseAll
            (record.release manager.host.driver) := by
        show (manager.removeDisplay uuid).2.closeDriver.host.driver = _
        rw [hremoved]
        rfl
      rw [hrun, Registry.releaseAll, hempty, List.foldl_nil]
      exact Record.trace_release hconnected manager.host.driver

/-- A display that is kept is there to be removed, so only a loss makes the run fail. -/
theorem code_finish {output : String} (hkeeps : Keeps mode uuid record manager)
    (loss? : Option Loss) :
    ((Kept.mk manager uuid output).finish loss?).1.code = if loss?.isSome then 1 else 0 := by
  cases loss? with
  | some loss => rfl
  | none =>
      simp only [Kept.finish, removeDisplay_of_get? hkeeps.get?_eq]
      rfl

/-- When the run has ended, the device was visited from its welcome to its farewell. -/
theorem tidy_closing (hkeeps : Keeps mode uuid record manager) (hconnected : record.Connected)
    (loss? : Option Loss) :
    Trace.Tidy mode (manager.run (closing uuid loss?)).2.host.driver.trace := by
  unfold Trace.Tidy
  rw [hkeeps.trace_closing hconnected loss?, List.filter_append, hkeeps.acts, Record.onDevice,
    Record.onDevice]
  cases record.hardware? with
  | none => exact .inl rfl
  | some hardware => exact .inr ⟨_, _, rfl⟩

end Keeps

/-- A rate that fits is a whole number of hertz again when it is divided. -/
theorem mode_display_request {mode : Mode} (hfits : (millihertz? mode.hertz).isSome = true)
    (uuid : Uuid) (stem : String) : ((request mode uuid).display stem).mode = mode := by
  have hlt : mode.hertz.toNat * 1000 < UInt32.size := by
    unfold millihertz? at hfits
    split at hfits
    · assumption
    · cases hfits
  have hhertz : mode.hertz * 1000 / 1000 = mode.hertz := by
    apply UInt32.toNat_inj.mp
    have hthousand : (1000 : UInt32).toNat = 1000 := rfl
    rw [UInt32.toNat_div, UInt32.toNat_mul, hthousand, Nat.mod_eq_of_lt hlt,
      Nat.mul_div_cancel _ (by decide)]
  obtain ⟨width, height, hertz⟩ := mode
  simp only [request, DisplayRequest.display, Display.mode, hhertz]

/-- The calls with which a device is found are questions and its welcome. -/
theorem filter_acts_provision (mode : Mode) (manager : Manager) :
    (manager.provision mode).2.trace.filter Call.acts =
      manager.host.driver.trace.filter Call.acts ++
        (manager.provision mode).1.elim [] (Hardware.welcome mode) := by
  obtain ⟨questions, hquiet, htrace⟩ := trace_of_provided (manager.provided_provision mode)
  -- questions do nothing to a device
  have hquestions : questions.filter Call.acts = [] :=
    List.filter_eq_nil_iff.mpr fun call hcall => by simp [Call.acts_of_isQuiet (hquiet call hcall)]
  rw [htrace, List.filter_append, List.filter_append, hquestions, List.nil_append]
  cases (manager.provision mode).1 <;> rfl

/-- The first display of a manager is kept, if nothing was done to a device before. -/
theorem keeps_createDisplay {mode : Mode} {manager : Manager} (uuid : Uuid)
    (hfits : (millihertz? mode.hertz).isSome = true) (hready : manager.state.isReady = true)
    (hempty : manager.registry = .empty) (hwatchdog : manager.watchdog = .running .report)
    (hidle : manager.host.driver.trace.filter Call.acts = []) :
    ∃ record, Keeps mode uuid record (manager.createDisplay (request mode uuid)).2 := by
  have hmode := mode_display_request hfits uuid manager.config.displayNameStem
  have hregistry := registry_createDisplay (request mode uuid) hready
  have hdriver := driver_createDisplay (request mode uuid) hready
  rw [hmode, hempty] at hregistry hdriver
  refine ⟨⟨(request mode uuid).display manager.config.displayNameStem, (manager.provision mode).1⟩,
    ?_, rfl, ?_, ?_⟩
  · rw [hregistry]
    rfl
  · intro reaction hrunning
    have hkept : (manager.createDisplay (request mode uuid)).2.watchdog = manager.watchdog := by
      rw [createDisplay, if_pos hready]
      rfl
    rw [hkept, hwatchdog] at hrunning
    exact (Watchdog.running.inj hrunning).symm
  · rw [hdriver, Registry.get?_empty, filter_acts_provision, hidle, List.nil_append]
    rfl

section Fresh

variable {mode : Mode} (config : Config) (files : Files) (source : DriverSource) (backend : Backend)
  (probes : Nat) (uuid : Uuid)

/-- Creating a display on a new manager keeps it. -/
theorem keeps_opening (hfits : (millihertz? mode.hertz).isSome = true) :
    ∃ record, Keeps mode uuid record
      ((new config ⟨files, source, .fresh backend, probes⟩).run (opening mode uuid)).2 := by
  let host : Host := ⟨files, source, .fresh backend, probes⟩
  have hunknown : (new config host).state ≠ .ready := nofun
  have hopened := openDriver_of_state_ne hunknown
  let watched := ((new config host).openDriver.startWatchdog .report).2
  have hrun : ((new config host).run (opening mode uuid)).2 =
      (watched.createDisplay (request mode uuid)).2 := rfl
  -- looking for a driver and starting the watchdog make no call
  have hidle : watched.host.driver.trace = [] := by
    simp only [watched, hopened]
    exact trace_probe config.libraryCandidates host
  rw [hrun]
  apply keeps_createDisplay uuid hfits
  · simp only [watched, hopened]
    rfl
  · simp only [watched, hopened]
    rfl
  · simp only [watched, hopened]
    rfl
  · rw [hidle]
    rfl

/-- However creating a display on a new manager ends, the trace is tidy, even after the
manager itself has ended; and the exit code tells whether the display was lost. -/
theorem tidy_of_canEnd (hfits : (millihertz? mode.hertz).isSome = true) {loss? : Option Loss}
    {ended : Outcome × Manager}
    (hend : CanEnd mode uuid (new config ⟨files, source, .fresh backend, probes⟩) loss? ended) :
    ended.1.code = (if loss?.isSome then 1 else 0) ∧ Trace.Tidy mode ended.2.drop.trace := by
  obtain ⟨kept, passing, hbegin, hpassing, rfl⟩ := hend
  obtain ⟨output, hkept⟩ :=
    begin_eq mode uuid (new config ⟨files, source, .fresh backend, probes⟩)
  rw [hkept] at hbegin
  obtain rfl := Except.ok.inj hbegin
  obtain ⟨record, hopened⟩ := keeps_opening config files source backend probes uuid hfits
  have hkeeps := hopened.run hpassing
  -- the record holds what the trace leaves open, so its device is connected when the run ends
  have hholds := holds_run config files source backend probes (opening mode uuid ++ passing)
  simp only [run_append] at hholds
  have hconnected : record.Connected :=
    hholds.connected record (by rw [hkeeps.records]; exact List.mem_singleton_self record)
  refine ⟨hkeeps.code_finish loss?, ?_⟩
  rw [finish_eq, Kept.after, drop_closing]
  exact hkeeps.tidy_closing hconnected loss?

end Fresh

end VirtualMonitor.CommandLine
