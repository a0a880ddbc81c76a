import VirtualMonitor.Proofs.Manager.Past

/-!
# Closing the driver starts anew

A manager that was closed is a new manager on the same host, whatever happened before.  What
is left of its past is the trace of the driver, and no operation reads that
(`run_withPast`), so from there on it does what a new manager does on a driver in the same
state that was never called.

The state of the driver says how much there is to close.  It is unknown, ready or marked as
failed, and as long as it is unknown there is neither a display nor a binding
(`vacant_run`).

* `closed_is_new`: the manager after closing, and every run that follows.
-/

namespace VirtualMonitor

/-- The same host, as if its driver was never called and never searched for. -/
def Host.anew (host : Host) : Host :=
  { host with driver := .fresh host.driver.backend, probes := 0 }

/-- A host is what it would be without its past, with that past put in front. -/
theorem Host.withPast_anew (host : Host) :
    host.anew.withPast host.driver.trace host.probes = host := by
  simp [withPast, Driver.withPast, anew, Driver.fresh]

namespace Manager

/-! ## What an unknown driver holds -/

/-- No display is registered and no driver is bound while the driver is unknown. -/
def Vacant (manager : Manager) : Prop :=
  manager.state = .unknown → manager.registry = .empty ∧ manager.binding = .absent

/-- Where there is no display, and none can be created, none appears. -/
theorem registry_perform_of_unknown {manager : Manager} {operation : Operation}
    (hkind : operation.isLifecycle = false) (hstate : manager.state = .unknown)
    (hempty : manager.registry = .empty) :
    (manager.perform operation).2.registry = .empty := by
  have hget : ∀ uuid, manager.registry.get? uuid = none := fun uuid => by
    rw [hempty, Registry.get?_empty]
  have hnamed : ∀ name, manager.registry.named? name = none := fun name => by
    rw [hempty]
    rfl
  -- no display can be created, and there is none that could be removed or changed
  cases operation with
  | create request =>
      have hnotReady : manager.state ≠ .ready := by simp [hstate]
      simp only [perform, createDisplay_of_state_ne request hnotReady]
      exact hempty
  | remove uuid =>
      simp only [perform, removeDisplay_of_get?_eq_none (hget uuid.text)]
      exact hempty
  | reconfigure name width height millihertz =>
      simp only [perform, reconfigure, hnamed]
      exact hempty
  | reconfigureIsolated name width height millihertz isolated =>
      simp only [perform, reconfigureIsolated, reconfigure, hnamed]
      exact hempty
  | frame name call =>
      simp only [perform, frame, connection?, hnamed]
      exact hempty
  | openDriver => cases hkind
  | closeDriver => cases hkind
  | markFailed => cases hkind
  | preferAdapter name => cases hkind
  | subscribe subscription => cases hkind
  | scan => cases hkind
  | _ => exact hempty

/-- Only closing leaves the driver unknown, and it gives everything up. -/
theorem vacant_perform {manager : Manager} (hvacant : manager.Vacant) (operation : Operation) :
    (manager.perform operation).2.Vacant := by
  -- the state is changed only by what concerns the whole session
  cases hkind : operation.isLifecycle with
  | false =>
      obtain ⟨host, registry, hperform⟩ := perform_of_not_isLifecycle hkind manager
      intro hafter
      have hstate : manager.state = .unknown := by simpa [hperform] using hafter
      obtain ⟨hempty, hbinding⟩ := hvacant hstate
      refine ⟨registry_perform_of_unknown hkind hstate hempty, ?_⟩
      rw [hperform]
      exact hbinding
  | true =>
      cases operation with
      | openDriver =>
          intro hunknown
          have hready : manager.openDriver.state = .unknown := hunknown
          rw [state_openDriver] at hready
          cases hready
      | closeDriver => exact fun _ => ⟨rfl, rfl⟩
      | markFailed => exact fun hunknown => by cases hunknown
      | preferAdapter name => exact hvacant
      | subscribe subscription =>
          cases subscription <;> simp only [perform, startWatchdog] <;> split <;> exact hvacant
      | scan =>
          have hscanned := manager.scanned_scan
          simp only [perform]
          generalize manager.scan = outcome at hscanned ⊢
          cases hscanned with
          | idle still => exact hvacant
          | healthy running => exact hvacant
          | @lost reaction loss running found =>
              -- a loss that is reported leaves the driver failed or closed, or as it was
              cases reaction with
              | report => exact hvacant
              | markFailed => exact fun hunknown => by cases hunknown
              | closeDriver => exact fun _ => ⟨rfl, rfl⟩
      | _ => cases hkind

theorem vacant_run (config : Config) (host : Host) (operations : List Operation) :
    ((new config host).run operations).2.Vacant :=
  run_induction (P := Vacant) _ (fun _ => ⟨rfl, rfl⟩)
    (fun _ operation hvacant => vacant_perform hvacant operation) operations

/-- The other states that a driver could be in are never reached. -/
theorem state_run (config : Config) (host : Host) (operations : List Operation) :
    let state := ((new config host).run operations).2.state
    state = .unknown ∨ state = .ready ∨ state = .watchdogFailed := by
  apply run_induction (P := fun manager =>
    manager.state = .unknown ∨ manager.state = .ready ∨ manager.state = .watchdogFailed)
  · exact .inl rfl
  · intro manager operation hstate
    rcases manager.state_perform operation with hsame | ⟨-, hready⟩ | hunknown | hfailed
    · rwa [hsame]
    · exact .inr (.inl hready)
    · exact .inl hunknown
    · exact .inr (.inr hfailed)

/-! ## After closing -/

theorem closeDriver_eq_new (manager : Manager) :
    manager.closeDriver = new manager.config
      { manager.host with driver := manager.registry.releaseAll manager.host.driver } := rfl

/-- A new manager does the same on a host that was used before as on one that was not. -/
theorem run_new (config : Config) (host : Host) (operations : List Operation) :
    (new config host).run operations =
      ((new config host.anew).run operations).map id
        (withPast host.driver.trace host.probes) := by
  have hpast : (new config host.anew).withPast host.driver.trace host.probes =
      new config host :=
    congrArg (new config) host.withPast_anew
  rw [← run_withPast, hpast]

/-- After any run, closing the driver leaves what a new manager is: the driver is unknown,
there are no displays, no binding, no wanted adapter and no watchdog.  Of the host only the
driver has changed, by giving up the displays; so closing once more changes nothing, and no
call is made.

From then on, every run gives the answers that a new manager gives on the same files and on
a driver in the same state that was never called, and makes exactly the calls that this one
makes.

The driver is always unknown, ready or marked as failed; and whenever it is unknown, no
display is registered and real monitors are not enabled. -/
theorem closed_is_new (config : Config) (host : Host) (operations later : List Operation) :
    let manager := ((new config host).run operations).2
    let closed := manager.closeDriver
    let fresh := (new config closed.host.anew).run later
    closed = new config closed.host ∧
      (closed.state = .unknown ∧ closed.registry = .empty ∧ closed.binding = .absent ∧
        closed.adapter? = none ∧ closed.watchdog = .absent) ∧
      closed.host =
        { manager.host with driver := manager.registry.releaseAll manager.host.driver } ∧
      closed.closeDriver = closed ∧
      (closed.run later).1 = fresh.1 ∧
      (closed.run later).2.host.driver.trace =
        closed.host.driver.trace ++ fresh.2.host.driver.trace ∧
      (manager.state = .unknown ∨ manager.state = .ready ∨ manager.state = .watchdogFailed) ∧
      (manager.state = .unknown →
        manager.registry = .empty ∧ manager.hardwareEnabled = false) := by
  intro manager closed fresh
  have hconfig : manager.config = config := config_run (new config host) operations
  have hclosed : closed = new config closed.host := by
    rw [← hconfig]
    exact manager.closeDriver_eq_new
  -- a closed manager is a new one whose host has a past, and no answer shows a host's past
  have hlater : closed.run later =
      fresh.map id (withPast closed.host.driver.trace closed.host.probes) := by
    rw [hclosed]
    exact run_new config closed.host later
  refine ⟨hclosed, ⟨rfl, rfl, rfl, rfl, rfl⟩, rfl, rfl, ?_, ?_,
    state_run config host operations, ?_⟩
  · rw [hlater]
    rfl
  · rw [hlater]
    rfl
  · intro hunknown
    obtain ⟨hempty, hbinding⟩ := vacant_run config host operations hunknown
    refine ⟨hempty, ?_⟩
    show manager.binding.isPresent = false
    rw [hbinding]
    rfl

end Manager

end VirtualMonitor
