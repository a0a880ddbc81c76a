import VirtualMonitor.Proofs.Manager.Effect

/-!
# When displays can be created

Displays are created while the driver is ready, and only opening the driver makes it
ready (`state_perform`).  So after the driver was marked as failed every creation is
refused, whatever else happens, until the driver is opened
(`creation_refused_until_opened`).

Opening is enough, though.  It does not ask why the driver is not ready, and a driver
that was marked as failed need not be closed before
(`creation_succeeds_without_closing`).
-/

namespace VirtualMonitor.Manager

/-! ## The state of the driver -/

theorem state_openDriver (manager : Manager) : manager.openDriver.state = .ready := by
  unfold openDriver
  split
  · rename_i hready
    exact eq_of_beq hready
  · rfl

theorem openDriver_of_ready {manager : Manager} (hready : manager.state = .ready) :
    manager.openDriver = manager :=
  if_pos (beq_iff_eq.mpr hready)

/-- What an operation can make of the state of the driver. -/
theorem state_perform (manager : Manager) (operation : Operation) :
    (manager.perform operation).2.state = manager.state ∨
      (operation = .openDriver ∧ (manager.perform operation).2.state = .ready) ∨
      (manager.perform operation).2.state = .unknown ∨
      (manager.perform operation).2.state = .watchdogFailed := by
  cases hkind : operation.isLifecycle with
  | false =>
      obtain ⟨host, registry, hperform⟩ := perform_of_not_isLifecycle hkind manager
      rw [hperform]
      exact .inl rfl
  | true =>
      cases operation with
      | openDriver => exact .inr (.inl ⟨rfl, manager.state_openDriver⟩)
      | closeDriver => exact .inr (.inr (.inl rfl))
      | markFailed => exact .inr (.inr (.inr rfl))
      | preferAdapter name => exact .inl rfl
      | subscribe subscription =>
          left
          cases subscription <;> simp only [perform, startWatchdog] <;> split <;> rfl
      | scan =>
          have hscanned := manager.scanned_scan
          simp only [perform]
          generalize manager.scan = outcome at hscanned ⊢
          cases hscanned with
          | idle still => exact .inl rfl
          | healthy running => exact .inl rfl
          | @lost reaction loss running found =>
              -- a reaction may mark the driver as failed, or close it
              cases reaction with
              | report => exact .inl rfl
              | markFailed => exact .inr (.inr (.inr rfl))
              | closeDriver => exact .inr (.inr (.inl rfl))
      | _ => cases hkind

/-- Whatever happens, a driver that is not ready stays so until it is opened. -/
theorem not_ready_run {manager : Manager} {operations : List Operation}
    (hstate : manager.state ≠ .ready)
    (hoperations : ∀ operation ∈ operations, operation ≠ .openDriver) :
    (manager.run operations).2.state ≠ .ready := by
  induction operations generalizing manager with
  | nil => exact hstate
  | cons operation operations ih =>
      obtain ⟨hne, hrest⟩ := List.forall_mem_cons.mp hoperations
      have hnext : (manager.perform operation).2.state ≠ .ready := by
        rcases manager.state_perform operation with hsame | ⟨hopen, -⟩ | hunknown | hfailed
        · rwa [hsame]
        · exact absurd hopen hne
        · rw [hunknown]
          exact nofun
        · rw [hfailed]
          exact nofun
      exact ih hnext hrest

/-! ## Creating displays -/

theorem createDisplay_of_state_ne {manager : Manager} (request : DisplayRequest)
    (hstate : manager.state ≠ .ready) :
    manager.createDisplay request = (.error .driverNotReady, manager) :=
  createDisplay_of_not_isReady request fun hready => hstate (eq_of_beq hready)

theorem createDisplay_of_state_eq {manager : Manager} (request : DisplayRequest)
    (hstate : manager.state = .ready) :
    (manager.createDisplay request).1 =
      .ok (Display.nameFor manager.config.displayNameStem request.uuid) := by
  have hready : manager.state.isReady = true := beq_iff_eq.mpr hstate
  simp only [createDisplay, hready, if_true]
  rfl

/-- After the driver was marked as failed, and for as long as it is not opened, every
creation is refused and leaves the manager, its displays and its driver as they are.
The first opening ends this: then a display is created, whether or not the driver was
closed in between. -/
theorem creation_refused_until_opened (config : Config) (host : Host)
    (earlier between : List Operation) (request : DisplayRequest)
    (hbetween : ∀ operation ∈ between, operation ≠ .openDriver) :
    let manager := ((new config host).run (earlier ++ .markFailed :: between)).2
    manager.createDisplay request = (.error .driverNotReady, manager) ∧
      (manager.openDriver.createDisplay request).1 =
        .ok (Display.nameFor config.displayNameStem request.uuid) := by
  intro manager
  have hmanager : manager = (((new config host).run earlier).2.markFailed.run between).2 :=
    run_append (new config host) earlier (.markFailed :: between)
  have hstate : manager.state ≠ .ready := by
    rw [hmanager]
    exact not_ready_run (by simp [markFailed]) hbetween
  have hconfig : manager.openDriver.config = config := by
    calc manager.openDriver.config
        = manager.config := manager.config_perform .openDriver
      _ = config := config_run _ _
  have hopened := createDisplay_of_state_eq request manager.state_openDriver
  rw [hconfig] at hopened
  exact ⟨createDisplay_of_state_ne request hstate, hopened⟩

/-- A loss is reported and marked, and the driver is closed but not opened again. -/
theorem creation_refused_until_opened_closed :
    let request : DisplayRequest :=
      ⟨⟨Vector.replicate 32 0⟩, "client", "screen", 1920, 1080, 60000⟩
    let manager := ((new .standard ⟨⟨fun _ => none⟩, .missing,
      .fresh (.memory (.ofSlots [])), 0⟩).run ([.openDriver, .create request] ++
        .markFailed :: [.subscribe .channel, .closeDriver])).2
    (manager.createDisplay request).1 = .error .driverNotReady := by
  intro request manager
  have hrefused := creation_refused_until_opened .standard
    ⟨⟨fun _ => none⟩, .missing, .fresh (.memory (.ofSlots [])), 0⟩
    [.openDriver, .create request] [.subscribe .channel, .closeDriver] request (by simp)
  exact congrArg Prod.fst hrefused.1

/-- A driver that was marked as failed is opened without being closed, and the next
display is created. -/
theorem creation_succeeds_without_closing :
    let request : DisplayRequest :=
      ⟨⟨Vector.replicate 32 0⟩, "client", "screen", 1920, 1080, 60000⟩
    let between : List Operation := [.openDriver]
    let manager := ((new .standard ⟨⟨fun _ => none⟩, .missing,
      .fresh (.memory (.ofSlots [])), 0⟩).run ([.openDriver] ++ .markFailed :: between)).2
    .closeDriver ∉ between ∧
      (manager.createDisplay request).1 = .ok "VIRTUAL-00000000" := by
  intro request between manager
  refine ⟨by simp [between], ?_⟩
  have hready : manager.state = .ready := rfl
  exact createDisplay_of_state_eq request hready

end VirtualMonitor.Manager
