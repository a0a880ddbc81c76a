import VirtualMonitor.Proofs.Manager.Effect

/-!
# Handles and modes over whole runs

Handles are given up only together with their records, and that happens in many
places: when a display is removed or created anew, when the driver is closed, by the
reaction to a loss, and when the manager ends.  `holds_run` says that through all of
them the records hold exactly what the trace of the driver leaves open.  The two main
statements read this off for callers.

* `handles_accounted`: the open handles are those of the records, one for each record
  with a device; no handle is used after it was closed, nor closed twice; and closing
  the driver, or ending the manager, leaves none open.
* `plugged_edid_agrees`: what was last plugged into the device of a record is the EDID
  of the mode that the record states.
-/

namespace VirtualMonitor

/-- The connections that records own, one for each record with a device. -/
def Registry.connections (registry : Registry) : List Connection :=
  registry.records.filterMap fun record => record.hardware?.map Hardware.connection

namespace Holds

/-- Every effect of an operation keeps records and trace together. -/
theorem effect {manager : Manager} {registry : Registry} {driver : Driver}
    (heffect : Manager.Effect manager registry driver)
    (hholds : Holds manager.registry.records manager.host.driver) :
    Holds registry.records driver := by
  cases heffect with
  | kept asked => exact hholds.asked asked
  | used mem backed call => exact hholds.frame mem backed call
  | looked => exact hholds.findLoss (List.Subset.refl _)
  | @created request outcome provided absent =>
      have hinsert : (manager.registry.insert
          ⟨request.display manager.config.displayNameStem, outcome.1⟩).2.records.Perm
          (⟨request.display manager.config.displayNameStem, outcome.1⟩ ::
            (manager.registry.remove request.uuid.text).2.records) :=
        Registry.insert_perm ..
      rw [Registry.remove_of_get?_eq_none absent] at hinsert
      exact (hholds.provided provided).perm hinsert.symm
  | @recreated request outcome replaced provided present =>
      have hinsert := Registry.insert_perm
        ⟨request.display manager.config.displayNameStem, outcome.1⟩ manager.registry
      -- for a moment the new record and the replaced one are held side by side
      have hboth := (hholds.provided provided).perm
        (((Registry.perm_of_get? present).cons _).trans (.swap ..))
      exact hboth.release.perm hinsert.symm
  | removed present => exact (hholds.perm (Registry.perm_of_get? present)).release
  | remoded present width height millihertz =>
      have hchanged := (hholds.perm (Registry.perm_of_get? present)).remode
        width height millihertz
      rw [← Manager.uuid_remode width height millihertz _ manager.host.driver] at hchanged present
      exact hchanged.perm (Registry.replace_perm present).symm
  | closed => exact hholds.releaseAll
  | lookedAndClosed => exact (hholds.findLoss (List.Subset.refl _)).releaseAll

variable {registry : Registry} {driver : Driver}

theorem openHandles_perm (hholds : Holds registry.records driver) :
    (Trace.openHandles driver.trace).Perm (registry.connections.map Connection.handle) := by
  have hports : (registry.records.filterMap Record.port?).map Port.handle =
      registry.connections.map Connection.handle := by
    simp only [Registry.connections, List.map_filterMap, Record.port?, Option.map_map]
    rfl
  rw [← hports]
  exact hholds.leaves.opened

theorem openHandles_eq_nil (hholds : Holds [] driver) : Trace.openHandles driver.trace = [] := by
  simpa using hholds.leaves.opened

/-- The monitor of a record's own mode is plugged into its device. -/
theorem plugged?_handle (hholds : Holds registry.records driver) {record : Record}
    (hrecord : record ∈ registry.records) {hardware : Hardware}
    (hhardware : record.hardware? = some hardware) :
    Trace.plugged? hardware.connection.handle driver.trace =
      some (Edid.ofMode record.display.mode).bytes := by
  have hport : hardware.connection.port (Edid.ofMode record.display.mode).bytes ∈
      registry.records.filterMap Record.port? :=
    List.mem_filterMap.mpr ⟨record, hrecord, by simp [Record.port?, hhardware]⟩
  have hconnected := (hholds.backed record hrecord hardware hhardware).connected
  have hplugged := hholds.leaves.plugged _ hport
  simpa [Connection.port, hconnected] using hplugged

end Holds

namespace Manager

/-- After every run the records hold exactly what the trace leaves open. -/
theorem holds_run (config : Config) (files : Files) (source : DriverSource) (backend : Backend)
    (probes : Nat) (operations : List Operation) :
    let manager := ((new config ⟨files, source, .fresh backend, probes⟩).run operations).2
    Holds manager.registry.records manager.host.driver :=
  run_induction (P := fun manager => Holds manager.registry.records manager.host.driver)
    _ (.nil backend) (fun manager operation => Holds.effect (manager.effect_perform operation))
    operations

/-- Whatever the driver answers and whatever happens to a manager: the handles that
the trace shows as opened and not yet closed are those that the records own, one for
each record with a device, and a monitor is plugged into each.  No request is made on
a handle that is not open, and a closed handle must be granted again before the next
request on it, be it another closing.  After the driver is closed, and after the
manager has ended, no handle is open. -/
theorem handles_accounted (config : Config) (files : Files) (source : DriverSource)
    (backend : Backend) (probes : Nat) (operations : List Operation) :
    let manager := ((new config ⟨files, source, .fresh backend, probes⟩).run operations).2
    let trace := manager.host.driver.trace
    (Trace.openHandles trace).Perm (manager.registry.connections.map Connection.handle) ∧
      (manager.registry.connections.map Connection.handle).Nodup ∧
      (∀ connection ∈ manager.registry.connections,
        connection.connected = true ∧ (Trace.plugged? connection.handle trace).isSome) ∧
      (∀ earlier handle request later, trace = earlier ++ .onHandle handle request :: later →
        handle ∈ Trace.openHandles earlier) ∧
      (∀ earlier between later handle request,
        trace = earlier ++ .onHandle handle .close :: between ++
          .onHandle handle request :: later →
        ∃ slot, .openDevice slot (some handle) ∈ between) ∧
      Trace.Disciplined manager.closeDriver.host.driver.trace ∧
      Trace.openHandles manager.closeDriver.host.driver.trace = [] ∧
      Trace.Disciplined manager.drop.trace ∧
      Trace.openHandles manager.drop.trace = [] := by
  intro manager trace
  have hholds : Holds manager.registry.records manager.host.driver :=
    holds_run config files source backend probes operations
  -- with no records left, nothing may be open
  have hclosed : Holds [] manager.closeDriver.host.driver := hholds.releaseAll
  have hdropped : Holds [] manager.drop := hclosed
  refine ⟨hholds.openHandles_perm, ?_, ?_, ?_, ?_, hclosed.leaves.disciplined,
    hclosed.openHandles_eq_nil, hdropped.leaves.disciplined, hdropped.openHandles_eq_nil⟩
  · exact hholds.openHandles_perm.nodup_iff.mp hholds.leaves.disciplined.nodup_openHandles
  · intro connection hconnection
    obtain ⟨record, hrecord, hmap⟩ := List.mem_filterMap.mp hconnection
    obtain ⟨hardware, hhardware, rfl⟩ := Option.map_eq_some_iff.mp hmap
    have hconnected := (hholds.backed record hrecord hardware hhardware).connected
    have hplugged := hholds.plugged?_handle hrecord hhardware
    exact ⟨hconnected, Option.isSome_of_eq_some hplugged⟩
  · intro earlier handle request later hsplit
    exact hholds.leaves.disciplined earlier _ later hsplit
  · intro earlier between later handle request hsplit
    exact hholds.leaves.disciplined.granted_between hsplit

/-- After every run, the EDID that was last plugged into the device of a record is the
one of the size and the rate that the record states, byte for byte, and the monitor is
still plugged in. -/
theorem plugged_edid_agrees (config : Config) (files : Files) (source : DriverSource)
    (backend : Backend) (probes : Nat) (operations : List Operation) :
    let manager := ((new config ⟨files, source, .fresh backend, probes⟩).run operations).2
    let trace := manager.host.driver.trace
    ∀ record ∈ manager.registry.records, ∀ hardware, record.hardware? = some hardware →
      Trace.lastEdid? hardware.connection.handle trace =
          some (Edid.ofMode ⟨record.display.width, record.display.height,
            record.display.millihertz / 1000⟩).bytes ∧
        Trace.plugged? hardware.connection.handle trace =
          Trace.lastEdid? hardware.connection.handle trace ∧
        hardware.connection.connected = true := by
  intro manager trace record hrecord hardware hhardware
  have hholds : Holds manager.registry.records manager.host.driver :=
    holds_run config files source backend probes operations
  have hplugged := hholds.plugged?_handle hrecord hhardware
  have hlast := Trace.lastEdid?_of_plugged? hplugged
  exact ⟨hlast, hplugged.trans hlast.symm,
    (hholds.backed record hrecord hardware hhardware).connected⟩

/-- A display that is created anew, in another slot, and then gets another mode. -/
theorem plugged_edid_agrees_recreated :
    let request : DisplayRequest :=
      ⟨⟨Vector.replicate 32 0⟩, "client", "screen", 1920, 1080, 60000⟩
    Trace.lastEdid? ⟨2⟩ ((new .standard ⟨⟨fun _ => some (.file [])⟩, .given,
        .fresh (.memory (.ofSlots [.available, .notPresent])), 0⟩).run
        [.openDriver, .create request, .create request,
          .reconfigure "VIRTUAL-00000000" 800 600 75000]).2.host.driver.trace =
      some (Edid.ofMode ⟨800, 600, 75⟩).bytes := by
  intro request
  have hagrees := plugged_edid_agrees .standard ⟨fun _ => some (.file [])⟩ .given
    (.memory (.ofSlots [.available, .notPresent])) 0
    [.openDriver, .create request, .create request,
      .reconfigure "VIRTUAL-00000000" 800 600 75000]
    ⟨⟨"VIRTUAL-00000000", "00000000-0000-0000-0000-000000000000", "client", "screen", 800, 600,
      75000, true⟩, some ⟨⟨⟨2⟩, 1, true⟩, some "/dev/dri/card1"⟩⟩
  exact (hagrees (by decide +kernel) _ rfl).1

end Manager

end VirtualMonitor
