import VirtualMonitor.Manager.Watchdog
import VirtualMonitor.Proofs.Display.Registry
import VirtualMonitor.Proofs.Manager.Provision

/-!
# Records and the handles they hold

`Holds records driver` ties a list of records to the trace of a driver.  What the
trace leaves open is exactly what the records hold: one port for each record with a
device, with the EDID of the record's mode plugged in.  The slots of the records
differ, and every handle is the one that names its slot.

The order of the records does not matter (`Holds.perm`), so each statement below is
about the record at the head of the list: it is added when a device is provisioned
(`Holds.provided`), changed when it gets another mode (`Holds.remode`), and leaves the
list when it is given up (`Holds.release`).  While a display is created anew, the new
record and the one it replaces are both in the list.
-/

namespace VirtualMonitor

/-- The device of a record as it shows in a trace: the record's own mode is what is
plugged in. -/
def Record.port? (record : Record) : Option Port :=
  record.hardware?.map fun hardware =>
    hardware.connection.port (Edid.ofMode record.display.mode).bytes

@[simp] theorem Record.backend_release (record : Record) (driver : Driver) :
    (record.release driver).backend = driver.backend := by
  unfold release
  split
  · exact Connection.backend_release _ driver
  · rfl

/-- A device with its monitor plugged in, whose handle names its slot. -/
structure Hardware.Backed (backend : Backend) (hardware : Hardware) : Prop where
  connected : hardware.connection.connected = true
  slot_nonneg : 0 ≤ hardware.connection.slot
  handle_eq : hardware.connection.handle = backend.handleOf hardware.connection.slot

/-- What the trace of the driver leaves open is what the records hold. -/
structure Holds (records : List Record) (driver : Driver) : Prop where
  leaves : Trace.Leaves driver.trace (records.filterMap Record.port?)
  nodup_slots : (records.filterMap Record.slot?).Nodup
  backed : ∀ record ∈ records, ∀ hardware ∈ record.hardware?, hardware.Backed driver.backend

namespace Holds

variable {records others : List Record} {record : Record} {driver after : Driver}
  {hardware : Hardware}

theorem nil (backend : Backend) : Holds [] (.fresh backend) where
  leaves := .nil
  nodup_slots := .nil
  backed := by simp

theorem perm (hholds : Holds records driver) (hperm : records.Perm others) :
    Holds others driver where
  leaves := hholds.leaves.perm (hperm.filterMap _)
  nodup_slots := (hperm.filterMap _).nodup_iff.mp hholds.nodup_slots
  backed := fun record hrecord => hholds.backed record (hperm.mem_iff.mpr hrecord)

/-- Questions that touch no handle change nothing. -/
theorem asked (hholds : Holds records driver) (hasked : Asked driver after) :
    Holds records after where
  leaves := hasked.leaves hholds.leaves
  nodup_slots := hholds.nodup_slots
  backed := by
    intro record hrecord hardware hhardware
    have hbacked := hholds.backed record hrecord hardware hhardware
    exact ⟨hbacked.connected, hbacked.slot_nonneg, hasked.handleOf ▸ hbacked.handle_eq⟩

/-- The handle that names a free slot belongs to no record. -/
theorem handleOf_notMem (hholds : Holds records driver) {slot : Int32}
    (hfree : slot ∉ records.filterMap Record.slot?) :
    driver.backend.handleOf slot ∉ (records.filterMap Record.port?).map Port.handle := by
  intro hmem
  -- a record with that handle would hold the slot
  obtain ⟨port, hport, hhandle⟩ := List.mem_map.mp hmem
  obtain ⟨record, hrecord, hrecordPort⟩ := List.mem_filterMap.mp hport
  obtain ⟨hardware, hhardware, rfl⟩ := Option.map_eq_some_iff.mp hrecordPort
  have hbacked := hholds.backed record hrecord hardware hhardware
  have hslot : hardware.connection.slot = slot :=
    driver.backend.handleOf_injective (hbacked.handle_eq.symm.trans hhandle)
  refine hfree (List.mem_filterMap.mpr ⟨record, hrecord, ?_⟩)
  simp [Record.slot?, hhardware, hslot]

/-! ## Adding a record -/

theorem cons_passthrough (hholds : Holds records driver) (display : Display) :
    Holds (⟨display, none⟩ :: records) driver where
  leaves := hholds.leaves
  nodup_slots := hholds.nodup_slots
  backed := by simpa using hholds.backed

theorem cons_granted (hholds : Holds records driver) (display : Display) {slot : Int32}
    {handle : Handle} {node? : Option String} (hfree : slot ∉ records.filterMap Record.slot?)
    (hgrant : driver.backend.grant? slot = some handle) :
    Holds (⟨display, some ⟨⟨handle, slot, true⟩, node?⟩⟩ :: records)
      ((driver.openSlot slot).2.send handle
        (.connect (Edid.ofMode display.mode).bytes 0)).2 where
  leaves := by
    obtain ⟨-, rfl⟩ := Backend.handleOf_of_grant? hgrant
    have hopened := hholds.leaves.openDevice slot (hholds.handleOf_notMem hfree)
    have hconnected := hopened.connect (Edid.ofMode display.mode).bytes 0
    simpa [Record.port?, Connection.port, hgrant] using hconnected
  nodup_slots := List.nodup_cons.mpr ⟨hfree, hholds.nodup_slots⟩
  backed := by
    obtain ⟨hnonneg, hhandle⟩ := Backend.handleOf_of_grant? hgrant
    intro record hrecord hardware hhardware
    rcases List.mem_cons.mp hrecord with rfl | hrecord
    · obtain rfl := Option.some_inj.mp hhardware
      exact ⟨rfl, hnonneg, hhandle⟩
    · exact hholds.backed record hrecord hardware hhardware

/-- A provisioned display joins the records that were there. -/
theorem provided {manager : Manager} {display : Display} {outcome : Option Hardware × Driver}
    (hholds : Holds manager.registry.records manager.host.driver)
    (houtcome : Manager.Provided manager display.mode outcome) :
    Holds (⟨display, outcome.1⟩ :: manager.registry.records) outcome.2 := by
  cases houtcome with
  | refused asked => exact (hholds.asked asked).cons_passthrough display
  | granted asked free granted => exact (hholds.asked asked).cons_granted display free granted

/-! ## The record at the head -/

theorem backed_tail (hholds : Holds (record :: records) driver) :
    ∀ other ∈ records, ∀ hardware ∈ other.hardware?, hardware.Backed driver.backend :=
  fun other hother => hholds.backed other (List.mem_cons_of_mem record hother)

theorem tail_of_passthrough (hholds : Holds (record :: records) driver)
    (hpassthrough : record.hardware? = none) : Holds records driver where
  leaves := by simpa [Record.port?, hpassthrough] using hholds.leaves
  nodup_slots := by simpa [Record.slot?, hpassthrough] using hholds.nodup_slots
  backed := hholds.backed_tail

theorem leaves_cons (hholds : Holds (record :: records) driver)
    (hhardware : record.hardware? = some hardware) :
    Trace.Leaves driver.trace
      (hardware.connection.port (Edid.ofMode record.display.mode).bytes ::
        records.filterMap Record.port?) := by
  simpa [Record.port?, hhardware] using hholds.leaves

theorem nodup_slots_cons (hholds : Holds (record :: records) driver)
    (hhardware : record.hardware? = some hardware) :
    (hardware.connection.slot :: records.filterMap Record.slot?).Nodup := by
  simpa only [List.filterMap_cons, Record.slot?, hhardware, Option.map_some]
    using hholds.nodup_slots

theorem release (hholds : Holds (record :: records) driver) :
    Holds records (record.release driver) := by
  unfold Record.release
  cases hhardware : record.hardware? with
  | none => exact hholds.tail_of_passthrough hhardware
  | some hardware =>
      have hslots := hholds.nodup_slots_cons hhardware
      refine ⟨Connection.leaves_release (hholds.leaves_cons hhardware), hslots.of_cons, ?_⟩
      simpa using hholds.backed_tail

theorem remode (hholds : Holds (record :: records) driver) (width height millihertz : UInt32) :
    Holds ((Manager.remode width height millihertz record driver).1 :: records)
      (Manager.remode width height millihertz record driver).2 := by
  unfold Manager.remode
  cases hhardware : record.hardware? with
  | none => exact (hholds.tail_of_passthrough hhardware).cons_passthrough _
  | some hardware =>
      have hslots := hholds.nodup_slots_cons hhardware
      refine ⟨Connection.leaves_connect _ (hholds.leaves_cons hhardware),
        by simpa [Record.slot?] using hslots, ?_⟩
      intro other hother changed hchanged
      rcases List.mem_cons.mp hother with rfl | hother
      · -- the handle and the slot stay, so the handle still names the slot
        obtain rfl := Option.some_inj.mp hchanged
        have hold := hholds.backed record List.mem_cons_self hardware hhardware
        exact ⟨rfl, by simpa using hold.slot_nonneg, by simpa using hold.handle_eq⟩
      · simpa using hholds.backed_tail other hother changed hchanged

/-! ## All records -/

/-- When every record is given up, nothing is held any more. -/
theorem releaseAll {registry : Registry} (hholds : Holds registry.records driver) :
    Holds [] (registry.releaseAll driver) := by
  unfold Registry.releaseAll
  generalize registry.records = records at hholds
  induction records generalizing driver with
  | nil => exact hholds
  | cons record records ih => exact ih hholds.release

/-- A frame call on the device of a record changes nothing that is held. -/
theorem frame (hholds : Holds records driver) (hrecord : record ∈ records)
    (hhardware : record.hardware? = some hardware) (call : FrameCall) :
    Holds records (hardware.connection.frame call driver).2 where
  leaves := by
    have hport : hardware.connection.port (Edid.ofMode record.display.mode).bytes ∈
        records.filterMap Record.port? :=
      List.mem_filterMap.mpr ⟨record, hrecord, by simp [Record.port?, hhardware]⟩
    have hperm := List.perm_cons_erase hport
    have hframed := Connection.leaves_frame call (hholds.leaves.perm hperm)
    exact hframed.perm hperm.symm
  nodup_slots := hholds.nodup_slots
  backed := hholds.backed

/-- A look of the watchdog makes liveness queries on devices of records only. -/
theorem findLoss {looked : List Record} (hlooked : looked ⊆ records)
    (hholds : Holds records driver) : Holds records (Manager.findLoss looked driver).2 := by
  induction looked generalizing driver with
  | nil => exact hholds
  | cons record looked ih =>
      obtain ⟨hrecord, hrest⟩ := List.cons_subset.mp hlooked
      unfold Manager.findLoss
      split
      · rename_i hardware _ hhardware
        have hasked : Holds records (hardware.connection.alive driver).2 :=
          hholds.frame hrecord hhardware .eventReady
        split
        rename_i code after halive
        rw [halive] at hasked
        split
        · exact hasked
        · exact ih hrest hasked
      · exact ih hrest hholds

end Holds

end VirtualMonitor
