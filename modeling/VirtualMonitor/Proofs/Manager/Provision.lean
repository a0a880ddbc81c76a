import VirtualMonitor.Manager.Provision
import VirtualMonitor.Proofs.Driver.Ports

/-!
# What provisioning can do

However the driver answers, provisioning has two outcomes (`provided_provision`).
Either it is refused: then questions were asked, and no handle was touched.  Or it is
granted: after some questions, a slot that no record holds was opened and a monitor
of the wanted mode was plugged in, and that was all.
-/

namespace VirtualMonitor

namespace Binding

variable {binding : Binding} {slot : Int32} {driver : Driver} {handle : Handle}

theorem asked_check (binding : Binding) (slot : Int32) (driver : Driver) :
    Asked driver (binding.check slot driver).2 := by
  cases binding with
  | absent => exact .refl driver
  | present => exact .check slot driver

theorem asked_add (binding : Binding) (driver : Driver) :
    Asked driver (binding.add driver).2 := by
  cases binding with
  | absent => exact .refl driver
  | present => exact .add driver

theorem asked_openSlot (hrefused : (binding.openSlot slot driver).1 = none) :
    Asked driver (binding.openSlot slot driver).2 := by
  cases binding with
  | absent => exact .refl driver
  | present => exact .openSlot hrefused

theorem openSlot_of_granted (hgranted : (binding.openSlot slot driver).1 = some handle) :
    driver.backend.grant? slot = some handle ∧
      (binding.openSlot slot driver).2 = (driver.openSlot slot).2 := by
  cases binding with
  | absent => cases hgranted
  | present => exact ⟨hgranted, rfl⟩

end Binding

namespace Manager

/-! ## The search for a slot -/

theorem asked_searchSlots (binding : Binding) (occupied : List Int32) (remaining : Nat)
    (index : Int32) (driver : Driver) :
    Asked driver (searchSlots binding occupied remaining index driver).2 := by
  induction remaining generalizing index driver with
  | zero => exact .refl driver
  | succ remaining ih =>
      have hcheck := binding.asked_check index driver
      have hadd := hcheck.trans (binding.asked_add (binding.check index driver).2)
      unfold searchSlots
      split
      · exact ih (index + 1) driver
      · split <;> rename_i hstatus <;> rw [hstatus] at hcheck hadd
        · exact hcheck
        · exact hcheck.trans (ih (index + 1) _)
        · split <;> rename_i hadded <;> rw [hadded] at hadd
          · exact hadd.trans (ih (index + 1) _)
          · split
            · exact hadd.trans (ih (index + 1) _)
            · exact hadd

/-- A slot that the search finds is held by no record, even when the driver made it
up: the slot of an added device is compared with the occupied ones again. -/
theorem notMem_of_searchSlots {binding : Binding} {occupied : List Int32} {remaining : Nat}
    {index slot : Int32} {driver : Driver}
    (hfound : (searchSlots binding occupied remaining index driver).1 = some slot) :
    slot ∉ occupied := by
  induction remaining generalizing index driver with
  | zero => cases hfound
  | succ remaining ih =>
      -- the search ends with a slot that was checked or one that was added, and
      -- either was compared with the occupied ones
      simp only [searchSlots, List.contains_iff_mem] at hfound
      split at hfound
      · exact ih hfound
      · rename_i hindex
        split at hfound
        · cases hfound
          exact hindex
        · exact ih hfound
        · split at hfound
          · exact ih hfound
          · split at hfound
            · exact ih hfound
            · rename_i hadded
              cases hfound
              exact hadded

theorem asked_findFreeSlot (manager : Manager) :
    Asked manager.host.driver manager.findFreeSlot.2 :=
  asked_searchSlots ..

theorem notMem_of_findFreeSlot {manager : Manager} {slot : Int32}
    (hfound : manager.findFreeSlot.1 = some slot) : slot ∉ manager.registry.occupiedSlots :=
  notMem_of_searchSlots hfound

/-! ## The outcomes of provisioning -/

/-- What happens to a slot that was found: the driver opens it, and a monitor is plugged in,
or the driver refuses it. -/
theorem provision_of_found {manager : Manager} {slot : Int32} {driver : Driver}
    (hpresent : manager.binding = .present) (hfound : manager.findFreeSlot = (some slot, driver))
    (mode : Mode) :
    manager.provision mode =
      match driver.backend.grant? slot with
      | none => (none, driver.record (.openDevice slot none))
      | some handle =>
          (some ⟨⟨handle, slot, true⟩, manager.openNode? slot⟩,
            (driver.record (.openDevice slot (some handle))).record
              (.onHandle handle (.connect (Edid.ofMode mode).bytes 0))) := by
  simp only [provision, hfound, hpresent, Connection.open?, Binding.openSlot, Driver.openSlot]
  cases driver.backend.grant? slot <;> rfl

theorem provision_of_not_found {manager : Manager} {driver : Driver}
    (hnone : manager.findFreeSlot = (none, driver)) (mode : Mode) :
    manager.provision mode = (none, driver) := by
  simp only [provision, hnone]

/-- The outcomes that provisioning can have. -/
inductive Provided (manager : Manager) (mode : Mode) : Option Hardware × Driver → Prop where
  | refused {driver : Driver} (asked : Asked manager.host.driver driver) :
      Provided manager mode (none, driver)
  | granted {driver : Driver} {slot : Int32} {handle : Handle}
      (asked : Asked manager.host.driver driver)
      (free : slot ∉ manager.registry.occupiedSlots)
      (granted : driver.backend.grant? slot = some handle) :
      Provided manager mode
        (some ⟨⟨handle, slot, true⟩, manager.openNode? slot⟩,
          ((driver.openSlot slot).2.send handle (.connect (Edid.ofMode mode).bytes 0)).2)

theorem provided_provision (mode : Mode) (manager : Manager) :
    Provided manager mode (manager.provision mode) := by
  have hasked := manager.asked_findFreeSlot
  unfold provision
  split
  · rename_i hsearch
    rw [hsearch] at hasked
    exact .refused hasked
  · rename_i slot driver hsearch
    have hfree : slot ∉ manager.registry.occupiedSlots :=
      notMem_of_findFreeSlot (by rw [hsearch])
    rw [hsearch] at hasked
    cases hopen : (manager.binding.openSlot slot driver).1 with
    | none =>
        simp only [Connection.open?, hopen, Option.map_none]
        exact .refused (hasked.trans (Binding.asked_openSlot hopen))
    | some handle =>
        obtain ⟨hgrant, hdriver⟩ := Binding.openSlot_of_granted hopen
        simp only [Connection.open?, hopen, Option.map_some, hdriver]
        exact .granted hasked hfree hgrant

end Manager

end VirtualMonitor
