import VirtualMonitor.Edid
import VirtualMonitor.Manager.Basic

/-!
# Provisioning a device

A new display takes the first free slot.  The slots that no record holds are
checked in ascending order; an available one is taken, and for one that is not
present the driver is asked to add a device.  A device that comes up in a slot
that a record holds is of no use, and the search goes on.  Without a driver the
same slots are searched; the stand-in recognises none of them.

The slot is then opened, a monitor with the EDID of the mode is plugged in, and
the card node of the slot is opened if there is one.
-/

namespace VirtualMonitor.Manager

/-- Searches `remaining` slots from `index` on for one that can be opened. -/
def searchSlots (binding : Binding) (occupied : List Int32) :
    Nat → Int32 → Driver → Option Int32 × Driver
  | 0, _, driver => (none, driver)
  | remaining + 1, index, driver =>
    if occupied.contains index then searchSlots binding occupied remaining (index + 1) driver
    else
      match binding.check index driver with
      | (.available, driver) => (some index, driver)
      | (.unrecognized, driver) => searchSlots binding occupied remaining (index + 1) driver
      | (.notPresent, driver) =>
        match binding.add driver with
        | (none, driver) => searchSlots binding occupied remaining (index + 1) driver
        | (some added, driver) =>
          if occupied.contains added then searchSlots binding occupied remaining (index + 1) driver
          else (some added, driver)

/-- A slot for another display, searched for over the binding at hand. -/
def findFreeSlot (manager : Manager) : Option Int32 × Driver :=
  searchSlots manager.binding manager.registry.occupiedSlots manager.config.deviceSlots.toInt.toNat
    0 manager.host.driver

/-- Over the stand-in every search comes to nothing, and the driver is not asked. -/
theorem searchSlots_absent (occupied : List Int32) (remaining : Nat) (index : Int32)
    (driver : Driver) : searchSlots .absent occupied remaining index driver = (none, driver) := by
  induction remaining generalizing index with
  | zero => rfl
  | succ remaining ih =>
      -- held or not, the slot is passed over: the stand-in does not recognise it
      rw [searchSlots]
      split
      · exact ih (index + 1)
      · exact ih (index + 1)

theorem findFreeSlot_of_absent {manager : Manager} (habsent : manager.binding = .absent) :
    manager.findFreeSlot = (none, manager.host.driver) := by
  rw [findFreeSlot, habsent, searchSlots_absent]

def openNode? (slot : Int32) (manager : Manager) : Option String :=
  let path := manager.config.cardPath slot
  if manager.host.files.canOpen path then some path else none

/-- Opens a free slot and plugs in a monitor of the given mode. -/
def provision (mode : Mode) (manager : Manager) : Option Hardware × Driver :=
  match manager.findFreeSlot with
  | (none, driver) => (none, driver)
  | (some slot, driver) =>
    match Connection.open? manager.binding slot driver with
    | (none, driver) => (none, driver)
    | (some connection, driver) =>
      let (connection, driver) := connection.connect (Edid.ofMode mode).bytes driver
      (some ⟨connection, manager.openNode? slot⟩, driver)

end VirtualMonitor.Manager
