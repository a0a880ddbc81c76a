import VirtualMonitor.Driver.Call

/-!
# A driver in memory

`MemoryDriver` is a driver without a device behind it: a row of slots whose
statuses can be set, openings that can be made to fail, and liveness answers that
can be chosen.  Adding a device makes the first slot that is not present
available.

Its handles name their slots.  A handle is the slot, carried over to 64 bits with
its sign, plus one; the sum must not wrap around, so slot −1 has no handle.  The
slot is read back from the low 32 bits, minus one, and again that must not wrap.
-/

namespace VirtualMonitor

structure MemoryDriver where
  slots : List SlotStatus
  /-- Slots that cannot be opened although they are available. -/
  refusing : List Int32
  /-- Liveness answers, the latest first; a slot that is not listed answers zero. -/
  liveness : List (Int32 × Int32)
  deriving DecidableEq

namespace MemoryDriver

def ofSlots (slots : List SlotStatus) : MemoryDriver := ⟨slots, [], []⟩

def version : Version := ⟨1, 14, 1⟩

/-! ## Handles -/

/-- The handle that names a slot; slot −1 has none. -/
def handleOf? (slot : Int32) : Option Handle :=
  if slot = -1 then none else some ⟨slot.toInt64.toUInt64 + 1⟩

/-- The slot that a handle names; a handle whose low half is the least word names
none. -/
def slotOf? (handle : Handle) : Option Int32 :=
  let low := handle.raw.toUInt32.toInt32
  if low = Int32.minValue then none else some (low - 1)

/-! ## Slots -/

/-- The status of a slot; beyond the row every slot belongs to somebody else. -/
def status (driver : MemoryDriver) (slot : Int32) : SlotStatus :=
  if slot < 0 then .unrecognized
  else (driver.slots[slot.toInt.toNat]?).getD .unrecognized

/-- Adds a device: the first slot that is not present becomes available. -/
def add (driver : MemoryDriver) : Option Int32 × MemoryDriver :=
  match driver.slots.findIdx? (· = .notPresent) with
  | some index =>
    (some (Int32.ofNat index), { driver with slots := driver.slots.set index .available })
  | none => (none, driver)

def grant? (driver : MemoryDriver) (slot : Int32) : Option Handle :=
  if driver.status slot = .available ∧ slot ∉ driver.refusing then handleOf? slot else none

def alive (driver : MemoryDriver) (handle : Handle) : Int32 :=
  ((slotOf? handle).bind fun slot => driver.liveness.lookup slot).getD 0

/-- The changed parts of the picture: always one. -/
def changed : List Rect := [⟨0, 0, 1, 1⟩]

/-! ## Choosing the answers -/

def setSlot (slot : Int32) (status : SlotStatus) (driver : MemoryDriver) : MemoryDriver :=
  if slot < 0 then driver
  else { driver with slots := driver.slots.set slot.toInt.toNat status }

def refuse (slot : Int32) (driver : MemoryDriver) : MemoryDriver :=
  { driver with refusing := slot :: driver.refusing }

def setAlive (slot code : Int32) (driver : MemoryDriver) : MemoryDriver :=
  { driver with liveness := (slot, code) :: driver.liveness }

end MemoryDriver

end VirtualMonitor
