import VirtualMonitor.Driver.Memory
import VirtualMonitor.Driver.Scripted

/-!
# Display drivers

A driver is what answers, its `Backend`, together with the trace of everything it
was asked.  Every operation appends exactly one call to the trace, and only the
addition of a device can change how the backend answers later.
-/

namespace VirtualMonitor

/-- What answers the calls of a driver. -/
inductive Backend where
  | memory (state : MemoryDriver)
  | scripted (state : ScriptedDriver)
  deriving DecidableEq

namespace Backend

def version : Backend → Version
  | .memory _ => MemoryDriver.version
  | .scripted state => state.version

def status (slot : Int32) : Backend → SlotStatus
  | .memory state => state.status slot
  | .scripted state => state.status slot

/-- Adds a device; gives its slot, if the driver agrees. -/
def add : Backend → Option Int32 × Backend
  | .memory state => (state.add.1, .memory state.add.2)
  | .scripted state => (state.add.1, .scripted state.add.2)

/-- The handle that opening a slot gives, if the driver agrees. -/
def grant? (slot : Int32) : Backend → Option Handle
  | .memory state => state.grant? slot
  | .scripted state => state.grant? slot

def alive (handle : Handle) : Backend → Int32
  | .memory state => state.alive handle
  | .scripted state => state.alive handle

def updateReady : Backend → Bool
  | .memory _ => true
  | .scripted state => state.script.updateReady

def changed : Backend → List Rect
  | .memory _ => MemoryDriver.changed
  | .scripted state => state.changed

/-- The slot that a handle names for this driver; requests on a handle that names
none cannot be made. -/
def slotOf? (handle : Handle) : Backend → Option Int32
  | .memory _ => MemoryDriver.slotOf? handle
  | .scripted _ => some (ScriptedDriver.slotOf handle)

def reply (handle : Handle) (backend : Backend) : Request → Reply
  | .frame (.requestUpdate _) => .flag backend.updateReady
  | .frame .grabPixels => .rects backend.changed
  | .frame .eventReady => .code (backend.alive handle)
  | _ => .done

/-- The backend as it is after loading its library anew; one that comes from no
library stays as it is. -/
def reload : Backend → Backend
  | .memory state => .memory state
  | .scripted state => .scripted state.reload

/-- Puts a driver in memory into another state; a scripted driver has none. -/
def setMemory (state : MemoryDriver) : Backend → Backend
  | .memory _ => .memory state
  | .scripted other => .scripted other

/-- Makes a scripted driver follow another script; a driver in memory has none. -/
def setScript (script : Script) : Backend → Backend
  | .memory state => .memory state
  | .scripted state => .scripted (state.rescript script)

end Backend

/-- A driver and the trace of its calls, the earliest first. -/
structure Driver where
  backend : Backend
  trace : List Call
  deriving DecidableEq

namespace Driver

def fresh (backend : Backend) : Driver := ⟨backend, []⟩

def record (call : Call) (driver : Driver) : Driver :=
  { driver with trace := driver.trace ++ [call] }

def check (slot : Int32) (driver : Driver) : SlotStatus × Driver :=
  (driver.backend.status slot, driver.record (.checkDevice slot))

def add (driver : Driver) : Option Int32 × Driver :=
  let (added, backend) := driver.backend.add
  (added, { driver.record .addDevice with backend := backend })

def openSlot (slot : Int32) (driver : Driver) : Option Handle × Driver :=
  let granted := driver.backend.grant? slot
  (granted, driver.record (.openDevice slot granted))

def send (handle : Handle) (request : Request) (driver : Driver) : Reply × Driver :=
  (driver.backend.reply handle request, driver.record (.onHandle handle request))

/-- Makes a request on a handle, provided that the handle names a slot.  A handle
that does not is turned away before anything is recorded. -/
def sendChecked? (handle : Handle) (request : Request) (driver : Driver) : Option (Reply × Driver) :=
  if (driver.backend.slotOf? handle).isSome then some (driver.send handle request) else none

def withBackend (change : Backend → Backend) (driver : Driver) : Driver :=
  { driver with backend := change driver.backend }

/-! ## What each operation leaves in the trace -/

@[simp] theorem trace_withBackend (change : Backend → Backend) (driver : Driver) :
    (driver.withBackend change).trace = driver.trace := rfl

@[simp] theorem trace_record (call : Call) (driver : Driver) :
    (driver.record call).trace = driver.trace ++ [call] := rfl

@[simp] theorem backend_record (call : Call) (driver : Driver) :
    (driver.record call).backend = driver.backend := rfl

@[simp] theorem trace_check (slot : Int32) (driver : Driver) :
    (driver.check slot).2.trace = driver.trace ++ [.checkDevice slot] := rfl

@[simp] theorem trace_add (driver : Driver) :
    driver.add.2.trace = driver.trace ++ [.addDevice] := rfl

@[simp] theorem trace_openSlot (slot : Int32) (driver : Driver) :
    (driver.openSlot slot).2.trace =
      driver.trace ++ [.openDevice slot (driver.backend.grant? slot)] := rfl

@[simp] theorem trace_send (handle : Handle) (request : Request) (driver : Driver) :
    (driver.send handle request).2.trace = driver.trace ++ [.onHandle handle request] := rfl

end Driver

end VirtualMonitor
