import VirtualMonitor.Driver

/-!
# Bindings

The display layer reaches its driver through a binding.  When no driver is
installed the binding is `absent`: it recognises no slot, opens nothing and
reaches no driver, so that callers need not ask which of the two they hold.
-/

namespace VirtualMonitor

inductive Binding where
  | absent
  | present
  deriving DecidableEq

namespace Binding

def isPresent : Binding → Bool
  | .absent => false
  | .present => true

def version (driver : Driver) : Binding → Version
  | .absent => ⟨0, 0, 0⟩
  | .present => driver.backend.version

@[inline] def check (binding : Binding) (slot : Int32) (driver : Driver) : SlotStatus × Driver :=
  match binding with
  | .absent => (.unrecognized, driver)
  | .present => driver.check slot

def add (binding : Binding) (driver : Driver) : Option Int32 × Driver :=
  match binding with
  | .absent => (none, driver)
  | .present => driver.add

def openSlot (binding : Binding) (slot : Int32) (driver : Driver) : Option Handle × Driver :=
  match binding with
  | .absent => (none, driver)
  | .present => driver.openSlot slot

/-- What is answered without a driver: no update is ready, nothing has changed,
and the device is gone. -/
def absentReply : Request → Reply
  | .frame (.requestUpdate _) => .flag false
  | .frame .grabPixels => .rects []
  | .frame .eventReady => .code (-1)
  | _ => .done

/-- Makes a request on a handle that names a slot. -/
def send? (binding : Binding) (handle : Handle) (request : Request) (driver : Driver) :
    Option (Reply × Driver) :=
  match binding with
  | .absent => some (absentReply request, driver)
  | .present => driver.sendChecked? handle request

end Binding

end VirtualMonitor
