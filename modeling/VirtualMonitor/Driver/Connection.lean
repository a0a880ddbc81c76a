import VirtualMonitor.Driver.Binding

/-!
# Connections

A connection owns the handle of an opened device and knows whether a monitor is
plugged in.  Plugging in another monitor pulls out the first, and giving the
connection up pulls out what is plugged in and then closes the handle.
-/

namespace VirtualMonitor

/-- A connection to an opened device.  It makes its requests of the driver itself and not
through a binding: the stand-in grants no handle, so only a driver that was present has opened
it, and a process has one driver, however often it is looked for.  So it can be given up after
the binding it was opened through has been replaced. -/
structure Connection where
  handle : Handle
  slot : Int32
  connected : Bool
  deriving DecidableEq

namespace Connection

/-- Opens a slot; nothing is plugged in yet. -/
def open? (binding : Binding) (slot : Int32) (driver : Driver) : Option Connection × Driver :=
  let (granted, driver) := binding.openSlot slot driver
  (granted.map fun handle => ⟨handle, slot, false⟩, driver)

def disconnect (connection : Connection) (driver : Driver) : Connection × Driver :=
  if connection.connected then
    ({ connection with connected := false }, (driver.send connection.handle .disconnect).2)
  else (connection, driver)

/-- Plugs in a monitor that reports the given EDID. -/
def connect (edid : List UInt8) (connection : Connection) (driver : Driver) :
    Connection × Driver :=
  let (connection, driver) := connection.disconnect driver
  ({ connection with connected := true }, (driver.send connection.handle (.connect edid 0)).2)

def frame (call : FrameCall) (connection : Connection) (driver : Driver) : Reply × Driver :=
  driver.send connection.handle (.frame call)

/-- Asks whether the device is alive; a negative answer means that it is gone. -/
def alive (connection : Connection) (driver : Driver) : Int32 × Driver :=
  (driver.backend.alive connection.handle, (connection.frame .eventReady driver).2)

def release (connection : Connection) (driver : Driver) : Driver :=
  let (connection, driver) := connection.disconnect driver
  (driver.send connection.handle .close).2

def summary (connection : Connection) : String :=
  "EvdiConnection \x7b slot: " ++ connection.slot.toInt.repr ++ ", connected: " ++
    toString connection.connected ++ " \x7d"

/-! ## What each step leaves in the trace -/

@[simp] theorem handle_disconnect (connection : Connection) (driver : Driver) :
    (connection.disconnect driver).1.handle = connection.handle := by
  unfold disconnect
  split <;> rfl

@[simp] theorem slot_disconnect (connection : Connection) (driver : Driver) :
    (connection.disconnect driver).1.slot = connection.slot := by
  unfold disconnect
  split <;> rfl

@[simp] theorem connected_disconnect (connection : Connection) (driver : Driver) :
    (connection.disconnect driver).1.connected = false := by
  unfold disconnect
  split
  · rfl
  · rename_i h
    simpa using h

theorem trace_disconnect (connection : Connection) (driver : Driver) :
    (connection.disconnect driver).2.trace = driver.trace ++
      (if connection.connected then [.onHandle connection.handle .disconnect] else []) := by
  unfold disconnect
  split <;> simp

@[simp] theorem handle_connect (edid : List UInt8) (connection : Connection) (driver : Driver) :
    (connection.connect edid driver).1.handle = connection.handle := by
  simp [connect]

@[simp] theorem slot_connect (edid : List UInt8) (connection : Connection) (driver : Driver) :
    (connection.connect edid driver).1.slot = connection.slot := by
  simp [connect]

@[simp] theorem connected_connect (edid : List UInt8) (connection : Connection)
    (driver : Driver) : (connection.connect edid driver).1.connected = true := rfl

theorem trace_connect (edid : List UInt8) (connection : Connection) (driver : Driver) :
    (connection.connect edid driver).2.trace = driver.trace ++
      (if connection.connected then [.onHandle connection.handle .disconnect] else []) ++
      [.onHandle connection.handle (.connect edid 0)] := by
  simp [connect, trace_disconnect]

theorem trace_release (connection : Connection) (driver : Driver) :
    (connection.release driver).trace = driver.trace ++
      (if connection.connected then [.onHandle connection.handle .disconnect] else []) ++
      [.onHandle connection.handle .close] := by
  simp [release, trace_disconnect]

end Connection

end VirtualMonitor
