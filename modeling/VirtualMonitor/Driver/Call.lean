/-!
# Calls of a display driver

A display driver offers device slots.  A slot is checked, perhaps added, and
opened; opening it gives a handle, and everything else is a request on a handle:
plugging a monitor in, pulling it out, moving frames, asking whether the device
is still alive, and closing the handle again.

`Call` is one entry of the trace that a driver leaves behind.  It records what
was asked and, for an opening, what was granted, so that the handles in use can
be read off the trace.
-/

namespace VirtualMonitor

/-- What a driver says about a device slot. -/
inductive SlotStatus where
  /-- The slot exists and can be opened. -/
  | available
  /-- The slot belongs to another driver. -/
  | unrecognized
  /-- The slot does not exist yet; the driver can add it. -/
  | notPresent
  deriving DecidableEq

namespace SlotStatus

def ofCode (code : Int32) : SlotStatus :=
  if code = 0 then .available else if code = 2 then .notPresent else .unrecognized

def name : SlotStatus → String
  | .available => "Available"
  | .unrecognized => "Unrecognized"
  | .notPresent => "NotPresent"

end SlotStatus

structure Version where
  major : Int32
  minor : Int32
  patch : Int32
  deriving DecidableEq

def Version.text (version : Version) : String :=
  version.major.toInt.repr ++ "." ++ version.minor.toInt.repr ++ "." ++ version.patch.toInt.repr

/-- What a driver gives out for an opened slot; only that driver can read it. -/
structure Handle where
  raw : UInt64
  deriving DecidableEq

structure Rect where
  left : Int32
  top : Int32
  right : Int32
  bottom : Int32
  deriving DecidableEq

/-- The greatest number of changed parts one request can report. -/
def Rect.maxCount : Nat := 16

/-- The table in which a driver leaves the changed parts: those first, and empty
places behind them. -/
def Rect.table (changed : List Rect) : List Rect :=
  changed ++ List.replicate (Rect.maxCount - changed.length) ⟨0, 0, 0, 0⟩

structure Buffer where
  number : Int32
  width : Int32
  height : Int32
  stride : Int32
  rectCount : Int32
  deriving DecidableEq

/-- The requests that deal with frames and leave the monitor plugged in or out as
it is. -/
inductive FrameCall where
  | registerBuffer (buffer : Buffer)
  | unregisterBuffer (buffer : Int32)
  | requestUpdate (buffer : Int32)
  | grabPixels
  | handleEvents
  /-- Asks whether the device is alive; a negative answer means that it is gone. -/
  | eventReady
  deriving DecidableEq

inductive Request where
  /-- Plugs in a monitor that reports the given EDID. -/
  | connect (edid : List UInt8) (area : UInt32)
  | disconnect
  | close
  | frame (call : FrameCall)
  deriving DecidableEq

inductive Reply where
  | done
  | flag (value : Bool)
  | rects (changed : List Rect)
  | code (value : Int32)
  deriving DecidableEq

/-- One entry of a driver's trace. -/
inductive Call where
  | checkDevice (slot : Int32)
  | addDevice
  | openDevice (slot : Int32) (granted : Option Handle)
  | onHandle (handle : Handle) (request : Request)
  deriving DecidableEq

/-- The request that a call makes on the given handle. -/
def Call.requestOn? (handle : Handle) : Call → Option Request
  | .onHandle other request => if other = handle then some request else none
  | _ => none

end VirtualMonitor
