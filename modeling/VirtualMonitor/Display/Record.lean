import VirtualMonitor.Mode
import VirtualMonitor.Uuid
import VirtualMonitor.Driver.Connection

/-!
# Display records

A display is what a client session sees: a name, a client and a mode.  Its record
also owns the device that realises it, when there is one; a display without a
device is passthrough.
-/

namespace VirtualMonitor

/-- One virtual display, as its client knows it. -/
structure Display where
  name : String
  /-- The text of the client's UUID, under which the display is registered. -/
  uuid : String
  clientId : String
  clientName : String
  width : UInt32
  height : UInt32
  /-- The refresh rate, in thousandths of a hertz. -/
  millihertz : UInt32
  active : Bool
  deriving DecidableEq

namespace Display

/-- The name of a client's display: the configured stem and eight digits. -/
def nameFor (stem : String) (uuid : Uuid) : String := stem ++ uuid.short

/-- The mode, at a whole number of hertz. -/
def mode (display : Display) : Mode := ⟨display.width, display.height, display.millihertz / 1000⟩

def withMode (width height millihertz : UInt32) (display : Display) : Display :=
  { display with width := width, height := height, millihertz := millihertz }

end Display

/-- The device that realises a display. -/
structure Hardware where
  connection : Connection
  /-- The path of the card node, if it could be opened. -/
  node? : Option String
  deriving DecidableEq

/-- A display together with what it owns. -/
structure Record where
  display : Display
  hardware? : Option Hardware
  deriving DecidableEq

/-- What a caller is told about a display. -/
structure Snapshot where
  display : Display
  usingHardware : Bool
  slot? : Option Int32
  node? : Option String
  deriving DecidableEq

namespace Record

def uuid (record : Record) : String := record.display.uuid

def name (record : Record) : String := record.display.name

def slot? (record : Record) : Option Int32 :=
  record.hardware?.map fun hardware => hardware.connection.slot

def snapshot (record : Record) : Snapshot where
  display := record.display
  usingHardware := record.hardware?.isSome
  slot? := record.slot?
  node? := record.hardware?.bind Hardware.node?

def release (record : Record) (driver : Driver) : Driver :=
  match record.hardware? with
  | some hardware => hardware.connection.release driver
  | none => driver

end Record

end VirtualMonitor
