import VirtualMonitor.Manager.Provision

/-!
# Creating, removing and reconfiguring displays

A display is created under the UUID of its client.  Creating it again replaces
it: the new device is provisioned first, and the old one is given up afterwards.
A display for which no device can be had is passthrough, so creation fails only
when the driver is not ready.
-/

namespace VirtualMonitor

/-- What a client session asks for. -/
structure DisplayRequest where
  uuid : Uuid
  clientId : String
  clientName : String
  width : UInt32
  height : UInt32
  /-- The refresh rate, in thousandths of a hertz. -/
  millihertz : UInt32
  deriving DecidableEq

/-- The display that a request leads to. -/
def DisplayRequest.display (stem : String) (request : DisplayRequest) : Display where
  name := Display.nameFor stem request.uuid
  uuid := request.uuid.text
  clientId := request.clientId
  clientName := request.clientName
  width := request.width
  height := request.height
  millihertz := request.millihertz
  active := true

namespace Manager

/-- Creates a display; gives its name. -/
def createDisplay (request : DisplayRequest) (manager : Manager) :
    Except DisplayError String × Manager :=
  if manager.state.isReady then
    let display := request.display manager.config.displayNameStem
    let (hardware?, driver) := manager.provision display.mode
    let (replaced?, registry) := manager.registry.insert ⟨display, hardware?⟩
    let driver := match replaced? with
      | some replaced => replaced.release driver
      | none => driver
    (.ok display.name, { manager.withDriver driver with registry := registry })
  else (.error .driverNotReady, manager)

/-- Removes the display of a client and gives up its device. -/
def removeDisplay (uuid : Uuid) (manager : Manager) : Except DisplayError Unit × Manager :=
  match manager.registry.remove uuid.text with
  | (some removed, registry) =>
    (.ok (), { manager.withDriver (removed.release manager.host.driver) with registry := registry })
  | (none, _) => (.error (.notFound uuid.text), manager)

/-- Gives a record another mode; its device, if it has one, gets a monitor with
the EDID of the new mode. -/
def remode (width height millihertz : UInt32) (record : Record) (driver : Driver) :
    Record × Driver :=
  let display := record.display.withMode width height millihertz
  match record.hardware? with
  | none => (⟨display, none⟩, driver)
  | some hardware =>
    let (connection, driver) :=
      hardware.connection.connect (Edid.ofMode display.mode).bytes driver
    (⟨display, some { hardware with connection := connection }⟩, driver)

/-- Changes the mode of the display with the given name.  A name that no display
has is no failure. -/
def reconfigure (name : String) (width height millihertz : UInt32) (manager : Manager) :
    Manager :=
  match manager.registry.named? name with
  | none => manager
  | some record =>
    let (changed, driver) := remode width height millihertz record manager.host.driver
    { manager.withDriver driver with registry := manager.registry.replace changed }

/-- The same with a wish for isolation.  A display with a device is isolated in any
case, so the wish changes nothing. -/
def reconfigureIsolated (name : String) (width height millihertz : UInt32) (_isolated : Bool)
    (manager : Manager) : Manager :=
  manager.reconfigure name width height millihertz

/-! ## Questions -/

def slotOf? (name : String) (manager : Manager) : Option Int32 :=
  (manager.registry.named? name).bind Record.slot?

def isHardwareBacked (name : String) (manager : Manager) : Bool :=
  (manager.registry.named? name).any fun record => record.hardware?.isSome

def info? (name : String) (manager : Manager) : Option Snapshot :=
  (manager.registry.named? name).map Record.snapshot

def connection? (name : String) (manager : Manager) : Option Connection :=
  ((manager.registry.named? name).bind Record.hardware?).map Hardware.connection

/-- Makes a frame call on the device of a display; none if it has no device. -/
def frame (name : String) (call : FrameCall) (manager : Manager) : Option Reply × Manager :=
  match manager.connection? name with
  | none => (none, manager)
  | some connection =>
    let (reply, driver) := connection.frame call manager.host.driver
    (some reply, manager.withDriver driver)

def primaryOutput? (manager : Manager) : Option String :=
  Card.primaryOutput? manager.host.files manager.config.cardDirectory

end Manager

end VirtualMonitor
