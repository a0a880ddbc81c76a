import Mathlib.Data.List.Infix
import VirtualMonitor.Manager.Displays

/-!
# A manager without a driver

What callers ask of a manager can be answered without any driver.  `Reference` does
so: all it keeps is the state of the driver, the wanted adapter and the displays in the
order of their UUIDs.

The manager itself meets the same demands by `Manager.serve`.  What it shows of a
display says more, namely which device realises it; apart from that the two answer
alike, which is proved in `VirtualMonitor.Proofs.Manager.Transparency`.
-/

namespace VirtualMonitor

/-- What callers can ask of a manager. -/
inductive Demand where
  | openDriver
  | closeDriver
  | markFailed
  | preferAdapter (name : String)
  | create (request : DisplayRequest)
  | remove (uuid : Uuid)
  | reconfigure (name : String) (width height millihertz : UInt32)
  | reconfigureIsolated (name : String) (width height millihertz : UInt32) (isolated : Bool)
  | matching (pattern : String)
  | displays
  | info (name : String)
  | count
  | state
  | adapter

/-- The answer to a demand; `Shown` is what is shown of a display. -/
inductive Response (Shown : Type) where
  | done
  | flag (value : Bool)
  | state (state : DriverState)
  | adapter (adapter? : Option String)
  | created (outcome : Except DisplayError String)
  | removed (outcome : Except DisplayError Unit)
  | names (names : List String)
  | displays (displays : List Shown)
  | info (display? : Option Shown)
  | count (number : Nat)

/-- The same answer with less, or more, shown of every display. -/
def Response.map {Shown Other : Type} (restrict : Shown → Other) : Response Shown → Response Other
  | .done => .done
  | .flag value => .flag value
  | .state current => .state current
  | .adapter wanted? => .adapter wanted?
  | .created outcome => .created outcome
  | .removed outcome => .removed outcome
  | .names found => .names found
  | .displays all => .displays (all.map restrict)
  | .info found? => .info (found?.map restrict)
  | .count number => .count number

/-! ## The manager -/

namespace Manager

/-- Meets one demand. -/
def serve (manager : Manager) : Demand → Response Snapshot × Manager
  | .openDriver => (.state manager.openDriver.state, manager.openDriver)
  | .closeDriver => (.done, manager.closeDriver)
  | .markFailed => (.done, manager.markFailed)
  | .preferAdapter name => (.flag true, manager.preferAdapter name)
  | .create request =>
    let (outcome, manager) := manager.createDisplay request
    (.created outcome, manager)
  | .remove uuid =>
    let (outcome, manager) := manager.removeDisplay uuid
    (.removed outcome, manager)
  | .reconfigure name width height millihertz =>
    (.done, manager.reconfigure name width height millihertz)
  | .reconfigureIsolated name width height millihertz isolated =>
    (.done, manager.reconfigureIsolated name width height millihertz isolated)
  | .matching pattern => (.names (manager.registry.matching pattern), manager)
  | .displays => (.displays manager.registry.snapshots, manager)
  | .info name => (.info (manager.info? name), manager)
  | .count => (.count manager.registry.size, manager)
  | .state => (.state manager.state, manager)
  | .adapter => (.adapter manager.adapter?, manager)

/-- A demand, and what becomes of the host before it is met.  Its files may change at
any time, and so may its driver and all that its driver answers. -/
structure Turn where
  change : Host → Host
  demand : Demand

def onHost (change : Host → Host) (manager : Manager) : Manager :=
  { manager with host := change manager.host }

/-- Meets a row of demands on a host that changes. -/
def serveAll (manager : Manager) : List Turn → List (Response Snapshot) × Manager
  | [] => ([], manager)
  | turn :: turns =>
    let (response, manager) := (manager.onHost turn.change).serve turn.demand
    let (responses, manager) := manager.serveAll turns
    (response :: responses, manager)

end Manager

/-! ## The reference -/

/-- All that a manager needs to know to answer its callers. -/
structure Reference where
  state : DriverState
  adapter? : Option String
  /-- The displays, in the order of their UUIDs. -/
  displays : List Display

namespace Reference

def initial : Reference := ⟨.unknown, none, []⟩

/-- Displays with another one, which takes the place of any that has its UUID. -/
def set (display : Display) (displays : List Display) : List Display :=
  displays.filter (fun other => other.uuid < display.uuid) ++
    display :: displays.filter (fun other => display.uuid < other.uuid)

/-- The entry of a request.  A display is named after the stem and the first eight digits of
its UUID, and it is active. -/
def entry (stem : String) (request : DisplayRequest) : Display where
  name := stem ++ String.ofList (request.uuid.text.toList.take 8)
  uuid := request.uuid.text
  clientId := request.clientId
  clientName := request.clientName
  width := request.width
  height := request.height
  millihertz := request.millihertz
  active := true

/-- The first display with the given name gets another mode, if there is one. -/
def reconfigure (name : String) (width height millihertz : UInt32) (displays : List Display) :
    List Display :=
  displays.modify (displays.findIdx fun display => display.name == name) fun display =>
    { display with width := width, height := height, millihertz := millihertz }

/-- Meets one demand; names of displays start with the stem. -/
def serve (stem : String) (reference : Reference) : Demand → Response Display × Reference
  | .openDriver => (.state .ready, { reference with state := .ready })
  | .closeDriver => (.done, initial)
  | .markFailed => (.done, { reference with state := .watchdogFailed })
  | .preferAdapter name =>
    (.flag true, { reference with adapter? := if name.isEmpty then none else some name })
  | .create request =>
    if reference.state = .ready then
      (.created (.ok (entry stem request).name),
        { reference with displays := set (entry stem request) reference.displays })
    else (.created (.error .driverNotReady), reference)
  | .remove uuid =>
    if reference.displays.any fun display => display.uuid == uuid.text then
      (.removed (.ok ()), { reference with
        displays := reference.displays.filter fun display => display.uuid != uuid.text })
    else (.removed (.error (.notFound uuid.text)), reference)
  | .reconfigure name width height millihertz
  | .reconfigureIsolated name width height millihertz _ =>
    (.done, { reference with
      displays := reconfigure name width height millihertz reference.displays })
  | .matching pattern =>
    (.names ((reference.displays.filter fun display =>
      display.active && decide (pattern.toList <:+: display.name.toList)).map Display.name),
      reference)
  | .displays => (.displays reference.displays, reference)
  | .info name => (.info (reference.displays.find? fun display => display.name == name), reference)
  | .count => (.count reference.displays.length, reference)
  | .state => (.state reference.state, reference)
  | .adapter => (.adapter reference.adapter?, reference)

/-- Meets a row of demands. -/
def serveAll (stem : String) (reference : Reference) :
    List Demand → List (Response Display) × Reference
  | [] => ([], reference)
  | demand :: demands =>
    let (response, reference) := reference.serve stem demand
    let (responses, reference) := reference.serveAll stem demands
    (response :: responses, reference)

end Reference

end VirtualMonitor
