import VirtualMonitor.Manager.Watchdog

/-!
# Runs of a manager

Everything that can happen to a manager is an `Operation`: a request of its
callers, a question, a look of the watchdog, or a change of its surroundings.
`perform` answers one operation and `run` a row of them.
-/

namespace VirtualMonitor

/-- How somebody subscribes to the loss of a display. -/
inductive Subscription where
  /-- Waits for the report; refused when the session has had a watchdog already. -/
  | channel
  /-- Leaves a reaction behind; it is accepted, and forgotten, when the session has
  had a watchdog already. -/
  | callback (reaction : Reaction)
  deriving DecidableEq

namespace Manager

/-- Something that happens to a manager. -/
inductive Operation where
  | openDriver
  | closeDriver
  | markFailed
  | preferAdapter (name : String)
  | adapter
  | hardwareEnabled
  | create (request : DisplayRequest)
  | remove (uuid : Uuid)
  | reconfigure (name : String) (width height millihertz : UInt32)
  | reconfigureIsolated (name : String) (width height millihertz : UInt32) (isolated : Bool)
  | matching (pattern : String)
  | isHardwareBacked (name : String)
  | slotOf (name : String)
  | info (name : String)
  | displays
  | connection (name : String)
  | frame (name : String) (call : FrameCall)
  | primaryOutput
  /-- Choosing a primary output is accepted and ignored. -/
  | choosePrimary (name : String)
  /-- Displays never have a high dynamic range, nor can they be given one. -/
  | highRange (name : String)
  | chooseHighRange (name : String) (enable : Bool)
  | subscribe (subscription : Subscription)
  /-- The watchdog looks at the displays, if it is running. -/
  | scan
  /-- From now on a driver in memory is in another state. -/
  | setMemory (state : MemoryDriver)
  | setScript (script : Script)
  | setFiles (files : Files)
  | setSource (source : DriverSource)

inductive Answer where
  | done
  | state (state : DriverState)
  | flag (value : Bool)
  | text (value : Option String)
  | texts (values : List String)
  | created (outcome : Except DisplayError String)
  | removed (outcome : Except DisplayError Unit)
  | slot (slot : Option Int32)
  | snapshot (snapshot : Option Snapshot)
  | snapshots (snapshots : List Snapshot)
  | connection (connection : Option Connection)
  | reply (reply : Option Reply)
  | loss (loss : Option Loss)

def perform (manager : Manager) : Operation → Answer × Manager
  | .openDriver =>
    let opened := manager.openDriver
    (.state opened.state, opened)
  | .closeDriver => (.done, manager.closeDriver)
  | .markFailed => (.done, manager.markFailed)
  | .preferAdapter name => (.flag true, manager.preferAdapter name)
  | .adapter => (.text manager.adapter?, manager)
  | .hardwareEnabled => (.flag manager.hardwareEnabled, manager)
  | .create request =>
    let (outcome, manager) := manager.createDisplay request
    (.created outcome, manager)
  | .remove uuid =>
    let (outcome, manager) := manager.removeDisplay uuid
    (.removed outcome, manager)
  | .reconfigure name width height millihertz =>
    (.done, manager.reconfigure name width height millihertz)
  | .reconfigureIsolated name width height millihertz isolated =>
    (.done, manager.reconfigureIsolated name width height millihertz isolated)
  | .matching pattern => (.texts (manager.registry.matching pattern), manager)
  | .isHardwareBacked name => (.flag (manager.isHardwareBacked name), manager)
  | .slotOf name => (.slot (manager.slotOf? name), manager)
  | .info name => (.snapshot (manager.info? name), manager)
  | .displays => (.snapshots manager.registry.snapshots, manager)
  | .connection name => (.connection (manager.connection? name), manager)
  | .frame name call =>
    let (reply, manager) := manager.frame name call
    (.reply reply, manager)
  | .primaryOutput => (.text manager.primaryOutput?, manager)
  | .choosePrimary _ => (.flag true, manager)
  | .highRange _ => (.flag false, manager)
  | .chooseHighRange _ _ => (.flag false, manager)
  | .subscribe .channel =>
    let (started, manager) := manager.startWatchdog .report
    (.flag started, manager)
  | .subscribe (.callback reaction) => (.flag true, (manager.startWatchdog reaction).2)
  | .scan =>
    let (loss, manager) := manager.scan
    (.loss loss, manager)
  | .setMemory state =>
    (.done, manager.withDriver (manager.host.driver.withBackend (.setMemory state)))
  | .setScript script =>
    (.done, manager.withDriver (manager.host.driver.withBackend (.setScript script)))
  | .setFiles files => (.done, { manager with host := { manager.host with files := files } })
  | .setSource source => (.done, { manager with host := { manager.host with source := source } })

def run (manager : Manager) : List Operation → List Answer × Manager
  | [] => ([], manager)
  | operation :: rest =>
    let (answer, manager) := manager.perform operation
    let (answers, manager) := manager.run rest
    (answer :: answers, manager)

end Manager

end VirtualMonitor
