import VirtualMonitor.Driver.Connection

/-!
# Connections that share a driver

Several connections can be open on one driver at the same time, even in the same slot, and
the driver can be reached past all of them.  `Sharing` is such a driver with its
connections.  A connection goes by its number, the place in the order of opening; the place
of one that has been given up stays empty.
-/

namespace VirtualMonitor

namespace Connection

/-- What is done with a connection while it is kept. -/
inductive Use where
  | connect (edid : List UInt8)
  | disconnect
  | frame (call : FrameCall)
  deriving DecidableEq

def perform (connection : Connection) (driver : Driver) : Use → Connection × Driver
  | .connect edid => connection.connect edid driver
  | .disconnect => connection.disconnect driver
  | .frame call => (connection, (connection.frame call driver).2)

end Connection

structure Sharing where
  binding : Binding
  driver : Driver
  connections : List (Option Connection)

namespace Sharing

/-- Something that happens to a driver that is shared. -/
inductive Step where
  /-- Another connection is opened, if the driver agrees. -/
  | openSlot (slot : Int32)
  | use (number : Nat) (use : Connection.Use)
  | giveUp (number : Nat)
  | check (slot : Int32)
  | add
  /-- A request past the connections. -/
  | request (handle : Handle) (request : Request)
  /-- From now on the driver answers in another way. -/
  | change (change : Backend → Backend)

def connection? (number : Nat) (sharing : Sharing) : Option Connection :=
  (sharing.connections[number]?).join

def perform (sharing : Sharing) : Step → Sharing
  | .openSlot slot =>
    let (opened, driver) := Connection.open? sharing.binding slot sharing.driver
    { sharing with
      driver := driver
      connections := sharing.connections ++ (opened.map some).toList }
  | .use number use =>
    match sharing.connection? number with
    | some connection =>
      let (connection, driver) := connection.perform sharing.driver use
      { sharing with
        driver := driver
        connections := sharing.connections.set number (some connection) }
    | none => sharing
  | .giveUp number =>
    match sharing.connection? number with
    | some connection =>
      { sharing with
        driver := connection.release sharing.driver
        connections := sharing.connections.set number none }
    | none => sharing
  | .check slot => { sharing with driver := (sharing.binding.check slot sharing.driver).2 }
  | .add => { sharing with driver := (sharing.binding.add sharing.driver).2 }
  | .request handle request =>
    match sharing.binding.send? handle request sharing.driver with
    | some (_, driver) => { sharing with driver := driver }
    | none => sharing
  | .change change => { sharing with driver := sharing.driver.withBackend change }

def run (sharing : Sharing) (steps : List Step) : Sharing := steps.foldl perform sharing

def calls (sharing : Sharing) (step : Step) : List Call :=
  (sharing.perform step).driver.trace.drop sharing.driver.trace.length

/-- The connection that makes the calls of a step. -/
def Step.number? : Step → Option Nat
  | .use number _ => some number
  | .giveUp number => some number
  | _ => none

/-- The calls that the driver sees through one connection. -/
def through (number : Nat) (sharing : Sharing) : List Step → List Call
  | [] => []
  | step :: rest =>
    (if step.number? = some number then sharing.calls step else []) ++
      through number (sharing.perform step) rest

def usesOf (number : Nat) (steps : List Step) : List Connection.Use :=
  steps.filterMap fun
    | .use other use => if other = number then some use else none
    | _ => none

end Sharing

end VirtualMonitor
