import VirtualMonitor.Display.Registry

/-!
# Runs of a registry

A registry is used by inserting and removing records, by editing a record that is found by
its name, and by clearing it.  Whoever gets a record out of the registry releases it, and
with it the device that it owns.
-/

namespace VirtualMonitor

/-- What is changed of a record that was found by its name. -/
structure Edit where
  name? : Option String
  width? : Option UInt32
  active? : Option Bool
  deriving DecidableEq

def Edit.apply (edit : Edit) (record : Record) : Record :=
  { record with
    display := { record.display with
      name := edit.name?.getD record.display.name
      width := edit.width?.getD record.display.width
      active := edit.active?.getD record.display.active } }

namespace Registry

inductive Operation where
  | insert (record : Record)
  | remove (uuid : String)
  /-- The first record with the name is edited, if there is one. -/
  | edit (name : String) (edit : Edit)
  | clear
  deriving DecidableEq

/-- Carries out an operation and releases what leaves the registry.  The answer is the record
that was displaced, removed or edited. -/
def perform (registry : Registry) (driver : Driver) :
    Operation → Option Record × Registry × Driver
  | .insert record =>
    let (displaced?, registry) := registry.insert record
    (displaced?, registry, displaced?.elim driver fun displaced => displaced.release driver)
  | .remove uuid =>
    let (removed?, registry) := registry.remove uuid
    (removed?, registry, removed?.elim driver fun removed => removed.release driver)
  | .edit name edit =>
    match registry.named? name with
    | some record => (some (edit.apply record), registry.replace (edit.apply record), driver)
    | none => (none, registry, driver)
  | .clear => (none, .empty, registry.releaseAll driver)

/-- An operation, and what becomes of the driver before it. -/
structure Turn where
  change : Driver → Driver
  operation : Operation

/-- What an operation answers, and the calls that the driver sees in it. -/
structure Outcome where
  answer? : Option Record
  calls : List Call

def run (registry : Registry) (driver : Driver) : List Turn → List Outcome × Registry × Driver
  | [] => ([], registry, driver)
  | turn :: turns =>
    let before := turn.change driver
    let (answer?, registry, after) := registry.perform before turn.operation
    let (outcomes, registry, driver) := registry.run after turns
    (⟨answer?, after.trace.drop before.trace.length⟩ :: outcomes, registry, driver)

end Registry

end VirtualMonitor
