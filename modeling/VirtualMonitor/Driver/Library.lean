/-!
# Driver libraries

A driver comes as a shared library that is looked up by a list of candidates, which are
loaded one after the other.  The first that can be loaded decides: its entry points are
resolved one after the other, and when they are all there it is asked for its version and
bound.  No later candidate is tried, whatever becomes of it.

What can be loaded is up to the system, and a parameter here: `missing?` gives the entry
points that are missing from the library of a candidate, if there is one that can be
loaded.  The outcome comes together with all that was asked, the earliest first, so that it
can be seen what is not asked any more after a failure.
-/

namespace VirtualMonitor.Library

/-- The entry points of a driver, in the order in which they are resolved. -/
def entryPoints : List String :=
  ["evdi_check_device", "evdi_open", "evdi_add_device", "evdi_close", "evdi_connect",
    "evdi_disconnect", "evdi_grab_pixels", "evdi_register_buffer", "evdi_unregister_buffer",
    "evdi_request_update", "evdi_handle_events", "evdi_get_event_ready", "evdi_get_lib_version"]

/-- Why no driver library could be bound. -/
inductive LoadError where
  | noCandidates
  | noneLoadable
  | unresolved (entryPoint : String)
  deriving DecidableEq

def LoadError.message : LoadError → String
  | .noCandidates => "No EVDI library candidates configured"
  | .noneLoadable => "No EVDI library could be loaded"
  | .unresolved entryPoint => "Failed to resolve " ++ entryPoint

/-- What is asked while a library is bound. -/
inductive Question where
  | load (candidate : String)
  | resolve (entryPoint : String)
  /-- The only call of the driver itself. -/
  | version
  deriving DecidableEq

/-- A library that is bound, with the entry points that were resolved. -/
structure Bound where
  path : String
  resolved : List String
  deriving DecidableEq

/-- Resolves entry points one after the other, up to the first that is missing. -/
def resolveAll (missing : List String) :
    List String → Except LoadError (List String) × List Question
  | [] => (.ok [], [])
  | entryPoint :: rest =>
    if entryPoint ∈ missing then (.error (.unresolved entryPoint), [.resolve entryPoint])
    else
      let (outcome, asked) := resolveAll missing rest
      (outcome.map (entryPoint :: ·), .resolve entryPoint :: asked)

/-- Binds a library that has been loaded; it must export every entry point. -/
def bindLoaded (missing : List String) (path : String) :
    Except LoadError Bound × List Question :=
  match resolveAll missing entryPoints with
  | (.ok resolved, asked) => (.ok ⟨path, resolved⟩, asked ++ [.version])
  | (.error error, asked) => (.error error, asked)

/-- Tries candidates one after the other and binds the first that can be loaded; `failed`
says whether an earlier one could not be. -/
def tryCandidates (missing? : String → Option (List String)) (failed : Bool) :
    List String → Except LoadError Bound × List Question
  | [] => (.error (if failed then .noneLoadable else .noCandidates), [])
  | candidate :: rest =>
    match missing? candidate with
    | some missing =>
      let (outcome, asked) := bindLoaded missing candidate
      (outcome, .load candidate :: asked)
    | none =>
      let (outcome, asked) := tryCandidates missing? true rest
      (outcome, .load candidate :: asked)

def loadWith (missing? : String → Option (List String)) (candidates : List String) :
    Except LoadError Bound × List Question :=
  tryCandidates missing? false candidates

/-- A driver, if its library can be bound; why it cannot be does not matter then. -/
def probe? (missing? : String → Option (List String)) (candidates : List String) :
    Option Bound :=
  (loadWith missing? candidates).1.toOption

end VirtualMonitor.Library
