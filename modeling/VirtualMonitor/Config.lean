import VirtualMonitor.Card
import VirtualMonitor.Json.Parser
import VirtualMonitor.Json.Printer

/-!
# Configuration

Every path and constant the display layer depends on is a field of `Config`.  A
configuration file is a JSON text: an object that names some of the fields, or an
array that holds the first of them in order.  What is not given keeps its
default.  An object may hold other members, of any value; a field that is given
twice, or with a value of the wrong kind or out of range, spoils the file.
-/

namespace VirtualMonitor

structure Config where
  /-- Driver libraries, in the order in which they are tried. -/
  libraryCandidates : List String
  /-- The listing of loaded kernel modules. -/
  moduleListing : String
  /-- A path that exists when the kernel module is loaded. -/
  moduleDirectory : String
  moduleName : String
  /-- The directory with the nodes of graphics cards. -/
  cardDirectory : String
  /-- How many device slots are searched for a free one. -/
  deviceSlots : Int32
  /-- What the name of every display starts with. -/
  displayNameStem : String
  /-- The time between two looks of the watchdog, in milliseconds. -/
  watchdogInterval : UInt64
  deriving DecidableEq

namespace Config

/-- The settings of an ordinary installation. -/
def standard : Config where
  libraryCandidates :=
    ["libevdi.so.1", "libevdi.so", "/usr/lib/libevdi.so.1", "/usr/lib/libevdi.so",
      "/usr/local/lib/libevdi.so.1", "/usr/local/lib/libevdi.so"]
  moduleListing := "/proc/modules"
  moduleDirectory := "/sys/module/evdi"
  moduleName := "evdi"
  cardDirectory := "/dev/dri"
  deviceSlots := 16
  displayNameStem := "VIRTUAL-"
  watchdogInterval := 5000

/-- Two configurations agree when all their settings do; a path agrees with every
path that is the same. -/
def Agree (first second : Config) : Prop :=
  first.libraryCandidates = second.libraryCandidates ∧
    Path.Same first.moduleListing second.moduleListing ∧
    Path.Same first.moduleDirectory second.moduleDirectory ∧
    first.moduleName = second.moduleName ∧
    Path.Same first.cardDirectory second.cardDirectory ∧
    first.deviceSlots = second.deviceSlots ∧
    first.displayNameStem = second.displayNameStem ∧
    first.watchdogInterval = second.watchdogInterval

instance (first second : Config) : Decidable (Agree first second) :=
  inferInstanceAs (Decidable (_ ∧ _))

def cardPath (config : Config) (slot : Int32) : String := Card.nodePath config.cardDirectory slot

/-! ## Fields -/

inductive Field where
  | libraryCandidates
  | moduleListing
  | moduleDirectory
  | moduleName
  | cardDirectory
  | deviceSlots
  | displayNameStem
  | watchdogInterval
  deriving DecidableEq

namespace Field

/-- All fields, in the order of the array form. -/
def all : List Field :=
  [.libraryCandidates, .moduleListing, .moduleDirectory, .moduleName, .cardDirectory,
    .deviceSlots, .displayNameStem, .watchdogInterval]

/-- The key of a field in a file. -/
def key : Field → String
  | .libraryCandidates => "library_candidates"
  | .moduleListing => "proc_modules_path"
  | .moduleDirectory => "sysfs_module_path"
  | .moduleName => "kernel_module_name"
  | .cardDirectory => "dri_dir"
  | .deviceSlots => "device_slots"
  | .displayNameStem => "display_name_prefix"
  | .watchdogInterval => "watchdog_interval_ms"

def ofKey? (key : String) : Option Field := all.find? fun field => field.key == key

/-- Sets a field to a value of a file; the value must be of the field's kind. -/
def set? (field : Field) (value : Json) (config : Config) : Option Config :=
  match field with
  | .libraryCandidates => value.texts?.map fun texts => { config with libraryCandidates := texts }
  | .moduleListing => value.text?.map fun text => { config with moduleListing := text }
  | .moduleDirectory => value.text?.map fun text => { config with moduleDirectory := text }
  | .moduleName => value.text?.map fun text => { config with moduleName := text }
  | .cardDirectory => value.text?.map fun text => { config with cardDirectory := text }
  | .deviceSlots =>
    (value.intWithin? (-2147483648) 2147483647).map fun count =>
      { config with deviceSlots := Int32.ofInt count }
  | .displayNameStem => value.text?.map fun text => { config with displayNameStem := text }
  | .watchdogInterval =>
    (value.intWithin? 0 18446744073709551615).map fun interval =>
      { config with watchdogInterval := UInt64.ofNat interval.toNat }

/-- A field of a configuration as it is written to a file. -/
def write (field : Field) (config : Config) : List Char :=
  match field with
  | .libraryCandidates => Json.quoteAll config.libraryCandidates
  | .moduleListing => Json.quote config.moduleListing.toList
  | .moduleDirectory => Json.quote config.moduleDirectory.toList
  | .moduleName => Json.quote config.moduleName.toList
  | .cardDirectory => Json.quote config.cardDirectory.toList
  | .deviceSlots => Json.writeInt config.deviceSlots.toInt
  | .displayNameStem => Json.quote config.displayNameStem.toList
  | .watchdogInterval => Json.writeInt config.watchdogInterval.toNat

end Field

/-! ## Reading -/

/-- Sets the fields that the members of an object name.  `seen` holds the fields
that are set already. -/
def withMembers? (seen : List Field) (config : Config) :
    List (Option String × Json) → Option Config
  | [] => some config
  | (none, _) :: _ => none
  | (some key, value) :: rest =>
    match Field.ofKey? key with
    | none => withMembers? seen config rest
    | some field =>
      if field ∈ seen then none
      else
        match field.set? value config with
        | some changed => withMembers? (field :: seen) changed rest
        | none => none

/-- Sets fields one after the other to the items of an array. -/
def withItems? (config : Config) : List Field → List Json → Option Config
  | _, [] => some config
  | [], _ :: _ => none
  | field :: fields, item :: items =>
    match field.set? item config with
    | some changed => withItems? changed fields items
    | none => none

def ofJson? : Json → Option Config
  | .object members => withMembers? [] standard members
  | .array items => withItems? standard Field.all items
  | _ => none

def parse? (text : String) : Option Config := (Json.parse? text).bind ofJson?

/-- Why a configuration cannot be had from a file. -/
inductive LoadError where
  | unreadable (path : String)
  | malformed (path : String)
  deriving DecidableEq

def LoadError.message : LoadError → String
  | .unreadable path => "Failed to read config file " ++ path
  | .malformed path => "Failed to parse config file " ++ path

def load (files : Files) (path : String) : Except LoadError Config :=
  match files.readText? path with
  | none => .error (.unreadable path)
  | some text =>
    match parse? text with
    | none => .error (.malformed path)
    | some config => .ok config

/-- The configuration in the file that the environment names, or the standard one
when none is named or the file cannot be used. -/
def fromEnvironment (files : Files) : Option String → Config
  | none => standard
  | some path => (load files path).toOption.getD standard

/-! ## Writing -/

def render (config : Config) : String :=
  String.ofList (Json.writeObject (Field.all.map fun field => (field.key, field.write config)))

end Config

end VirtualMonitor
