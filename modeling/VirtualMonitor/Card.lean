import VirtualMonitor.FileTree
import VirtualMonitor.Text.Numeral
import VirtualMonitor.Text.Word

/-!
# Graphics cards

Graphics cards appear as nodes `card0`, `card1`, … of one directory.  The number
ties a card to the device slot of a virtual monitor.  Nodes are listed by number;
a node without a number takes the place of the greatest word, and nodes that
share a place are listed by name.
-/

namespace VirtualMonitor.Card

/-! ## Names and numbers -/

def stem : List UInt8 := Text.utf8 "card"

/-- Whether a name is that of a card node; render nodes are none. -/
def isNodeName (name : String) : Bool :=
  "card".toList.isPrefixOf name.toList && !Text.occursIn "render".toList name.toList

/-- The number of a card node's name: all that follows the stem. -/
def numberOfName? (name : List UInt8) : Option UInt32 :=
  if stem.isPrefixOf name then
    let rest := (name.drop stem.length).map fun byte => Char.ofNat byte.toNat
    match Text.readNumeral (UInt32.size - 1) rest with
    | .ok value => some (UInt32.ofNat value)
    | .error _ => none
  else none

def number? (path : List UInt8) : Option UInt32 :=
  (Path.finalName? path).bind numberOfName?

def nodePath (directory : String) (slot : Int32) : String :=
  Path.join directory ("card" ++ slot.toInt.repr)

/-! ## The nodes of a directory -/

/-- The place of a node in the listing: its number, or the greatest word. -/
def place (name : String) : UInt32 := (numberOfName? (Text.utf8 name)).getD 0xFFFFFFFF

/-- Whether one node is listed no later than another. -/
def listedBefore (first second : String) : Bool :=
  place first < place second || (place first == place second && first ≤ second)

/-- The card nodes among the entries of a directory, in listing order. -/
def nodeNames (entries : List (List UInt8)) : List String :=
  ((entries.filterMap Text.ofUtf8?).filter isNodeName).mergeSort listedBefore

/-- Why a card's outputs or node cannot be had. -/
inductive Error where
  | unreadableDirectory (path : String)
  | unopenable (path : String)
  | unqueryable (path : String)
  deriving DecidableEq

def Error.message : Error → String
  | .unreadableDirectory path => "Failed to read " ++ path
  | .unopenable path => "Failed to open " ++ path
  | .unqueryable path => "Failed to query KMS resources of " ++ path

def nodes (files : Files) (directory : String) : Except Error (List String) :=
  match files.names? directory with
  | some entries => .ok ((nodeNames entries).map (Path.join directory))
  | none => .error (.unreadableDirectory directory)

/-! ## Outputs -/

def kindName (kind : UInt32) : String :=
  (["Unknown", "VGA", "DVI-I", "DVI-D", "DVI-A", "Composite", "SVIDEO", "LVDS", "Component",
    "DIN", "DP", "HDMI-A", "HDMI-B", "TV", "eDP", "Virtual", "DSI", "DPI"][kind.toNat]?).getD
    "Unknown"

def connectorName (kind number : UInt32) : String :=
  kindName kind ++ "-" ++ number.toNat.repr

/-- A physical output: a connector of some card. -/
structure Output where
  card : String
  name : String
  connected : Bool
  deriving DecidableEq

/-- The outputs of the card at a path.  Only a graphics card can be queried. -/
def outputsOf (files : Files) (path : String) : Except Error (List Output) :=
  match files.find? path with
  | some (.card connectors) =>
    .ok (connectors.map fun connector =>
      ⟨path, connectorName connector.kind connector.number, connector.connected⟩)
  | some (.directory _) | none => .error (.unopenable path)
  | some _ => .error (.unqueryable path)

/-- The outputs of every card in a directory; cards that cannot be queried, and
directories that cannot be read, have none. -/
def outputs (files : Files) (directory : String) : List Output :=
  match nodes files directory with
  | .ok paths => paths.flatMap fun path => (outputsOf files path).toOption.getD []
  | .error _ => []

def primaryOutput? (files : Files) (directory : String) : Option String :=
  ((outputs files directory).find? Output.connected).map Output.name

end VirtualMonitor.Card
