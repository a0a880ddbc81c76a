import VirtualMonitor.Display.Record
import VirtualMonitor.Text.Quoted

/-!
# Showing a display

A snapshot is shown field by field, one to a line, with texts in quotes.  An
optional field that is present takes three lines.
-/

namespace VirtualMonitor.Snapshot

private def indented (depth : Nat) (text : String) : String :=
  String.ofList (List.replicate (4 * depth) ' ') ++ text ++ "\n"

private def fieldLine (name value : String) : String := indented 1 (name ++ ": " ++ value ++ ",")

private def optionalField (name : String) : Option String → String
  | none => fieldLine name "None"
  | some value =>
    indented 1 (name ++ ": Some(") ++ indented 2 (value ++ ",") ++ indented 1 "),"

/-- All that is known about a display, for a person to read. -/
def summary (snapshot : Snapshot) : String :=
  let display := snapshot.display
  String.join
    ["DisplaySnapshot \x7b\n",
      fieldLine "name" (Text.quoted display.name),
      fieldLine "client_uuid" (Text.quoted display.uuid),
      fieldLine "client_id" (Text.quoted display.clientId),
      fieldLine "client_name" (Text.quoted display.clientName),
      fieldLine "width" display.width.toNat.repr,
      fieldLine "height" display.height.toNat.repr,
      fieldLine "refresh_millihz" display.millihertz.toNat.repr,
      fieldLine "active" (toString display.active),
      fieldLine "using_hardware" (toString snapshot.usingHardware),
      optionalField "device_index" (snapshot.slot?.map fun slot => slot.toInt.repr),
      optionalField "device_node" (snapshot.node?.map Text.quoted),
      "\x7d\n"]

end VirtualMonitor.Snapshot
