import VirtualMonitor.Driver

/-!
# Reading a trace

A trace is shown in two ways.  A driver in memory knows the slot behind every
handle, so its calls are shown slot by slot (`SlotCall`).  A scripted driver
writes one line of words for each call, with all of its arguments.
-/

namespace VirtualMonitor

/-- A call as a driver in memory remembers it. -/
inductive SlotCall where
  | checkDevice (slot : Int32)
  | addDevice
  | openDevice (slot : Int32)
  | close (slot : Int32)
  | connect (slot : Int32) (edidLength : Nat)
  | disconnect (slot : Int32)
  | registerBuffer (slot buffer : Int32)
  | unregisterBuffer (slot buffer : Int32)
  | requestUpdate (slot buffer : Int32)
  | grabPixels (slot : Int32)
  | handleEvents (slot : Int32)
  | eventReady (slot : Int32)
  deriving DecidableEq

namespace SlotCall

private def signed (number : Int32) : String := number.toInt.repr

private def withSlot (name : String) (slot : Int32) : String := name ++ "(" ++ signed slot ++ ")"

private def withFields (name : String) (slot : Int32) (field value : String) : String :=
  name ++ " \x7b slot: " ++ signed slot ++ ", " ++ field ++ ": " ++ value ++ " \x7d"

def text : SlotCall → String
  | .checkDevice slot => withSlot "CheckDevice" slot
  | .addDevice => "AddDevice"
  | .openDevice slot => withSlot "Open" slot
  | .close slot => withSlot "Close" slot
  | .connect slot edidLength => withFields "Connect" slot "edid_len" edidLength.repr
  | .disconnect slot => withSlot "Disconnect" slot
  | .registerBuffer slot buffer => withFields "RegisterBuffer" slot "buffer_id" (signed buffer)
  | .unregisterBuffer slot buffer => withFields "UnregisterBuffer" slot "buffer_id" (signed buffer)
  | .requestUpdate slot buffer => withFields "RequestUpdate" slot "buffer_id" (signed buffer)
  | .grabPixels slot => withSlot "GrabPixels" slot
  | .handleEvents slot => withSlot "HandleEvents" slot
  | .eventReady slot => withSlot "EventReady" slot

def ofRequest (slot : Int32) : Request → SlotCall
  | .connect edid _ => .connect slot edid.length
  | .disconnect => .disconnect slot
  | .close => .close slot
  | .frame (.registerBuffer buffer) => .registerBuffer slot buffer.number
  | .frame (.unregisterBuffer buffer) => .unregisterBuffer slot buffer
  | .frame (.requestUpdate buffer) => .requestUpdate slot buffer
  | .frame .grabPixels => .grabPixels slot
  | .frame .handleEvents => .handleEvents slot
  | .frame .eventReady => .eventReady slot

end SlotCall

namespace Call

/-- A call as a driver in memory remembers it; a request on a handle that names no
slot never gets that far. -/
def bySlot? : Call → Option SlotCall
  | .checkDevice slot => some (.checkDevice slot)
  | .addDevice => some .addDevice
  | .openDevice slot _ => some (.openDevice slot)
  | .onHandle handle request =>
    (MemoryDriver.slotOf? handle).map fun slot => SlotCall.ofRequest slot request

private def words (parts : List String) : String := String.intercalate " " parts

private def signedWord (number : Int32) : String := number.toInt.repr

private def hexText (bytes : List UInt8) : String :=
  String.ofList (bytes.flatMap fun byte =>
    [Nat.digitChar (byte.toNat / 16), Nat.digitChar (byte.toNat % 16)])

private def requestLine (slot : Int32) : Request → String
  | .connect edid area =>
    words ["connect", signedWord slot, edid.length.repr, area.toNat.repr, hexText edid]
  | .disconnect => words ["disconnect", signedWord slot]
  | .close => words ["close", signedWord slot]
  | .frame (.registerBuffer buffer) =>
    words ["register_buffer", signedWord slot, signedWord buffer.number, signedWord buffer.width,
      signedWord buffer.height, signedWord buffer.stride, signedWord buffer.rectCount]
  | .frame (.unregisterBuffer buffer) =>
    words ["unregister_buffer", signedWord slot, signedWord buffer]
  | .frame (.requestUpdate buffer) => words ["request_update", signedWord slot, signedWord buffer]
  | .frame .grabPixels => words ["grab_pixels", signedWord slot]
  | .frame .handleEvents => words ["handle_events", signedWord slot]
  | .frame .eventReady => words ["event_ready", signedWord slot]

/-- The line that a scripted driver writes for a call. -/
def line : Call → String
  | .checkDevice slot => words ["check_device", signedWord slot]
  | .addDevice => "add_device"
  | .openDevice slot _ => words ["open", signedWord slot]
  | .onHandle handle request => requestLine (ScriptedDriver.slotOf handle) request

def isLivenessQuery : Call → Bool
  | .onHandle _ (.frame .eventReady) => true
  | _ => false

def edid? : Call → Option (List UInt8)
  | .onHandle _ (.connect edid _) => some edid
  | _ => none

end Call

namespace Driver

/-- The driver's own words for a call. -/
def describe (driver : Driver) (call : Call) : String :=
  match driver.backend with
  | .memory _ => (call.bySlot?.map SlotCall.text).getD ""
  | .scripted _ => call.line

def lastEdid? (driver : Driver) : Option (List UInt8) :=
  (driver.trace.filterMap Call.edid?).getLast?

/-- How often a driver in memory remembers a call. -/
def count (call : SlotCall) (driver : Driver) : Nat :=
  (driver.trace.filterMap Call.bySlot?).count call

end Driver

end VirtualMonitor
