import VirtualMonitor.Mode
import VirtualMonitor.Text.Numeral

/-!
# The command line

Three commands inspect and try out the display layer: `probe` shows what there
is, `edid` dumps the EDID of a mode, and `create` keeps one display for a while.
A mode is written `1920x1080` or `1920x1080@144`.

Everything is checked before anything is done, in a fixed order: the refresh
rate, the shape of the mode, its width, its height, then, for `create`, the size
of the refresh rate and the duration.
-/

namespace VirtualMonitor.CommandLine

inductive Command where
  | probe
  | edid (mode : Mode)
  /-- Keeps a display for a number of seconds. -/
  | create (mode : Mode) (seconds : UInt64)
  deriving DecidableEq

/-- What is wrong with a command line, or went wrong while it was carried out. -/
inductive Failure where
  | usage
  | badRefresh (text : String) (cause : Text.NumeralError)
  | badMode (text : String)
  | badWidth (text : String) (cause : Text.NumeralError)
  | badHeight (text : String) (cause : Text.NumeralError)
  | refreshTooLarge (hertz : UInt32)
  | badDuration (text : String) (cause : Text.NumeralError)
  | creationFailed (cause : String)
  | removalFailed (cause : String)
  | displayLost (name : String) (code : Int32)
  deriving DecidableEq

namespace Failure

def message : Failure → String
  | .usage => "usage: vdisplayctl probe | edid WxH[@HZ] | create WxH[@HZ] [SECONDS]"
  | .badRefresh text _ => "Bad refresh rate '" ++ text ++ "'"
  | .badMode text => "Bad mode '" ++ text ++ "', expected WIDTHxHEIGHT"
  | .badWidth text _ => "Bad width '" ++ text ++ "'"
  | .badHeight text _ => "Bad height '" ++ text ++ "'"
  | .refreshTooLarge hertz => "Refresh rate " ++ hertz.toNat.repr ++ " Hz is too large"
  | .badDuration text _ => "Bad duration '" ++ text ++ "'"
  | .creationFailed _ => "Failed to create virtual display"
  | .removalFailed _ => "Failed to remove virtual display"
  | .displayLost name code => "Display " ++ name ++ " lost (code " ++ code.toInt.repr ++ ")"

/-- The reason behind it, where there is one. -/
def cause? : Failure → Option String
  | .badRefresh _ cause | .badWidth _ cause | .badHeight _ cause | .badDuration _ cause =>
    some cause.message
  | .creationFailed cause | .removalFailed cause => some cause
  | .usage | .badMode _ | .refreshTooLarge _ | .displayLost _ _ => none

def report (failure : Failure) : String :=
  "Error: " ++ failure.message ++
    (match failure.cause? with
    | some cause => "\n\nCaused by:\n    " ++ cause
    | none => "") ++ "\n"

end Failure

/-! ## Reading a mode -/

/-- The parts of a text before and behind the first character that `mark` accepts. -/
def cutAt? (mark : Char → Bool) : List Char → Option (List Char × List Char)
  | [] => none
  | character :: rest =>
    if mark character then some ([], rest)
    else (cutAt? mark rest).map fun (before, behind) => (character :: before, behind)

def word? (failure : Text.NumeralError → Failure) (text : List Char) : Except Failure UInt32 :=
  match Text.readNumeral (UInt32.size - 1) text with
  | .ok value => .ok (UInt32.ofNat value)
  | .error cause => .error (failure cause)

/-- The rate without an at sign. -/
def defaultHertz : UInt32 := 60

/-- The size and the refresh rate of a mode's text. -/
def splitRefresh (text : List Char) : Except Failure (List Char × UInt32) :=
  match cutAt? (· == '@') text with
  | none => .ok (text, defaultHertz)
  | some (size, rate) =>
    match word? (.badRefresh (String.ofList rate)) rate with
    | .ok hertz => .ok (size, hertz)
    | .error failure => .error failure

def parseMode (text : String) : Except Failure Mode := do
  let (size, hertz) ← splitRefresh text.toList
  match cutAt? (fun character => character == 'x' || character == 'X') size with
  | none => .error (.badMode text)
  | some (width, height) =>
    let wide ← word? (.badWidth (String.ofList width)) width
    let high ← word? (.badHeight (String.ofList height)) height
    return ⟨wide, high, hertz⟩

def printMode (mode : Mode) : String :=
  mode.width.toNat.repr ++ "x" ++ mode.height.toNat.repr ++ "@" ++ mode.hertz.toNat.repr

/-! ## Reading a command -/

/-- The refresh rate in thousandths of a hertz, where it fits a word. -/
def millihertz? (hertz : UInt32) : Option UInt32 :=
  if hertz.toNat * 1000 < UInt32.size then some (hertz * 1000) else none

/-- How long a display is kept when nothing is said, in seconds. -/
def defaultSeconds : UInt64 := 10

def parseDuration (text : String) : Except Failure UInt64 :=
  match Text.readNumeral (UInt64.size - 1) text.toList with
  | .ok value => .ok (UInt64.ofNat value)
  | .error cause => .error (.badDuration text cause)

def parseCreate (mode : String) (seconds? : Option String) : Except Failure Command := do
  let mode ← parseMode mode
  if (millihertz? mode.hertz).isNone then .error (.refreshTooLarge mode.hertz)
  else
    match seconds? with
    | none => return .create mode defaultSeconds
    | some text => return .create mode (← parseDuration text)

def parse : List String → Except Failure Command
  | ["probe"] => .ok .probe
  | ["edid", mode] => (parseMode mode).map .edid
  | ["create", mode] => parseCreate mode none
  | ["create", mode, seconds] => parseCreate mode (some seconds)
  | _ => .error .usage

end VirtualMonitor.CommandLine
