/-!
# Display modes

A mode is what a session asks of its monitor: a size in pixels and a refresh
rate.  Every size and every rate is a legal request; a rate of zero stands for
the ordinary 60 Hz.
-/

namespace VirtualMonitor

/-- A requested size in pixels and a refresh rate in hertz. -/
structure Mode where
  width : UInt32
  height : UInt32
  hertz : UInt32
  deriving DecidableEq

namespace Mode

/-- The refresh rate to compute with: an unset rate counts as 60 Hz. -/
def effectiveHertz (mode : Mode) : UInt32 :=
  if mode.hertz = 0 then 60 else mode.hertz

end Mode

end VirtualMonitor
