import VirtualMonitor.Mode

/-!
# Timings

A timing says how long a monitor spends on each line and frame beside the
visible pixels: the pixel clock, the blanking around the picture and the sync
pulse inside the blanking.

Four resolutions have a fixed timing, whatever the rate.  Every other mode gets
an estimate in the manner of coordinated video timings: the vertical blanking
takes 550 microseconds of each frame, and the horizontal blanking is about 15%
of the visible width.  The estimate is made in binary64 arithmetic, one rounded
operation after the other, and cut to whole numbers at the end; the cut
saturates, so an unbounded estimate becomes the greatest word and a negative one
becomes zero.
-/

namespace VirtualMonitor

/-- Blanking and sync parameters of one mode. -/
structure Timing where
  /-- The pixel clock, in kilohertz. -/
  pixelClock : UInt32
  hBlank : UInt32
  vBlank : UInt32
  hFront : UInt32
  hSync : UInt32
  vFront : UInt32
  vSync : UInt32
  deriving DecidableEq

namespace Timing

/-- The resolutions that have a fixed timing. -/
def fixed : List ((UInt32 × UInt32) × Timing) :=
  [((3840, 2160), ⟨533250, 560, 90, 176, 88, 8, 10⟩),
   ((2560, 1440), ⟨241500, 160, 44, 48, 32, 3, 5⟩),
   ((1920, 1080), ⟨148500, 280, 45, 88, 44, 4, 5⟩),
   ((1280, 720), ⟨74250, 370, 30, 110, 40, 5, 5⟩)]

/-- The time from one line to the next, in microseconds, when 550 of each frame
go to the vertical blanking. -/
def linePeriod (mode : Mode) : Float :=
  (1000000.0 / mode.effectiveHertz.toFloat - 550.0) / (mode.height.toFloat + 3.0)

def estimatedClock (mode : Mode) : UInt32 :=
  (mode.width.toFloat * 1.15 / linePeriod mode * 1000.0).toUInt32

def estimatedBlank (mode : Mode) : UInt32 :=
  (mode.width.toFloat * 0.15).toUInt32

/-- The estimate for a mode that has no fixed timing: front porch and sync pulse
take a quarter of the horizontal blanking each. -/
def estimate (mode : Mode) : Timing where
  pixelClock := estimatedClock mode
  hBlank := estimatedBlank mode
  vBlank := 45
  hFront := estimatedBlank mode / 4
  hSync := estimatedBlank mode / 4
  vFront := 3
  vSync := 5

/-- The timing of a mode: fixed for its resolution, or else estimated. -/
def ofMode (mode : Mode) : Timing :=
  (fixed.lookup (mode.width, mode.height)).getD (estimate mode)

end Timing

end VirtualMonitor
