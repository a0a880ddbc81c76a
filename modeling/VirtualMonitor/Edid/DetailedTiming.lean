import VirtualMonitor.Edid.Timing
import VirtualMonitor.Edid.SyncFlags

/-!
# Detailed timings

A detailed timing is the 18-byte form in which an EDID states a timing.  Its
fields are narrower than the values that go into them: sizes and blankings keep
12 bits, the horizontal porch and sync 10, the vertical ones 6, and the clock is
counted in units of ten kilohertz in 16 bits.  `encode` packs the low bits of
every value and `decode?` reads the fields back the way a monitor's host does,
so `decode?` of an encoding is the value cut to its fields.
-/

namespace VirtualMonitor

/-- What a detailed timing says about a mode. -/
structure DetailedTiming where
  /-- The pixel clock, in units of ten kilohertz. -/
  pixelClock : UInt32
  hActive : UInt32
  hBlank : UInt32
  vActive : UInt32
  vBlank : UInt32
  hFront : UInt32
  hSync : UInt32
  vFront : UInt32
  vSync : UInt32
  hSize : UInt32
  vSize : UInt32
  hBorder : UInt8
  vBorder : UInt8
  flags : UInt8
  deriving DecidableEq

namespace DetailedTiming

def length : Nat := 18

/-! ## Which values a mode puts in -/

/-- The clock stops at the greatest value its field can hold. -/
def clockOf (timing : Timing) : UInt32 :=
  min (timing.pixelClock / 10) 0xFFFF

/-- A length in millimetres, scaled from the pixels of a panel whose
`panelPixels` measure `panelSize`; the product stops at the greatest word. -/
def scaledSize (pixels panelPixels panelSize : UInt32) : UInt32 :=
  UInt32.ofNat (min (pixels.toNat * panelSize.toNat) (UInt32.size - 1)) / panelPixels

/-- The detailed timing of a mode.  The picture has the pixel pitch of a panel
of 3840 by 2160 pixels that measures 600 by 340 millimetres. -/
def ofMode (mode : Mode) : DetailedTiming :=
  let timing := Timing.ofMode mode
  { pixelClock := clockOf timing
    hActive := mode.width
    hBlank := timing.hBlank
    vActive := mode.height
    vBlank := timing.vBlank
    hFront := timing.hFront
    hSync := timing.hSync
    vFront := timing.vFront
    vSync := timing.vSync
    hSize := scaledSize mode.width 3840 600
    vSize := scaledSize mode.height 2160 340
    hBorder := 0
    vBorder := 0
    flags := SyncFlags.all.bits }

/-! ## The packed form -/

/-- Bits 8 to 11 of two values, those of `high` in the upper half. -/
def packNibbles (high low : UInt32) : UInt8 :=
  (((high >>> 8) &&& 0x0F) <<< 4 ||| ((low >>> 8) &&& 0x0F)).toUInt8

/-- The low four bits of two values, those of `high` in the upper half. -/
def packLowNibbles (high low : UInt32) : UInt8 :=
  ((high &&& 0x0F) <<< 4 ||| (low &&& 0x0F)).toUInt8

/-- The top bits of the sync fields: two each of the horizontal porch, the
horizontal sync, the vertical porch and the vertical sync. -/
def packSyncBits (timing : DetailedTiming) : UInt8 :=
  (((timing.hFront >>> 8) &&& 0x03) <<< 6 ||| ((timing.hSync >>> 8) &&& 0x03) <<< 4 |||
    ((timing.vFront >>> 4) &&& 0x03) <<< 2 ||| ((timing.vSync >>> 4) &&& 0x03)).toUInt8

/-- The 18 bytes of a detailed timing; bits above a field's width are lost. -/
def encode (timing : DetailedTiming) : List UInt8 :=
  [timing.pixelClock.toUInt8, (timing.pixelClock >>> 8).toUInt8,
   timing.hActive.toUInt8, timing.hBlank.toUInt8, packNibbles timing.hActive timing.hBlank,
   timing.vActive.toUInt8, timing.vBlank.toUInt8, packNibbles timing.vActive timing.vBlank,
   timing.hFront.toUInt8, timing.hSync.toUInt8, packLowNibbles timing.vFront timing.vSync,
   timing.packSyncBits,
   timing.hSize.toUInt8, timing.vSize.toUInt8, packNibbles timing.hSize timing.vSize,
   timing.hBorder, timing.vBorder, timing.flags]

@[simp] theorem length_encode (timing : DetailedTiming) : timing.encode.length = length := rfl

/-- Writes the detailed timing over the first 18 bytes of a buffer and leaves
the rest alone; a shorter buffer cannot take it. -/
def writeInto? (timing : DetailedTiming) (buffer : List UInt8) : Option (List UInt8) :=
  if length ≤ buffer.length then some (timing.encode ++ buffer.drop length) else none

/-! ## Reading the packed form -/

/-- A field of 12 bits: its low byte, and the upper half of a shared byte. -/
def readUpper (low shared : UInt8) : UInt32 :=
  low.toUInt32 ||| (shared >>> 4).toUInt32 <<< 8

/-- A field of 12 bits: its low byte, and the lower half of a shared byte. -/
def readLower (low shared : UInt8) : UInt32 :=
  low.toUInt32 ||| (shared &&& 0x0F).toUInt32 <<< 8

/-- Reads a detailed timing; anything but 18 bytes is none. -/
def decode? : List UInt8 → Option DetailedTiming
  | [clockLow, clockHigh, hActive, hBlank, hTop, vActive, vBlank, vTop, hFront, hSync,
      vLow, syncTop, hSize, vSize, sizeTop, hBorder, vBorder, flags] =>
    some
      { pixelClock := clockLow.toUInt32 ||| clockHigh.toUInt32 <<< 8
        hActive := readUpper hActive hTop
        hBlank := readLower hBlank hTop
        vActive := readUpper vActive vTop
        vBlank := readLower vBlank vTop
        hFront := hFront.toUInt32 ||| (syncTop >>> 6).toUInt32 <<< 8
        hSync := hSync.toUInt32 ||| ((syncTop >>> 4) &&& 0x03).toUInt32 <<< 8
        vFront := (vLow >>> 4).toUInt32 ||| ((syncTop >>> 2) &&& 0x03).toUInt32 <<< 4
        vSync := (vLow &&& 0x0F).toUInt32 ||| (syncTop &&& 0x03).toUInt32 <<< 4
        hSize := readUpper hSize sizeTop
        vSize := readLower vSize sizeTop
        hBorder := hBorder
        vBorder := vBorder
        flags := flags }
  | _ => none

end DetailedTiming

end VirtualMonitor
