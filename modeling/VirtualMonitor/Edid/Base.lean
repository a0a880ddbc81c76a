import VirtualMonitor.Edid.Checksum
import VirtualMonitor.Edid.DetailedTiming

/-!
# The base block

The base block names the monitor and states its preferred timing.  It is the
concatenation of its fields in the order of their offsets:

* bytes 0 to 53 identify the monitor and are the same for every mode;
* bytes 54 to 71 hold the detailed timing of the mode;
* bytes 72 to 125 hold three descriptors that are the same for every mode: the
  monitor's name, its range limits and a filler;
* byte 126 counts the extension blocks and byte 127 is the checksum.
-/

namespace VirtualMonitor.Edid

def header : List UInt8 := [0x00, 0xFF, 0xFF, 0xFF, 0xFF, 0xFF, 0xFF, 0x00]

/-- A three-letter maker's code in two bytes: five bits for the place of each
letter in the alphabet, the first letter highest. -/
def packMaker (first second third : Char) : List UInt8 :=
  let place (letter : Char) : Nat := letter.toNat - 'A'.toNat + 1
  let packed := place first * 1024 + place second * 32 + place third
  [UInt8.ofNat (packed / 256), UInt8.ofNat packed]

/-- A descriptor that is no timing: three zero bytes, a tag, another zero byte and
13 bytes of text or data. -/
def descriptor (tag : UInt8) (payload : List UInt8) : List UInt8 :=
  [0, 0, 0, tag, 0] ++ payload

/-- A name as 13 bytes: ended by a line feed and filled up with spaces. -/
def nameText (name : String) : List UInt8 :=
  (name.toList.map (fun (letter : Char) => UInt8.ofNat letter.toNat) ++ [0x0A] ++
    List.replicate 13 0x20).take 13

/-- Maker, product, serial number, date of manufacture and version. -/
def identity : List UInt8 :=
  packMaker 'A' 'R' 'L' ++
  -- Product 1, serial number 1, low byte first.
  [0x01, 0x00] ++ [0x01, 0x00, 0x00, 0x00] ++
  -- Week 1 of the 34th year after 1990; EDID version 1.4.
  [1, 34] ++ [1, 4]

/-- A digital input of 8 bits a colour; 60 by 34 centimetres; gamma 2.2; the
first detailed timing is the preferred one. -/
def basicParameters : List UInt8 := [0xB5, 60, 34, 0x78, 0x3A]

/-- The chromaticity of the primaries and of white. -/
def chromaticity : List UInt8 :=
  [0xFC, 0x81, 0xA4, 0x55, 0x4D, 0x9D, 0x25, 0x12, 0x50, 0x54]

def establishedTimings : List UInt8 := [0x21, 0x08, 0x00]

/-- Five standard timings at 60 Hz (1920 by 1080, 1680 by 1050, 1600 by 900,
1280 by 1024, 1280 by 720) and three unused places. -/
def standardTimings : List UInt8 :=
  [0xD1, 0xC0, 0xB3, 0x00, 0xA9, 0xC0, 0x81, 0x80, 0x81, 0xC0,
   0x01, 0x01, 0x01, 0x01, 0x01, 0x01]

/-- Bytes 0 to 53: everything before the preferred timing. -/
def preamble : List UInt8 :=
  header ++ identity ++ basicParameters ++ chromaticity ++ establishedTimings ++ standardTimings

def nameDescriptor : List UInt8 := descriptor 0xFC (nameText "APOLLO VDISP")

/-- The descriptor with the range limits: 24 to 120 Hz, 15 to 160 kHz and a
pixel clock of up to 1200 MHz. -/
def rangeDescriptor : List UInt8 :=
  descriptor 0xFD [24, 120, 15, 160, 0x78, 0x00, 0x0A, 0x20, 0x20, 0x20, 0x20, 0x20, 0x20]

def fillerDescriptor : List UInt8 := descriptor 0x10 (List.replicate 13 0x20)

/-- The base block of a mode, in front of `extensions` extension blocks. -/
def baseBlock (mode : Mode) (extensions : UInt8) : List UInt8 :=
  sealBlock <|
    preamble ++ (DetailedTiming.ofMode mode).encode ++
      (nameDescriptor ++ rangeDescriptor ++ fillerDescriptor) ++ [extensions]

/-! ## Lengths of the parts -/

@[simp] theorem length_preamble : preamble.length = 54 := by decide

@[simp] theorem length_nameDescriptor : nameDescriptor.length = 18 := by decide

@[simp] theorem length_rangeDescriptor : rangeDescriptor.length = 18 := rfl

@[simp] theorem length_fillerDescriptor : fillerDescriptor.length = 18 := rfl

@[simp] theorem length_baseBlock (mode : Mode) (extensions : UInt8) :
    (baseBlock mode extensions).length = blockLength := by
  simp [baseBlock, DetailedTiming.length, blockLength]

end VirtualMonitor.Edid
