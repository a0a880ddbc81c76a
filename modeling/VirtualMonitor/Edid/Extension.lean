import VirtualMonitor.Edid.Checksum
import VirtualMonitor.Edid.DetailedTiming

/-!
# The extension block

A monitor larger than 1920 by 1080 carries one extension block after the base
block.  It lists video and audio capabilities, and a monitor at least 3840
pixels wide also states the timing of 3840 by 2160 at 60 Hz there.  Apart from
that threshold the block does not depend on the mode.
-/

namespace VirtualMonitor.Edid

/-- The offset of the first detailed timing of the extension block. -/
def extensionTimingOffset : Nat := 24

/-- Tag, revision, offset of the first detailed timing, and the support flags:
basic audio, two colour encodings and two native timings. -/
def extensionHeader : List UInt8 := [0x02, 0x03, UInt8.ofNat extensionTimingOffset, 0x72]

/-- The video data block: seven video formats, the first of them native. -/
def videoDataBlock : List UInt8 := [0x47, 0x90, 0x04, 0x03, 0x5F, 0x60, 0x61, 0x65]

/-- The vendor block: the vendor's number, source address 1.0.0.0 and a maximal
clock of 600 MHz. -/
def vendorDataBlock : List UInt8 := [0x67, 0x03, 0x0C, 0x00, 0x10, 0x00, 0x00, 0x78]

/-- The mode whose timing a wide monitor's extension block states. -/
def wideMode : Mode := ⟨3840, 2160, 60⟩

/-- The 18 bytes after the data blocks: a timing for a wide monitor, else zero. -/
def extensionTiming (width : UInt32) : List UInt8 :=
  if 3840 ≤ width then (DetailedTiming.ofMode wideMode).encode
  else List.replicate DetailedTiming.length 0

def extensionBlock (width : UInt32) : List UInt8 :=
  sealBlock <|
    extensionHeader ++ videoDataBlock ++ vendorDataBlock ++ List.replicate 4 0 ++
      extensionTiming width ++ List.replicate 85 0

@[simp] theorem length_extensionTiming (width : UInt32) :
    (extensionTiming width).length = DetailedTiming.length := by
  unfold extensionTiming
  split <;> simp

@[simp] theorem length_extensionBlock (width : UInt32) :
    (extensionBlock width).length = blockLength := by
  simp [extensionBlock, extensionHeader, videoDataBlock, vendorDataBlock,
    DetailedTiming.length, blockLength]

end VirtualMonitor.Edid
