import VirtualMonitor.Edid.Base
import VirtualMonitor.Edid.Extension

/-!
# EDIDs

`Edid.ofMode` is the EDID a virtual monitor reports for a mode: a base block,
and an extension block when the picture is larger than 1920 by 1080.
-/

namespace VirtualMonitor

/-- An EDID: a base block, and perhaps an extension block. -/
structure Edid where
  base : List UInt8
  extension? : Option (List UInt8)
  deriving DecidableEq

namespace Edid

/-- Pictures larger than 1920 by 1080 need the extension block. -/
def NeedsExtension (width height : UInt32) : Prop := 1920 < width ∨ 1080 < height

instance (width height : UInt32) : Decidable (NeedsExtension width height) :=
  inferInstanceAs (Decidable (_ ∨ _))

def lengthFor (width height : UInt32) : Nat :=
  if NeedsExtension width height then 2 * blockLength else blockLength

/-- The EDID of a virtual monitor with the given mode. -/
def ofMode (mode : Mode) : Edid :=
  if NeedsExtension mode.width mode.height then
    ⟨baseBlock mode 1, some (extensionBlock mode.width)⟩
  else
    ⟨baseBlock mode 0, none⟩

def blocks (edid : Edid) : List (List UInt8) := edid.base :: edid.extension?.toList

def bytes (edid : Edid) : List UInt8 := edid.blocks.flatten

def hasExtension (edid : Edid) : Bool := edid.extension?.isSome

def length (edid : Edid) : Nat := edid.bytes.length

def summary (edid : Edid) : String :=
  "Edid \x7b len: " ++ toString edid.length ++
    ", has_extension: " ++ toString edid.hasExtension ++ " \x7d"

@[simp] theorem length_ofMode (mode : Mode) :
    (ofMode mode).length = lengthFor mode.width mode.height := by
  unfold ofMode lengthFor length bytes blocks
  split <;> simp [blockLength]

end Edid

end VirtualMonitor
