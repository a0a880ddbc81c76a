import VirtualMonitor.Edid
import VirtualMonitor.Proofs.Edid.Checksum

/-!
# The layout of an EDID

`field` cuts a field out of the bytes of an EDID.  A block is a concatenation of parts
that `sealBlock` closes, and a part is found behind everything before it
(`field_sealBlock`).  `field_base` and `field_extensionBlock` say so for the two kinds of
block; the fields at fixed offsets are instances of them.
-/

namespace VirtualMonitor.Edid

/-- So many bytes, from an offset on. -/
def field (offset length : Nat) (bytes : List UInt8) : List UInt8 :=
  (bytes.drop offset).take length

theorem getElem?_of_field {offset length : Nat} {bytes part : List UInt8}
    (hfield : field offset length bytes = part) (index : Nat) (hindex : index < length) :
    bytes[offset + index]? = part[index]? := by
  simp [← hfield, field, hindex]

/-- A part of the body of a block, which may stand behind another block and before a
third. -/
theorem field_sealBlock {offset length : Nat} {before part body : List UInt8}
    (front rest : List UInt8)
    (hpart : before ++ part <+: body) (hoffset : front.length + before.length = offset)
    (hlength : part.length = length) :
    field offset length (front ++ sealBlock body ++ rest) = part := by
  obtain ⟨after, rfl⟩ := hpart
  subst hoffset hlength
  have hsplit : front ++ sealBlock (before ++ part ++ after) ++ rest =
      (front ++ before) ++ (part ++ (after ++ [0 - total (before ++ part ++ after)] ++ rest)) := by
    simp only [sealBlock, List.append_assoc]
  rw [hsplit, ← List.length_append, field, List.drop_left, List.take_left]

/-! ## Both blocks are sealed -/

theorem blockValid_baseBlock (mode : Mode) (extensions : UInt8) :
    BlockValid (baseBlock mode extensions) :=
  blockValid_sealBlock (by simp [DetailedTiming.length])

theorem blockValid_extensionBlock (width : UInt32) : BlockValid (extensionBlock width) :=
  blockValid_sealBlock
    (by simp [extensionHeader, videoDataBlock, vendorDataBlock, DetailedTiming.length])

/-! ## The fields of both blocks -/

/-- The number of extension blocks of an EDID for a size. -/
def extensionCount (width height : UInt32) : UInt8 := if NeedsExtension width height then 1 else 0

section Fields

variable {mode : Mode} {offset length : Nat} {part : List UInt8}

/-- Whatever an extension adds, an EDID starts with its base block. -/
theorem bytes_ofMode (mode : Mode) : (ofMode mode).bytes =
    baseBlock mode (extensionCount mode.width mode.height) ++
      (ofMode mode).extension?.toList.flatten := by
  unfold ofMode extensionCount
  split <;> simp [bytes, blocks]

/-- A field of the base block. -/
theorem field_base (before : List UInt8)
    (hpart : before ++ part <+: preamble ++ (DetailedTiming.ofMode mode).encode ++
      (nameDescriptor ++ rangeDescriptor ++ fillerDescriptor) ++
        [extensionCount mode.width mode.height])
    (hoffset : before.length = offset) (hlength : part.length = length) :
    field offset length (ofMode mode).bytes = part := by
  rw [bytes_ofMode]
  exact field_sealBlock [] _ hpart (by simpa using hoffset) hlength

theorem field_extensionBlock {width : UInt32} (before : List UInt8)
    (hpart : before ++ part <+: extensionHeader ++ videoDataBlock ++ vendorDataBlock ++
      List.replicate 4 0 ++ extensionTiming width ++ List.replicate 85 0)
    (hoffset : before.length = offset) (hlength : part.length = length) :
    field offset length (extensionBlock width) = part := by
  have hfield := field_sealBlock [] [] hpart (by simpa using hoffset) hlength
  rwa [List.append_nil] at hfield

theorem field_baseBlock (mode : Mode) : field 0 blockLength (ofMode mode).bytes =
    baseBlock mode (extensionCount mode.width mode.height) := by
  rw [bytes_ofMode, field, List.drop_zero, List.take_left' (length_baseBlock _ _)]

/-- A large picture has the extension block behind the base block. -/
theorem field_extension (hneeds : NeedsExtension mode.width mode.height) :
    field blockLength blockLength (ofMode mode).bytes = extensionBlock mode.width := by
  have hextension : (ofMode mode).extension?.toList.flatten = extensionBlock mode.width := by
    simp [ofMode, hneeds]
  rw [bytes_ofMode, hextension, field, List.drop_left' (length_baseBlock _ _),
    List.take_of_length_le (length_extensionBlock _).le]

theorem field_timing (mode : Mode) :
    field 54 18 (ofMode mode).bytes = (DetailedTiming.ofMode mode).encode :=
  field_base preamble (by simp) length_preamble rfl

end Fields

end VirtualMonitor.Edid
