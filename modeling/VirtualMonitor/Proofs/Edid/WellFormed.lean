import VirtualMonitor.Proofs.Edid.InPlace
import VirtualMonitor.Proofs.Edid.Layout

/-!
# Every EDID is well formed

`WellFormed` collects what a reader of an EDID relies on: the announced number of blocks,
a valid checksum in each, and every field in its place.

* `ofMode_wellFormed`: for every mode, degenerate sizes and rates included, the encoder
  runs to its end and the bytes it leaves are well formed.
-/

namespace VirtualMonitor.Edid

/-- An extension block for a picture of some width: its tag, the offset of its timing, and
a timing only in wide pictures, with nothing but zeros around it. -/
structure ProperExtension (width : UInt32) (block : List UInt8) : Prop where
  tag : block[0]? = some 0x02
  timingOffset : block[2]? = some 24
  gap : field 20 4 block = List.replicate 4 0
  timing : field 24 18 block =
    if 3840 ≤ width then (DetailedTiming.ofMode ⟨3840, 2160, 60⟩).encode
    else List.replicate 18 0
  padding : field 42 85 block = List.replicate 85 0

/-- The structure of an EDID for a mode.  There is a second block exactly for pictures that are
wider than 1920 or higher than 1080. -/
structure WellFormed (mode : Mode) (bytes : List UInt8) : Prop where
  count : bytes[126]? = some (if 1920 < mode.width ∨ 1080 < mode.height then 1 else 0)
  length : bytes.length = if 1920 < mode.width ∨ 1080 < mode.height then 256 else 128
  announced : lengthFor mode.width mode.height = bytes.length
  blocks : ∀ index, 128 * index < bytes.length → BlockValid (field (128 * index) 128 bytes)
  header : field 0 8 bytes = [0x00, 0xFF, 0xFF, 0xFF, 0xFF, 0xFF, 0xFF, 0x00]
  /-- The preferred timing is what the timing encoder writes over any 18 bytes. -/
  timing : ∀ buffer, buffer.length = 18 →
    (DetailedTiming.ofMode mode).writeInto? buffer = some (field 54 18 bytes)
  name : field 72 18 bytes = descriptor 0xFC (nameText "APOLLO VDISP")
  range : field 90 18 bytes = descriptor 0xFD
    [24, 120, 15, 160, 0x78, 0x00, 0x0A, 0x20, 0x20, 0x20, 0x20, 0x20, 0x20]
  filler : field 108 18 bytes = descriptor 0x10 (List.replicate 13 0x20)
  extension : 1920 < mode.width ∨ 1080 < mode.height →
    ProperExtension mode.width (field 128 128 bytes)

theorem extensionBlock_proper (width : UInt32) :
    ProperExtension width (extensionBlock width) := by
  have hheader : field 0 4 (extensionBlock width) = extensionHeader :=
    field_extensionBlock [] (by simp) rfl rfl
  let data := extensionHeader ++ videoDataBlock ++ vendorDataBlock
  have htiming : field 24 18 (extensionBlock width) = extensionTiming width :=
    field_extensionBlock (data ++ List.replicate 4 0) (by simp [data]) rfl
      (length_extensionTiming width)
  exact {
    tag := getElem?_of_field hheader 0 (by decide)
    timingOffset := getElem?_of_field hheader 2 (by decide)
    gap := field_extensionBlock data (by simp [data]) rfl rfl
    timing := htiming
    padding := field_extensionBlock
      (data ++ List.replicate 4 0 ++ extensionTiming width) (by simp [data])
      (by simp [data, extensionHeader, videoDataBlock, vendorDataBlock, DetailedTiming.length])
      rfl }

/-- Each block of an EDID is valid. -/
theorem blockValid_field (mode : Mode) {index : Nat}
    (hindex : 128 * index < (ofMode mode).bytes.length) :
    BlockValid (field (128 * index) 128 (ofMode mode).bytes) := by
  rw [show (ofMode mode).bytes.length = lengthFor mode.width mode.height from length_ofMode mode,
    lengthFor] at hindex
  -- the base block, the extension, and nothing behind them
  rcases index with - | - | index
  · exact (field_baseBlock mode).symm ▸ blockValid_baseBlock _ _
  · have hneeds : NeedsExtension mode.width mode.height := by
      by_contra hneeds
      rw [if_neg hneeds, blockLength] at hindex
      omega
    exact (field_extension hneeds).symm ▸ blockValid_extensionBlock _
  · -- no EDID has a third block
    unfold blockLength at hindex
    split at hindex <;> omega

/-- The bytes of every mode have the structure of an EDID, and nothing on the way to them
fails. -/
theorem ofMode_wellFormed (mode : Mode) :
    encodeInPlace? mode = some (ofMode mode).bytes ∧ WellFormed mode (ofMode mode).bytes := by
  refine ⟨encodeInPlace?_eq mode, ?_⟩
  let timing := (DetailedTiming.ofMode mode).encode
  have hlength : (ofMode mode).bytes.length = lengthFor mode.width mode.height :=
    length_ofMode mode
  have hcount : field 126 1 (ofMode mode).bytes = [extensionCount mode.width mode.height] :=
    field_base (preamble ++ timing ++
      (nameDescriptor ++ rangeDescriptor ++ fillerDescriptor)) (by simp [timing]) rfl rfl
  exact {
    count := getElem?_of_field hcount 0 (by decide)
    length := hlength
    announced := hlength.symm
    blocks := fun index hindex => blockValid_field mode hindex
    header := field_base [] (by simp [preamble, header]) rfl rfl
    timing := by
      intro buffer hbuffer
      rw [field_timing, DetailedTiming.writeInto?, DetailedTiming.length, hbuffer,
        if_pos le_rfl, List.drop_of_length_le hbuffer.le, List.append_nil]
    name := field_base (preamble ++ timing) (by simp [timing, nameDescriptor]) rfl rfl
    range := field_base (preamble ++ timing ++ nameDescriptor)
      (by simp [timing, rangeDescriptor]) rfl rfl
    filler := field_base (preamble ++ timing ++ nameDescriptor ++ rangeDescriptor)
      (by simp [timing, fillerDescriptor]) rfl rfl
    extension := fun hneeds => (field_extension hneeds).symm ▸ extensionBlock_proper _ }

end VirtualMonitor.Edid
