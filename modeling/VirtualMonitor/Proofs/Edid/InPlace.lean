import VirtualMonitor.Edid

/-!
# Encoding an EDID in place

`Edid.ofMode` concatenates the parts of an EDID.  Here the same bytes are written, field
by field and each at its offset, into a zeroed buffer that has room for two blocks.  Every
access is checked: a field that does not fit exactly, an encoder that is given too short
a part, a checksum of too few bytes or a letter out of range ends in `none`.  Timings need
no such check, since their arithmetic saturates.

* `encodeInPlace?_eq`: none of this ever happens, whatever the mode, and what is left in
  the buffer are the bytes of `Edid.ofMode`.
-/

namespace VirtualMonitor.Edid

/-! ## Checked access to a buffer -/

/-- Lets an encoder overwrite the bytes of a buffer from `start` up to `stop`; the part it
is given must exist, and it must give back as many bytes. -/
def within? (start stop : Nat) (encode? : List UInt8 → Option (List UInt8))
    (buffer : List UInt8) : Option (List UInt8) :=
  if start ≤ stop ∧ stop ≤ buffer.length then do
    let part ← encode? ((buffer.drop start).take (stop - start))
    if part.length = stop - start then
      some (buffer.take start ++ part ++ buffer.drop stop)
    else none
  else none

/-- Overwrites a part of a buffer by given bytes. -/
def copy? (start stop : Nat) (bytes : List UInt8) : List UInt8 → Option (List UInt8) :=
  within? start stop fun _ => some bytes

/-- Overwrites several parts, each given by its ends and its bytes. -/
def copyAll? (fields : List (Nat × Nat × List UInt8)) (buffer : List UInt8) :
    Option (List UInt8) :=
  fields.foldlM (fun buffer (start, stop, bytes) => copy? start stop bytes buffer) buffer

/-- Puts the checksum of a block into its last byte. -/
def seal? (block : List UInt8) : Option (List UInt8) := do
  let sum ← checksum? block
  copy? 127 128 [sum] block

/-! ## The blocks -/

/-- The place of a letter in the alphabet, in a byte. -/
def place? (letter : UInt8) : Option UInt8 :=
  if 0x41 ≤ letter ∧ letter - 0x41 < 0xFF then some (letter - 0x41 + 1) else none

/-- A three-letter maker's code, packed into two bytes. -/
def maker? (first second third : UInt8) : Option (List UInt8) := do
  let first ← place? first
  let second ← place? second
  let third ← place? third
  let packed := first.toUInt16 <<< 10 ||| second.toUInt16 <<< 5 ||| third.toUInt16
  some [(packed >>> 8).toUInt8, packed.toUInt8]

/-- The fields before the preferred timing.  The standard timings are written two bytes at
a time. -/
def preambleFields (maker : List UInt8) : List (Nat × Nat × List UInt8) :=
  [(0, 8, header), (8, 10, maker), (10, 12, [0x01, 0x00]), (12, 16, [0x01, 0x00, 0x00, 0x00]),
    (16, 18, [1, 34]), (18, 20, [1, 4]), (20, 21, [0xB5]), (21, 23, [60, 34]), (23, 24, [0x78]),
    (24, 25, [0x3A]), (25, 35, chromaticity), (35, 38, establishedTimings)] ++
  (List.range 8).map fun index =>
    (38 + 2 * index, 40 + 2 * index, (standardTimings.drop (2 * index)).take 2)

/-- Writes a descriptor that is no timing. -/
def writeDescriptor? (tag : UInt8) (payload : List UInt8) (part : List UInt8) :
    Option (List UInt8) :=
  copyAll? [(0, 3, [0, 0, 0]), (3, 4, [tag]), (4, 5, [0]), (5, part.length, payload)] part

/-- Writes a name over 13 spaces, with a line feed behind it if there is room, and the
descriptor that carries it. -/
def writeName? (name : List UInt8) (part : List UInt8) : Option (List UInt8) := do
  let text ← copy? 0 name.length name (List.replicate 13 0x20)
  let text ← (if name.length < 13 then copy? name.length (name.length + 1) [0x0A] text
    else some text)
  writeDescriptor? 0xFC text part

def writeBase? (mode : Mode) (extensions : UInt8) (block : List UInt8) :
    Option (List UInt8) := do
  let maker ← maker? 0x41 0x52 0x4C
  let block ← copyAll? (preambleFields maker) block
  let block ← within? 54 72 (DetailedTiming.ofMode mode).writeInto? block
  let block ← within? 72 90 (writeName? "APOLLO VDISP".toUTF8.data.toList) block
  let block ← within? 90 108 (writeDescriptor? 0xFD
    [24, 120, 15, 160, 0x78, 0x00, 0x0A, 0x20, 0x20, 0x20, 0x20, 0x20, 0x20]) block
  let block ← within? 108 126 (writeDescriptor? 0x10 (List.replicate 13 0x20)) block
  let block ← copy? 126 127 [extensions] block
  seal? block

/-- The fields of the extension block before its timing. -/
def extensionFields : List (Nat × Nat × List UInt8) :=
  [(0, 1, [0x02]), (1, 2, [0x03]), (2, 3, [24]), (3, 4, [0x72]), (4, 12, videoDataBlock),
    (12, 20, vendorDataBlock), (20, 24, List.replicate 4 0)]

def writeExtension? (width : UInt32) (block : List UInt8) : Option (List UInt8) := do
  let block ← copyAll? extensionFields block
  let block ← (if 3840 ≤ width then
      within? 24 42 (DetailedTiming.ofMode ⟨3840, 2160, 60⟩).writeInto? block
    else some block)
  seal? block

/-- Writes the EDID of a mode into a buffer of two blocks and gives the bytes in use. -/
def encodeInPlace? (mode : Mode) : Option (List UInt8) := do
  let extensions := if NeedsExtension mode.width mode.height then 1 else 0
  let buffer ← within? 0 128 (writeBase? mode extensions) (List.replicate 256 0)
  let buffer ← (if NeedsExtension mode.width mode.height then
      within? 128 256 (writeExtension? mode.width) buffer
    else some buffer)
  if lengthFor mode.width mode.height ≤ buffer.length then
    some (buffer.take (lengthFor mode.width mode.height))
  else none

/-! ## No access fails -/

/-- An encoder that fills zeroed bytes behind those written before. -/
theorem within?_zeros {done new : List UInt8} {start stop count rest : Nat}
    {encode? : List UInt8 → Option (List UInt8)}
    (hencode : encode? (List.replicate new.length 0) = some new) (hstart : done.length = start)
    (hstop : start + new.length = stop) (hcount : new.length + rest = count) :
    within? start stop encode? (done ++ List.replicate count 0) =
      some (done ++ new ++ List.replicate rest 0) := by
  subst hstart hstop hcount
  simp [within?, hencode]

theorem copy?_zeros {done new : List UInt8} {start stop count rest : Nat}
    (hstart : done.length = start) (hstop : start + new.length = stop)
    (hcount : new.length + rest = count) :
    copy? start stop new (done ++ List.replicate count 0) =
      some (done ++ new ++ List.replicate rest 0) :=
  within?_zeros rfl hstart hstop hcount

/-- The checksum takes the place of the last byte. -/
theorem seal?_zero (body : List UInt8) (hlength : body.length = 127) :
    seal? (body ++ List.replicate 1 0) = some (sealBlock body) := by
  have hsum : checksum? (body ++ List.replicate 1 0) = some (0 - total body) := by
    simp [checksum?, blockLength, hlength]
  have hcopy : copy? 127 128 [0 - total body] (body ++ List.replicate 1 0) =
      some (body ++ [0 - total body] ++ List.replicate 0 0) := copy?_zeros hlength rfl rfl
  simpa only [seal?, hsum, Option.bind_eq_bind, Option.bind_some, sealBlock,
    List.replicate_zero, List.append_nil] using hcopy

theorem writeInto?_zeros (timing : DetailedTiming) :
    timing.writeInto? (List.replicate 18 0) = some timing.encode := by
  simp [DetailedTiming.writeInto?, DetailedTiming.length]

theorem writeBase?_eq (mode : Mode) (extensions : UInt8) :
    writeBase? mode extensions (List.replicate 128 0) = some (baseBlock mode extensions) := by
  -- after each write the zeros that are left begin where the fields written so far end
  let timing := (DetailedTiming.ofMode mode).encode
  have htimingLength : timing.length = 18 := rfl
  have hmaker : maker? 0x41 0x52 0x4C = some [0x06, 0x4C] := by decide
  have hpreamble : copyAll? (preambleFields [0x06, 0x4C]) (List.replicate 128 0) =
      some (preamble ++ List.replicate 74 0) := by decide +kernel
  have htiming : within? 54 72 (DetailedTiming.ofMode mode).writeInto?
      (preamble ++ List.replicate 74 0) = some (preamble ++ timing ++ List.replicate 56 0) :=
    within?_zeros (writeInto?_zeros _) length_preamble rfl rfl
  have hname : within? 72 90 (writeName? "APOLLO VDISP".toUTF8.data.toList)
      (preamble ++ timing ++ List.replicate 56 0) =
        some (preamble ++ timing ++ nameDescriptor ++ List.replicate 38 0) :=
    within?_zeros (by decide +kernel) (by simp [htimingLength]) rfl rfl
  have hrange : within? 90 108 (writeDescriptor? 0xFD
      [24, 120, 15, 160, 0x78, 0x00, 0x0A, 0x20, 0x20, 0x20, 0x20, 0x20, 0x20])
      (preamble ++ timing ++ nameDescriptor ++ List.replicate 38 0) =
        some (preamble ++ timing ++ nameDescriptor ++ rangeDescriptor ++ List.replicate 20 0) :=
    within?_zeros (by decide +kernel) (by simp [htimingLength]) rfl rfl
  have hfiller : within? 108 126 (writeDescriptor? 0x10 (List.replicate 13 0x20))
      (preamble ++ timing ++ nameDescriptor ++ rangeDescriptor ++ List.replicate 20 0) =
        some (preamble ++ timing ++ nameDescriptor ++ rangeDescriptor ++ fillerDescriptor ++
          List.replicate 2 0) :=
    within?_zeros (by decide +kernel) (by simp [htimingLength]) rfl rfl
  have hcount : copy? 126 127 [extensions]
      (preamble ++ timing ++ nameDescriptor ++ rangeDescriptor ++ fillerDescriptor ++
        List.replicate 2 0) =
      some (preamble ++ timing ++ nameDescriptor ++ rangeDescriptor ++ fillerDescriptor ++
        [extensions] ++ List.replicate 1 0) :=
    copy?_zeros (by simp [htimingLength]) rfl rfl
  have hseal := seal?_zero (preamble ++ timing ++ nameDescriptor ++ rangeDescriptor ++
    fillerDescriptor ++ [extensions]) (by simp [htimingLength])
  have hblock : baseBlock mode extensions = sealBlock (preamble ++ timing ++ nameDescriptor ++
      rangeDescriptor ++ fillerDescriptor ++ [extensions]) := by
    simp only [baseBlock, timing, List.append_assoc]
  simp only [writeBase?, Option.bind_eq_bind]
  rw [hmaker, Option.bind_some, hpreamble, Option.bind_some, htiming, Option.bind_some, hname,
    Option.bind_some, hrange, Option.bind_some, hfiller, Option.bind_some, hcount,
    Option.bind_some, hseal, hblock]

theorem writeExtension?_eq (width : UInt32) :
    writeExtension? width (List.replicate 128 0) = some (extensionBlock width) := by
  let top := extensionHeader ++ videoDataBlock ++ vendorDataBlock ++ List.replicate 4 0
  have hfields : copyAll? extensionFields (List.replicate 128 0) =
      some (top ++ List.replicate 104 0) := by decide +kernel
  have htiming : (if 3840 ≤ width then
        within? 24 42 (DetailedTiming.ofMode ⟨3840, 2160, 60⟩).writeInto?
          (top ++ List.replicate 104 0)
      else some (top ++ List.replicate 104 0)) =
        some (top ++ extensionTiming width ++ List.replicate 86 0) := by
    unfold extensionTiming
    split
    · exact within?_zeros (writeInto?_zeros _) rfl rfl rfl
    · simp [DetailedTiming.length]
  have hseal := seal?_zero (top ++ extensionTiming width ++ List.replicate 85 0)
    (by simp [top, extensionHeader, videoDataBlock, vendorDataBlock, DetailedTiming.length])
  -- the checksum goes over the last of the zeros
  have hzeros : List.replicate 86 (0 : UInt8) = List.replicate 85 0 ++ List.replicate 1 0 := rfl
  simp only [writeExtension?, hfields, Option.bind_eq_bind, Option.bind_some, htiming]
  rw [hzeros, ← List.append_assoc, hseal]
  rfl

theorem encodeInPlace?_eq (mode : Mode) : encodeInPlace? mode = some (ofMode mode).bytes := by
  -- each block is written into its own half of a row of zeros
  have hbase (extensions : UInt8) : within? 0 128 (writeBase? mode extensions)
      ([] ++ List.replicate 256 0) = some ([] ++ baseBlock mode extensions ++
        List.replicate 128 0) :=
    within?_zeros (by simpa [blockLength] using writeBase?_eq mode extensions) rfl
      (by simp [blockLength]) (by simp [blockLength])
  have hextension (base : List UInt8) (hlength : base.length = 128) :
      within? 128 256 (writeExtension? mode.width) (base ++ List.replicate 128 0) =
        some (base ++ extensionBlock mode.width ++ List.replicate 0 0) :=
    within?_zeros (by simpa [blockLength] using writeExtension?_eq mode.width) hlength
      (by simp [blockLength]) (by simp [blockLength])
  simp only [List.nil_append] at hbase
  simp only [encodeInPlace?, hbase, Option.bind_eq_bind, Option.bind_some]
  by_cases hneeds : NeedsExtension mode.width mode.height
  · have hwritten := hextension (baseBlock mode 1) (length_baseBlock mode 1)
    simp only [hneeds, if_true, hwritten, Option.bind_some]
    simp [ofMode, bytes, blocks, lengthFor, hneeds, blockLength, List.take_of_length_le]
  · simp only [hneeds, if_false, Option.bind_some]
    simp [ofMode, bytes, blocks, lengthFor, hneeds, blockLength, -List.reduceReplicate]

end VirtualMonitor.Edid
