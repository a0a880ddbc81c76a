import VirtualMonitor.Edid.Dump

/-!
# What a dump looks like, and how it is read back

`IsDump` is the form of a dump: blocks of eight lines and an empty one, lines of sixteen
bytes with a space between each two, bytes of two lower-case hexadecimal digits.
`readDump?` reads such a text back, two digits for a byte, and passes over spaces and the
ends of lines wherever they stand between bytes.

* `isDump_dump`: the dump of an EDID has one block for every 128 bytes;
* `readDump?_dump`: reading it back gives exactly the bytes of the EDID.
-/

namespace VirtualMonitor.Edid

/-! ### The form of a dump -/

def hexDigits : List Char := "0123456789abcdef".toList

def IsByte (text : List Char) : Prop := ∃ high ∈ hexDigits, ∃ low ∈ hexDigits, text = [high, low]

/-- Sixteen bytes with a space between each two, and the end of the line. -/
def IsLine (text : List Char) : Prop :=
  ∃ bytes : List (List Char), bytes.length = 16 ∧ (∀ byte ∈ bytes, IsByte byte) ∧
    text = (bytes.intersperse [' ']).flatten ++ ['\n']

/-- Eight lines and an empty one. -/
def IsBlock (text : List Char) : Prop :=
  ∃ lines : List (List Char), lines.length = 8 ∧ (∀ line ∈ lines, IsLine line) ∧
    text = lines.flatten ++ ['\n']

def IsDump (count : Nat) (text : List Char) : Prop :=
  ∃ blocks : List (List Char), blocks.length = count ∧ (∀ block ∈ blocks, IsBlock block) ∧
    text = blocks.flatten

/-- Every block of an EDID is whole. -/
def Whole (edid : Edid) : Prop := ∀ block ∈ edid.blocks, block.length = blockLength

theorem whole_ofMode (mode : Mode) : (ofMode mode).Whole := by
  unfold ofMode Whole blocks
  split <;> simp [blockLength]

theorem length_bytes {edid : Edid} (hwhole : edid.Whole) :
    edid.bytes.length = blockLength * edid.blocks.length := by
  have hblocks : ∀ blocks : List (List UInt8), (∀ block ∈ blocks, block.length = blockLength) →
      blocks.flatten.length = blockLength * blocks.length := by
    intro blocks hblocks
    induction blocks with
    | nil => rfl
    | cons block blocks ih =>
        obtain ⟨hblock, hrest⟩ := List.forall_mem_cons.mp hblocks
        rw [List.flatten_cons, List.length_append, hblock, ih hrest, List.length_cons,
          Nat.mul_succ, Nat.add_comm]
  exact hblocks edid.blocks hwhole

theorem isByte_byteDigits (byte : UInt8) : IsByte (byteDigits byte) := by
  have hdigit : ∀ value < 16, Nat.digitChar value ∈ hexDigits := by decide
  have hbyte := byte.toNat_lt
  exact ⟨_, hdigit (byte.toNat / 16) (by omega), _, hdigit (byte.toNat % 16) (by omega), rfl⟩

theorem isLine_dumpRow {row : List UInt8} (hlength : row.length = 16) : IsLine (dumpRow row) := by
  refine ⟨row.map byteDigits, by rw [List.length_map, hlength], ?_, rfl⟩
  intro text htext
  obtain ⟨byte, -, rfl⟩ := List.mem_map.mp htext
  exact isByte_byteDigits byte

@[simp] theorem length_rows (count : Nat) (bytes : List UInt8) :
    (rows count bytes).length = count := by
  induction count generalizing bytes with
  | zero => rfl
  | succ count ih => rw [rows, List.length_cons, ih]

theorem length_of_mem_rows {count : Nat} {bytes row : List UInt8}
    (hlength : bytes.length = 16 * count) (hrow : row ∈ rows count bytes) : row.length = 16 := by
  induction count generalizing bytes with
  | zero => cases hrow
  | succ count ih =>
      rcases List.mem_cons.mp hrow with rfl | hrest
      · rw [List.length_take]
        omega
      · exact ih (by rw [List.length_drop]; omega) hrest

theorem flatten_rows {count : Nat} {bytes : List UInt8} (hlength : bytes.length = 16 * count) :
    (rows count bytes).flatten = bytes := by
  induction count generalizing bytes with
  | zero => exact (List.length_eq_zero_iff.mp hlength).symm
  | succ count ih =>
      rw [rows, List.flatten_cons, ih (by rw [List.length_drop]; omega), List.take_append_drop]

theorem isBlock_dumpBlock {block : List UInt8} (hlength : block.length = blockLength) :
    IsBlock (dumpBlock block) := by
  refine ⟨(rows 8 block).map dumpRow, by rw [List.length_map, length_rows], ?_, ?_⟩
  · intro line hline
    obtain ⟨row, hrow, rfl⟩ := List.mem_map.mp hline
    exact isLine_dumpRow (length_of_mem_rows hlength hrow)
  · rw [dumpBlock, List.flatMap_def]

theorem isDump_dump {edid : Edid} (hwhole : edid.Whole) :
    IsDump edid.blocks.length edid.dump.toList := by
  refine ⟨edid.blocks.map dumpBlock, List.length_map .., ?_, ?_⟩
  · intro text htext
    obtain ⟨block, hblock, rfl⟩ := List.mem_map.mp htext
    exact isBlock_dumpBlock (hwhole block hblock)
  · rw [dump, String.toList_ofList, List.flatMap_def]

/-! ### Reading a dump -/

/-- The bytes of a dump. -/
def readDump? : List Char → Option (List UInt8)
  | [] => some []
  | ' ' :: rest => readDump? rest
  | '\n' :: rest => readDump? rest
  | high :: low :: rest => do
    let upper ← hexDigits.idxOf? high
    let lower ← hexDigits.idxOf? low
    let bytes ← readDump? rest
    return UInt8.ofNat (16 * upper + lower) :: bytes
  | [_] => none

/-- A text reads as some bytes wherever it stands. -/
def Reads (text : List Char) (bytes : List UInt8) : Prop :=
  ∀ rest, readDump? (text ++ rest) = (readDump? rest).map (bytes ++ ·)

theorem reads_nil : Reads [] [] := fun rest => by simp

theorem reads_space : Reads [' '] [] := fun rest => by simp [readDump?]

theorem reads_newline : Reads ['\n'] [] := fun rest => by simp [readDump?]

theorem Reads.append {first second : List Char} {bytes further : List UInt8}
    (hfirst : Reads first bytes) (hsecond : Reads second further) :
    Reads (first ++ second) (bytes ++ further) := by
  intro rest
  rw [List.append_assoc, hfirst, hsecond, Option.map_map]
  simp [Function.comp_def]

theorem Reads.flatMap {α : Type} {parts : List α} {text : α → List Char} {bytes : α → List UInt8}
    (hparts : ∀ part ∈ parts, Reads (text part) (bytes part)) :
    Reads (parts.flatMap text) (parts.flatMap bytes) := by
  induction parts with
  | nil => exact reads_nil
  | cons part parts ih =>
      obtain ⟨hpart, hrest⟩ := List.forall_mem_cons.mp hparts
      exact hpart.append (ih hrest)

theorem reads_byteDigits (byte : UInt8) : Reads (byteDigits byte) [byte] := by
  have hvalue : ∀ value < 16, hexDigits.idxOf? (Nat.digitChar value) = some value := by decide
  have hblank : ∀ value < 16, Nat.digitChar value ≠ ' ' ∧ Nat.digitChar value ≠ '\n' := by decide
  have hbyte := byte.toNat_lt
  have hhigh : byte.toNat / 16 < 16 := by omega
  have hlow : byte.toNat % 16 < 16 := by omega
  have hwhole : 16 * (byte.toNat / 16) + byte.toNat % 16 = byte.toNat := by omega
  intro rest
  rw [byteDigits, List.cons_append, List.cons_append, List.nil_append, readDump?]
  · rw [hvalue _ hhigh, hvalue _ hlow]
    simp only [Option.bind_eq_bind, Option.bind_some, hwhole, UInt8.ofNat_toNat]
    cases readDump? rest <;> rfl
  · exact (hblank _ hhigh).1
  · exact (hblank _ hhigh).2

theorem reads_intersperse (row : List UInt8) :
    Reads ((row.map byteDigits).intersperse [' ']).flatten row := by
  induction row with
  | nil => exact reads_nil
  | cons byte row ih =>
      cases row with
      | nil => simpa using reads_byteDigits byte
      | cons next row =>
          have hrest := reads_space.append ih
          simpa using (reads_byteDigits byte).append hrest

theorem reads_dumpRow (row : List UInt8) : Reads (dumpRow row) row := by
  have hrow := (reads_intersperse row).append reads_newline
  rwa [List.append_nil] at hrow

theorem reads_dumpBlock {block : List UInt8} (hlength : block.length = blockLength) :
    Reads (dumpBlock block) block := by
  have hrows : Reads ((rows 8 block).flatMap dumpRow) ((rows 8 block).flatMap id) :=
    Reads.flatMap fun row _ => reads_dumpRow row
  rw [List.flatMap_id, flatten_rows hlength] at hrows
  have hblock := hrows.append reads_newline
  rwa [List.append_nil] at hblock

/-- The bytes of an EDID are read back from its dump. -/
theorem readDump?_dump {edid : Edid} (hwhole : edid.Whole) :
    readDump? edid.dump.toList = some edid.bytes := by
  have hblocks : Reads (edid.blocks.flatMap dumpBlock) (edid.blocks.flatMap id) :=
    Reads.flatMap fun block hblock => reads_dumpBlock (hwhole block hblock)
  have hdump := hblocks []
  rw [List.append_nil, List.flatMap_id, readDump?, Option.map_some, List.append_nil] at hdump
  rw [dump, String.toList_ofList, bytes]
  exact hdump

end VirtualMonitor.Edid
