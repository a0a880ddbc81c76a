import VirtualMonitor.Edid

/-!
# Dumping an EDID

An EDID is shown block by block.  A block takes eight lines of sixteen bytes, each
byte as two hexadecimal digits, and an empty line after them.
-/

namespace VirtualMonitor.Edid

def byteDigits (byte : UInt8) : List Char :=
  [Nat.digitChar (byte.toNat / 16), Nat.digitChar (byte.toNat % 16)]

/-- Bytes on one line, with a space between each two. -/
def dumpRow (row : List UInt8) : List Char :=
  ((row.map byteDigits).intersperse [' ']).flatten ++ ['\n']

/-- Cuts a block into `count` rows of sixteen bytes. -/
def rows : Nat → List UInt8 → List (List UInt8)
  | 0, _ => []
  | count + 1, bytes => bytes.take 16 :: rows count (bytes.drop 16)

def dumpBlock (block : List UInt8) : List Char := (rows 8 block).flatMap dumpRow ++ ['\n']

def dump (edid : Edid) : String := String.ofList (edid.blocks.flatMap dumpBlock)

end VirtualMonitor.Edid
