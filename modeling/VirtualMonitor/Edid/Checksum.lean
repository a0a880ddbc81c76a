/-!
# The checksum of an EDID block

An EDID is a row of 128-byte blocks, and the last byte of each is chosen so that
all 128 add up to zero, modulo 256.  `BlockValid` is that condition;
`checksum?` computes the byte that meets it from the other 127, and `sealBlock`
appends it to them.
-/

namespace VirtualMonitor.Edid

def blockLength : Nat := 128

/-- The sum of some bytes, modulo 256. -/
def total (bytes : List UInt8) : UInt8 := bytes.foldr (· + ·) 0

/-- A block is valid when it is 128 bytes long and they add up to zero. -/
def BlockValid (bytes : List UInt8) : Prop :=
  bytes.length = blockLength ∧ total bytes = 0

instance (bytes : List UInt8) : Decidable (BlockValid bytes) :=
  inferInstanceAs (Decidable (_ ∧ _))

/-- The byte that completes the first 127 bytes to a valid block; later bytes do
not matter.  Fewer than 127 bytes have none. -/
def checksum? (bytes : List UInt8) : Option UInt8 :=
  if blockLength - 1 ≤ bytes.length then
    some (0 - total (bytes.take (blockLength - 1)))
  else
    none

/-- Closes the body of a block with its checksum. -/
def sealBlock (body : List UInt8) : List UInt8 :=
  body ++ [0 - total body]

@[simp] theorem length_sealBlock (body : List UInt8) :
    (sealBlock body).length = body.length + 1 := by
  simp [sealBlock]

end VirtualMonitor.Edid
