/-!
# Sync flags

The last byte of a detailed timing says how the monitor is synchronised.  Only
the bits of three named flags are ever set in it.
-/

namespace VirtualMonitor

/-- A set of sync flags, as the byte that carries it. -/
structure SyncFlags where
  bits : UInt8
  deriving DecidableEq

namespace SyncFlags

def digitalSeparate : SyncFlags := ⟨0x18⟩

def vSyncPositive : SyncFlags := ⟨0x04⟩

def hSyncPositive : SyncFlags := ⟨0x02⟩

def all : SyncFlags :=
  ⟨digitalSeparate.bits ||| vSyncPositive.bits ||| hSyncPositive.bits⟩

/-- Forgets the bits that belong to no flag. -/
def truncate (bits : UInt8) : SyncFlags := ⟨bits &&& all.bits⟩

/-- Reads a byte as a set of flags; a bit outside them all is refused. -/
def ofBits? (bits : UInt8) : Option SyncFlags :=
  if truncate bits = ⟨bits⟩ then some ⟨bits⟩ else none

def contains (flags flag : SyncFlags) : Bool :=
  flags.bits &&& flag.bits == flag.bits

end SyncFlags

end VirtualMonitor
