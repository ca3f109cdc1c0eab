import PreemptionFabric.Binary

/-! The table-driven reflected CRC-32 that seals images and frames (`util/crc32.hpp`). -/

namespace PreemptionFabric

def crc32Polynomial : UInt32 := 0xEDB88320

def crc32Shift (c : UInt32) : UInt32 := if c &&& 1 ≠ 0 then crc32Polynomial ^^^ (c >>> 1) else c >>> 1

/-- The 256-entry table: eight steps from each index. -/
def crc32Table : List UInt32 := (List.range 256).map fun i => Nat.repeat crc32Shift 8 (UInt32.ofNat i)

def crc32Update (crc : UInt32) (b : UInt8) : UInt32 :=
  crc32Table.getD ((crc ^^^ b.toUInt32) &&& 0xFF).toNat 0 ^^^ (crc >>> 8)

def crc32 (data : List UInt8) : UInt32 := data.foldl crc32Update 0xFFFFFFFF ^^^ 0xFFFFFFFF

/-- Bytes followed by their checksum. -/
def checksummed (data : List UInt8) : List UInt8 := data ++ ByteWriter.u32 (crc32 data)

@[simp] theorem length_checksummed (data : List UInt8) : (checksummed data).length = data.length + 4 := by
  simp [checksummed]

end PreemptionFabric
