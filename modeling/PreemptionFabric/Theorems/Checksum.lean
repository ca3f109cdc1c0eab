import PreemptionFabric.Crc32
import PreemptionFabric.Lib.Crc

/-! The checksum of images and frames is a cyclic redundancy check of 32 bits. The source takes a byte with one look-up
    in its table; that is eight shifts of the register, and hence what the bit-serial check of IEEE 802.3 does with
    the eight bits of the byte. -/

namespace PreemptionFabric

/-! ### The checksum as a cyclic redundancy check -/

/-- The polynomial as a word of the register. -/
def crc32Word : BitVec 32 := crc32Polynomial.toBitVec

theorem crc32Word_msb : crc32Word.msb = true := by decide

theorem crc32Shift_toBitVec (c : UInt32) : (crc32Shift c).toBitVec = Crc.shift crc32Word c.toBitVec := by
  have bit : (c &&& 1 ≠ 0) ↔ c.toBitVec.getLsbD 0 = true := by
    have parity : (c &&& 1).toNat = c.toNat % 2 := by
      rw [UInt32.toNat_and]
      exact Nat.and_one_is_mod _
    have value : c.toBitVec.getLsbD 0 = decide (c.toNat % 2 = 1) := Nat.testBit_zero _
    rw [value, decide_eq_true_eq, ne_eq, ← UInt32.toNat_inj, parity]
    show ¬c.toNat % 2 = 0 ↔ c.toNat % 2 = 1
    omega
  rw [crc32Shift, Crc.shift]
  by_cases low : c.toBitVec.getLsbD 0 = true
  · rw [if_pos (bit.mpr low), if_pos low]
    rfl
  · rw [if_neg (fun odd => low (bit.mp odd)), if_neg low]
    rfl

theorem repeat_crc32Shift (n : Nat) (c : UInt32) :
    (Nat.repeat crc32Shift n c).toBitVec = (Crc.shift crc32Word)^[n] c.toBitVec := by
  induction n with
  | zero => rfl
  | succ n ih => rw [Nat.repeat, crc32Shift_toBitVec, ih, Function.iterate_succ_apply']

theorem crc32Table_getD {i : Nat} (bound : i < 256) :
    crc32Table.getD i 0 = Nat.repeat crc32Shift 8 (UInt32.ofNat i) := by
  simp [crc32Table, List.getD, bound]

/-- A step of the table is eight shifts. -/
theorem crc32Update_toBitVec (crc : UInt32) (b : UInt8) :
    (crc32Update crc b).toBitVec = Crc.byteStep crc32Word crc.toBitVec b := by
  have bound : ((crc ^^^ b.toUInt32) &&& 0xFF).toNat < 256 := by
    rw [UInt32.toNat_and]
    exact Nat.lt_succ_of_le Nat.and_le_right
  rw [crc32Update, crc32Table_getD bound, UInt32.ofNat_toNat, UInt32.toBitVec_xor, repeat_crc32Shift,
    Crc.byteStep_eq_table (by decide)]
  rfl

theorem foldl_crc32Update (data : List UInt8) (crc : UInt32) :
    (data.foldl crc32Update crc).toBitVec = Crc.feed crc32Word crc.toBitVec data := by
  induction data generalizing crc with
  | nil => rfl
  | cons b data ih =>
    rw [List.foldl_cons, ih, crc32Update_toBitVec]
    rfl

/-- The register starts, and is complemented, with all bits set. -/
def crc32Mask : BitVec 32 := 0xFFFFFFFF#32

theorem crc32_toBitVec (data : List UInt8) :
    (crc32 data).toBitVec = Crc.feed crc32Word crc32Mask data ^^^ crc32Mask := by
  rw [crc32, UInt32.toBitVec_xor, foldl_crc32Update]
  rfl

/-! ### The bit-serial check -/

/-- One step of the reflected CRC-32 of IEEE 802.3: the register moves down, and the polynomial is taken in when the
    bit that falls out differs from the bit of the message. -/
def ieeeStep (c : BitVec 32) (bit : Bool) : BitVec 32 :=
  if c.getLsbD 0 != bit then (c >>> 1) ^^^ 0xEDB88320#32 else c >>> 1

/-- The bits of a byte, the least significant first. -/
def ieeeBits (b : UInt8) : List Bool := (List.range 8).map fun i => b.toNat.testBit i

/-- The reflected CRC-32 of IEEE 802.3, one bit at a time. -/
def ieeeCrc32 (data : List UInt8) : BitVec 32 :=
  (data.flatMap ieeeBits).foldl ieeeStep 0xFFFFFFFF#32 ^^^ 0xFFFFFFFF#32

theorem ieeeStep_eq (c : BitVec 32) (bit : Bool) : ieeeStep c bit = Crc.bitStep crc32Word c bit := by
  rw [ieeeStep, Crc.bitStep, BitVec.xor_comm]
  rfl

/-- The table-driven checksum is the bit-serial one. -/
theorem crc32_eq_ieeeCrc32 (data : List UInt8) : (crc32 data).toBitVec = ieeeCrc32 data := by
  have step : ieeeStep = Crc.bitStep crc32Word := funext fun c => funext (ieeeStep_eq c)
  have bits : data.flatMap ieeeBits = Crc.bitsOf data := rfl
  rw [crc32_toBitVec, Crc.feed_eq_foldl_bitStep (by decide), ieeeCrc32, step, bits]
  rfl

-- The check value of the digits 1 to 9.
example : ieeeCrc32 [0x31, 0x32, 0x33, 0x34, 0x35, 0x36, 0x37, 0x38, 0x39] = 0xCBF43926#32 := by decide +kernel

end PreemptionFabric
