import Mathlib.Logic.Function.Iterate
import PreemptionFabric.Lib.LittleEndian

/-! Reflected cyclic redundancy checks over a register of `w` bits. One shift of the register is linear in `^^^`, and
    injective when the polynomial has its top bit. A byte is eight shifts, so as many bytes as fit the register act
    on it as one word: two byte strings that leave the same register and differ in so few bytes only are equal. The
    bits of the bytes taken one at a time leave the same register. -/

namespace Crc
variable {w : Nat} (poly : BitVec w)

/-! ### Shifts -/

/-- One shift: the register moves down, and the bit that falls out selects the polynomial. -/
def shift (c : BitVec w) : BitVec w := if c.getLsbD 0 then poly ^^^ (c >>> 1) else c >>> 1

theorem getLsbD_shift (c : BitVec w) (i : Nat) :
    (shift poly c).getLsbD i = ((c.getLsbD 0 && poly.getLsbD i) ^^ c.getLsbD (1 + i)) := by
  rw [shift]
  cases c.getLsbD 0 <;> simp

theorem shift_xor (a b : BitVec w) : shift poly (a ^^^ b) = shift poly a ^^^ shift poly b := by
  apply BitVec.eq_of_getLsbD_eq
  intro i _
  simp only [getLsbD_shift, BitVec.getLsbD_xor]
  generalize a.getLsbD 0 = p
  generalize b.getLsbD 0 = q
  generalize poly.getLsbD i = x
  cases p <;> cases q <;> cases x <;> simp

theorem shifts_xor (k : Nat) (a b : BitVec w) :
    (shift poly)^[k] (a ^^^ b) = (shift poly)^[k] a ^^^ (shift poly)^[k] b := by
  induction k with
  | zero => rfl
  | succ k ih =>
    rw [Function.iterate_succ_apply', Function.iterate_succ_apply', Function.iterate_succ_apply', ih, shift_xor]

variable {poly}

/-- The top bit after a shift is the bit that fell out, and the others are still there. -/
theorem shift_injective (top : poly.msb = true) : Function.Injective (shift poly) := by
  intro a b same
  rw [BitVec.msb_eq_getLsbD_last] at top
  have bits (i : Nat) : ((a.getLsbD 0 && poly.getLsbD i) ^^ a.getLsbD (1 + i)) =
      ((b.getLsbD 0 && poly.getLsbD i) ^^ b.getLsbD (1 + i)) := by
    rw [← getLsbD_shift, ← getLsbD_shift, same]
  have width : 0 < w := by
    by_contra none
    obtain rfl : w = 0 := by omega
    simp at top
  have low : a.getLsbD 0 = b.getLsbD 0 := by
    have last := bits (w - 1)
    rw [top, BitVec.getLsbD_of_ge a (1 + (w - 1)) (by omega), BitVec.getLsbD_of_ge b (1 + (w - 1)) (by omega)] at last
    simpa using last
  apply BitVec.eq_of_getLsbD_eq
  intro j _
  cases j with
  | zero => exact low
  | succ j =>
    have high := bits j
    rw [low, Nat.add_comm 1 j] at high
    exact Bool.xor_right_inj.mp high

theorem shifts_injective (top : poly.msb = true) (k : Nat) : Function.Injective (shift poly)^[k] :=
  (shift_injective top).iterate k

/-- A register whose low bits are clear only moves down. -/
theorem shifts_of_low {k : Nat} {c : BitVec w} (low : ∀ i < k, c.getLsbD i = false) :
    (shift poly)^[k] c = c >>> k := by
  induction k with
  | zero => simp
  | succ k ih =>
    have bit : (c >>> k).getLsbD 0 = false := by simpa using low k (Nat.lt_succ_self k)
    rw [Function.iterate_succ_apply', ih fun i hi => low i (Nat.lt_succ_of_lt hi), shift, bit,
      BitVec.shiftRight_add]
    rfl

/-! ### Bytes -/

variable (poly)

/-- A byte is taken into the low end of the register, which then shifts eight times. -/
def byteStep (c : BitVec w) (b : UInt8) : BitVec w := (shift poly)^[8] (c ^^^ b.toBitVec.setWidth w)

def feed (c : BitVec w) (bytes : List UInt8) : BitVec w := bytes.foldl (byteStep poly) c

theorem feed_append (c : BitVec w) (xs ys : List UInt8) : feed poly c (xs ++ ys) = feed poly (feed poly c xs) ys :=
  List.foldl_append

variable {poly}

theorem feed_injective (top : poly.msb = true) (bytes : List UInt8) :
    Function.Injective fun c => feed poly c bytes := by
  induction bytes with
  | nil => exact fun _ _ same => same
  | cons b bytes ih =>
    intro c c' same
    have stepped : byteStep poly c b = byteStep poly c' b := ih same
    exact (BitVec.xor_left_inj _).mp (shifts_injective top 8 stepped)

theorem shifts_of_shiftLeft {k : Nat} {c : BitVec w} (high : ∀ i, w ≤ i + k → c.getLsbD i = false) :
    (shift poly)^[k] (c <<< k) = c := by
  have low : ∀ i < k, (c <<< k).getLsbD i = false := by
    intro i hi
    simp [hi]
  rw [shifts_of_low low]
  apply BitVec.eq_of_getLsbD_eq
  intro i hi
  rw [BitVec.getLsbD_ushiftRight, BitVec.getLsbD_shiftLeft]
  by_cases fits : k + i < w
  · simp [fits]
  · rw [high i (by omega)]
    simp [fits]

/-- As many bytes as fit the register act on it as one word. -/
theorem feed_eq_shifts (c : BitVec w) {bytes : List UInt8} (fits : bytes.length * 8 ≤ w) :
    feed poly c bytes = (shift poly)^[bytes.length * 8] (c ^^^ LittleEndian.join bytes.length bytes) := by
  induction bytes generalizing c with
  | nil => simp [feed, LittleEndian.join]
  | cons b bytes ih =>
    rw [List.length_cons] at fits
    have above : ∀ i, w ≤ i + 8 → (LittleEndian.join bytes.length bytes : BitVec w).getLsbD i = false := by
      intro i hi
      rw [LittleEndian.getLsbD_join]
      simp [show ¬i < bytes.length * 8 by omega]
    have first : byteStep poly c b ^^^ LittleEndian.join bytes.length bytes =
        (shift poly)^[8] (c ^^^ LittleEndian.join (bytes.length + 1) (b :: bytes)) := by
      rw [LittleEndian.join_cons, ← BitVec.xor_assoc, shifts_xor, shifts_of_shiftLeft above, byteStep]
    calc feed poly c (b :: bytes)
        = feed poly (byteStep poly c b) bytes := rfl
      _ = (shift poly)^[bytes.length * 8] (byteStep poly c b ^^^ LittleEndian.join bytes.length bytes) :=
          ih _ (by omega)
      _ = (shift poly)^[(bytes.length + 1) * 8] (c ^^^ LittleEndian.join (bytes.length + 1) (b :: bytes)) := by
          rw [first, ← Function.iterate_add_apply, Nat.succ_mul]

/-- Bytes that fit the register are determined by what they make of it. -/
theorem eq_of_feed_eq (top : poly.msb = true) {c : BitVec w} {xs ys : List UInt8} (length : ys.length = xs.length)
    (fits : xs.length * 8 ≤ w) (same : feed poly c xs = feed poly c ys) : xs = ys := by
  by_cases empty : xs.length = 0
  · rw [List.length_eq_zero_iff.mp empty, List.length_eq_zero_iff.mp (length.trans empty)]
  · have byte : 8 ≤ w := by omega
    rw [feed_eq_shifts c fits, feed_eq_shifts c (length ▸ fits), length] at same
    have word := (BitVec.xor_right_inj c).mp (shifts_injective top _ same)
    calc xs = LittleEndian.split xs.length (LittleEndian.join xs.length xs : BitVec w) :=
          (LittleEndian.split_join byte fits rfl).symm
      _ = LittleEndian.split xs.length (LittleEndian.join xs.length ys : BitVec w) := by rw [word]
      _ = ys := LittleEndian.split_join byte fits length

/-- A burst of so few bytes is seen wherever it lies. -/
theorem eq_of_burst (top : poly.msb = true) {c : BitVec w} {front xs ys back : List UInt8}
    (length : ys.length = xs.length) (fits : xs.length * 8 ≤ w)
    (same : feed poly c (front ++ (xs ++ back)) = feed poly c (front ++ (ys ++ back))) : xs = ys := by
  simp only [feed_append] at same
  exact eq_of_feed_eq top length fits (feed_injective top back same)

/-- The bytes of a register, complemented by `mask`, leave a register that depends on the mask only. -/
theorem feed_split (c mask : BitVec w) {n : Nat} (width : n * 8 = w) (byte : 8 ≤ w) :
    feed poly c (LittleEndian.split n (c ^^^ mask)) = (shift poly)^[w] mask := by
  have joined : LittleEndian.join n (LittleEndian.split n (c ^^^ mask)) = c ^^^ mask :=
    LittleEndian.join_split byte (by omega) _
  rw [feed_eq_shifts c (by rw [LittleEndian.length_split]; omega), LittleEndian.length_split, joined, ← BitVec.xor_assoc,
    BitVec.xor_self, BitVec.zero_xor, width]

/-- A byte is taken with a table that holds the eight shifts of every low byte. -/
theorem byteStep_eq_table (byte : 8 ≤ w) (c : BitVec w) (b : UInt8) :
    byteStep poly c b = (shift poly)^[8] ((c ^^^ b.toBitVec.setWidth w) &&& 0xFF#w) ^^^ (c >>> 8) := by
  generalize word : c ^^^ b.toBitVec.setWidth w = x
  have parts : x = (x &&& 0xFF#w) ^^^ (x &&& ~~~0xFF#w) := by
    apply BitVec.eq_of_getLsbD_eq
    intro i hi
    simp only [BitVec.getLsbD_xor, BitVec.getLsbD_and, BitVec.getLsbD_not, LittleEndian.getLsbD_mask byte, hi]
    by_cases low : i < 8 <;> simp [low]
  have low : ∀ i < 8, (x &&& ~~~0xFF#w).getLsbD i = false := by
    intro i hi
    simp [LittleEndian.getLsbD_mask byte, hi]
  have high : (x &&& ~~~0xFF#w) >>> 8 = c >>> 8 := by
    apply BitVec.eq_of_getLsbD_eq
    intro i hi
    rw [← word]
    simp only [BitVec.getLsbD_ushiftRight, BitVec.getLsbD_and, BitVec.getLsbD_not, BitVec.getLsbD_xor,
      BitVec.getLsbD_setWidth, LittleEndian.getLsbD_mask byte, BitVec.getLsbD_of_ge b.toBitVec (8 + i) (by omega)]
    by_cases fits : 8 + i < w
    · simp [fits]
    · rw [BitVec.getLsbD_of_ge c (8 + i) (by omega)]
      simp [fits]
  have shifted : (shift poly)^[8] x = (shift poly)^[8] (x &&& 0xFF#w) ^^^ (shift poly)^[8] (x &&& ~~~0xFF#w) := by
    rw [← shifts_xor, ← parts]
  rw [byteStep, word, shifted, shifts_of_low low, high]

/-! ### Bits -/

variable (poly)

/-- A bit is taken in by comparing it with the bit that falls out: they select the polynomial when they differ. -/
def bitStep (c : BitVec w) (bit : Bool) : BitVec w :=
  if c.getLsbD 0 ^^ bit then poly ^^^ (c >>> 1) else c >>> 1

/-- The least significant bits of a word, the lowest first. -/
def lowBits {n : Nat} (k : Nat) (x : BitVec n) : List Bool := (List.range k).map x.getLsbD

theorem bitStep_eq_shift {bit : BitVec w} (high : ∀ i, bit.getLsbD (1 + i) = false) (c : BitVec w) :
    bitStep poly c (bit.getLsbD 0) = shift poly (c ^^^ bit) := by
  have moved : bit >>> 1 = 0#w := by
    apply BitVec.eq_of_getLsbD_eq
    intro i _
    rw [BitVec.getLsbD_ushiftRight, high, BitVec.getLsbD_zero]
  rw [bitStep, shift, BitVec.getLsbD_xor, BitVec.ushiftRight_xor_distrib, moved, BitVec.xor_zero]

variable {poly}

theorem getLsbD_bit (wide : 0 < w) (b : Bool) (i : Nat) :
    ((BitVec.ofBool b).setWidth w).getLsbD i = (decide (i = 0) && b) := by
  rw [BitVec.getLsbD_setWidth, BitVec.getLsbD_ofBool]
  by_cases zero : i = 0
  · simp [zero, wide]
  · simp [zero]

/-- One more low bit of a word stands above the bits before it. -/
theorem setWidth_succ {n k : Nat} (wide : 0 < w) (x : BitVec n) :
    (x.setWidth (k + 1)).setWidth w =
      (x.setWidth k).setWidth w ^^^ ((BitVec.ofBool (x.getLsbD k)).setWidth w <<< k) := by
  apply BitVec.eq_of_getLsbD_eq
  intro i hi
  simp only [BitVec.getLsbD_xor, BitVec.getLsbD_shiftLeft, BitVec.getLsbD_setWidth, getLsbD_bit wide, hi]
  obtain below | rfl | above := Nat.lt_trichotomy i k
  · simp [below, show i < k + 1 by omega]
  · simp
  · simp [show ¬i < k by omega, show ¬i < k + 1 by omega, show ¬i - k = 0 by omega]

/-- So many low bits of a word, one at a time, act on the register as the word they make. -/
theorem foldl_bitStep {n k : Nat} (fits : k ≤ w) (c : BitVec w) (x : BitVec n) :
    (lowBits k x).foldl (bitStep poly) c = (shift poly)^[k] (c ^^^ (x.setWidth k).setWidth w) := by
  induction k with
  | zero =>
    have none : (x.setWidth 0).setWidth w = 0#w := by
      apply BitVec.eq_of_getLsbD_eq
      intro i _
      simp
    rw [none, BitVec.xor_zero]
    rfl
  | succ k ih =>
    have wide : 0 < w := Nat.lt_of_lt_of_le k.succ_pos fits
    have bits := getLsbD_bit wide (x.getLsbD k)
    have low : x.getLsbD k = ((BitVec.ofBool (x.getLsbD k)).setWidth w).getLsbD 0 := by simp [bits]
    have lifted : (shift poly)^[k] ((BitVec.ofBool (x.getLsbD k)).setWidth w <<< k) =
        (BitVec.ofBool (x.getLsbD k)).setWidth w := by
      apply shifts_of_shiftLeft
      intro i hi
      rw [bits, show decide (i = 0) = false by simp; omega, Bool.false_and]
    calc (lowBits (k + 1) x).foldl (bitStep poly) c
        = bitStep poly ((shift poly)^[k] (c ^^^ (x.setWidth k).setWidth w)) (x.getLsbD k) := by
          rw [← ih (by omega)]
          simp [lowBits, List.range_succ]
      _ = shift poly ((shift poly)^[k] (c ^^^ (x.setWidth k).setWidth w) ^^^
            (BitVec.ofBool (x.getLsbD k)).setWidth w) := by
          rw [← bitStep_eq_shift poly (fun i => by simp [bits]), ← low]
      _ = (shift poly)^[k + 1] (c ^^^ (x.setWidth (k + 1)).setWidth w) := by
          rw [Function.iterate_succ_apply', setWidth_succ wide, ← BitVec.xor_assoc, shifts_xor poly k (c ^^^ _), lifted]

/-- The eight bits of each byte, the lowest first. -/
def bitsOf (bytes : List UInt8) : List Bool := bytes.flatMap fun b => lowBits 8 b.toBitVec

theorem feed_eq_foldl_bitStep (byte : 8 ≤ w) (c : BitVec w) (bytes : List UInt8) :
    feed poly c bytes = (bitsOf bytes).foldl (bitStep poly) c := by
  induction bytes generalizing c with
  | nil => rfl
  | cons b bytes ih =>
    rw [bitsOf, List.flatMap_cons, List.foldl_append, foldl_bitStep byte, BitVec.setWidth_eq]
    exact ih _

end Crc
