import Mathlib.Data.List.GetD

/-! Words as little-endian bytes. `split` cuts a word into bytes by shifting and masking, `join` puts bytes
    back together by shifting and or-ing; both are exact on words of a whole number of bytes. -/

namespace LittleEndian
variable {w : Nat}

/-- The low `n` bytes of `v`, least significant first. -/
def split (n : Nat) (v : BitVec w) : List UInt8 :=
  (List.range n).map fun i => UInt8.ofBitVec (((v >>> (i * 8)) &&& 0xFF#w).setWidth 8)

/-- The word whose bytes are the first `n` of `bytes`, least significant first. -/
def join (n : Nat) (bytes : List UInt8) : BitVec w :=
  (List.range n).foldl (fun v i => v ||| ((bytes.getD i 0).toBitVec.setWidth w <<< (i * 8))) 0#w

@[simp] theorem length_split (n : Nat) (v : BitVec w) : (split n v).length = n := by
  simp [split]

theorem getLsbD_mask (hw : 8 ≤ w) (k : Nat) : (0xFF#w).getLsbD k = decide (k < 8) := by
  have hmask : (0xFF#w).getLsbD k = (decide (k < w) && Nat.testBit (2 ^ 8 - 1) k) := by
    simp [BitVec.getLsbD_ofNat]
  rw [hmask, Nat.testBit_two_pow_sub_one]
  by_cases hk : k < 8
  · simp [hk, show k < w by omega]
  · simp [hk]

theorem getLsbD_split (hw : 8 ≤ w) {n i : Nat} (hi : i < n) (v : BitVec w) (k : Nat) (hk : k < 8) :
    ((split n v).getD i 0).toBitVec.getLsbD k = v.getLsbD (i * 8 + k) := by
  have hget : (split n v).getD i 0 = UInt8.ofBitVec (((v >>> (i * 8)) &&& 0xFF#w).setWidth 8) := by
    simp [split, List.getD, hi]
  rw [hget]
  simp [BitVec.getLsbD_ushiftRight, getLsbD_mask hw, hk]

/-- Bit `j` of the joined word comes from bit `j % 8` of byte `j / 8`. -/
theorem getLsbD_join (n : Nat) (bytes : List UInt8) (j : Nat) :
    (join n bytes : BitVec w).getLsbD j =
      (decide (j < w) && decide (j < n * 8) && (bytes.getD (j / 8) 0).toBitVec.getLsbD (j % 8)) := by
  induction n with
  | zero => simp [join]
  | succ n ih =>
    have hstep : (join (n + 1) bytes : BitVec w) =
        join n bytes ||| ((bytes.getD n 0).toBitVec.setWidth w <<< (n * 8)) := by
      simp [join, List.range_succ, List.foldl_append]
    rw [hstep, BitVec.getLsbD_or, ih, BitVec.getLsbD_shiftLeft, BitVec.getLsbD_setWidth]
    by_cases hj : j < n * 8
    · simp [hj, show j < (n + 1) * 8 by omega]
    · by_cases hj' : j < (n + 1) * 8
      · have hdiv : j / 8 = n := by omega
        have hmod : j % 8 = j - n * 8 := by omega
        by_cases hw : j < w
        · simp [hj, hj', hdiv, hmod, hw, show j - n * 8 < w by omega]
        · simp [hj, hw]
      · rw [BitVec.getLsbD_of_ge (bytes.getD n 0).toBitVec (j - n * 8) (by omega)]
        simp [hj, hj']

theorem join_append {n : Nat} {bytes : List UInt8} (h : bytes.length = n) (rest : List UInt8) :
    (join n (bytes ++ rest) : BitVec w) = join n bytes := by
  apply BitVec.eq_of_getLsbD_eq
  intro j _
  rw [getLsbD_join, getLsbD_join]
  by_cases hj : j < n * 8
  · have hlt : j / 8 < bytes.length := by omega
    simp [List.getElem?_append_left hlt]
  · simp [hj]

/-- The first byte is the low one, and the others stand above it. -/
theorem join_cons (n : Nat) (b : UInt8) (bytes : List UInt8) :
    (join (n + 1) (b :: bytes) : BitVec w) = b.toBitVec.setWidth w ^^^ (join n bytes <<< 8) := by
  apply BitVec.eq_of_getLsbD_eq
  intro j hj
  rw [getLsbD_join, BitVec.getLsbD_xor, BitVec.getLsbD_setWidth, BitVec.getLsbD_shiftLeft, getLsbD_join]
  by_cases low : j < 8
  · have hdiv : j / 8 = 0 := by omega
    have hmod : j % 8 = j := by omega
    simp [hj, low, hdiv, hmod]
    omega
  · have hdiv : j / 8 = (j - 8) / 8 + 1 := by omega
    have hmod : j % 8 = (j - 8) % 8 := by omega
    have hcount : j < (n + 1) * 8 ↔ j - 8 < n * 8 := by omega
    rw [BitVec.getLsbD_of_ge b.toBitVec j (by omega), hdiv, hmod]
    simp [hj, low, hcount, show j - 8 < w by omega]

/-- A word of at most `n` bytes survives being split and joined. -/
theorem join_split (hw : 8 ≤ w) {n : Nat} (hn : w ≤ n * 8) (v : BitVec w) : join n (split n v) = v := by
  apply BitVec.eq_of_getLsbD_eq
  intro j hj
  have hi : j / 8 < n := by omega
  rw [getLsbD_join, getLsbD_split hw hi v _ (Nat.mod_lt _ (by decide))]
  simp [hj, show j < n * 8 by omega, Nat.div_add_mod']

/-- Bytes that fit a word survive being joined and split. -/
theorem split_join (hw : 8 ≤ w) {n : Nat} (hn : n * 8 ≤ w) {bytes : List UInt8} (h : bytes.length = n) :
    split n (join n bytes : BitVec w) = bytes := by
  have bits {i : Nat} (hi : i < n) : (split n (join n bytes : BitVec w)).getD i 0 = bytes.getD i 0 := by
    apply UInt8.eq_of_toBitVec_eq
    apply BitVec.eq_of_getLsbD_eq
    intro k hk
    have hdiv : (i * 8 + k) / 8 = i := by omega
    have hmod : (i * 8 + k) % 8 = k := by omega
    rw [getLsbD_split hw hi _ k hk, getLsbD_join, hdiv, hmod]
    simp [show i * 8 + k < w by omega, show i * 8 + k < n * 8 by omega]
  refine List.ext_getElem ((length_split n _).trans h.symm) fun i hi hi' => ?_
  have same := bits (h ▸ hi')
  rwa [List.getD_eq_getElem _ _ hi, List.getD_eq_getElem _ _ hi'] at same

end LittleEndian
