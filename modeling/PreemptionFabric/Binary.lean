import Mathlib.Algebra.Group.Nat.Defs
import PreemptionFabric.Lib.LittleEndian

/-! Little-endian serialization with strict bounds checking (`util/binary.hpp`, `util/checked.hpp`). A
    writer is the bytes it has pushed; a reader is the bytes it has left. -/

namespace PreemptionFabric

def fitsU32 (n : Nat) : Bool := n ≤ 0xFFFFFFFF

theorem fitsU32_iff {n : Nat} : fitsU32 n = true ↔ n < 2 ^ 32 := by
  rw [fitsU32, decide_eq_true_eq]
  omega

/-- `std::length_error` with its text. -/
structure LengthError where
  what : String
deriving DecidableEq, Repr

namespace ByteWriter

def u8 (v : UInt8) : List UInt8 := [v]

def u32 (v : UInt32) : List UInt8 := LittleEndian.split 4 v.toBitVec

def u64 (v : UInt64) : List UInt8 := LittleEndian.split 8 v.toBitVec

/-- A boolean is written as `v ? 1 : 0`. -/
def bool (v : Bool) : List UInt8 := u8 (if v then 1 else 0)

/-- A string is written with its length in front. -/
def string (s : List UInt8) : Except LengthError (List UInt8) :=
  if !fitsU32 s.length then .error ⟨"string too long for u32 length"⟩ else .ok (u32 (UInt32.ofNat s.length) ++ s)

@[simp] theorem length_u8 (v : UInt8) : (u8 v).length = 1 := rfl
@[simp] theorem length_u32 (v : UInt32) : (u32 v).length = 4 := LittleEndian.length_split 4 _
@[simp] theorem length_u64 (v : UInt64) : (u64 v).length = 8 := LittleEndian.length_split 8 _
@[simp] theorem length_bool (v : Bool) : (bool v).length = 1 := rfl

theorem string_ok_iff {s bytes : List UInt8} :
    string s = .ok bytes ↔ s.length < 2 ^ 32 ∧ bytes = u32 (UInt32.ofNat s.length) ++ s := by
  rw [string, ← fitsU32_iff]
  cases fitsU32 s.length with
  | true => exact ⟨fun h => ⟨rfl, (Except.ok.inj h).symm⟩, fun h => congrArg Except.ok h.2.symm⟩
  | false =>
    refine ⟨fun h => ?_, fun h => ?_⟩
    · cases h
    · cases h.1

end ByteWriter

namespace ByteReader

def u8 (data : List UInt8) : Option (UInt8 × List UInt8) :=
  if data.length < 1 then none else some (data.getD 0 0, data.drop 1)

def u32 (data : List UInt8) : Option (UInt32 × List UInt8) :=
  if data.length < 4 then none else some (UInt32.ofBitVec (LittleEndian.join 4 data), data.drop 4)

def u64 (data : List UInt8) : Option (UInt64 × List UInt8) :=
  if data.length < 8 then none else some (UInt64.ofBitVec (LittleEndian.join 8 data), data.drop 8)

def string (data : List UInt8) : Option (List UInt8 × List UInt8) :=
  match u32 data with
  | none => none
  | some (n, rest) =>
    if !fitsU32 n.toNat then none
    else if n.toNat > rest.length then none
    else some (rest.take n.toNat, rest.drop n.toNat)

@[simp] theorem u8_u8 (v : UInt8) (rest : List UInt8) : u8 (ByteWriter.u8 v ++ rest) = some (v, rest) := by
  simp [u8, ByteWriter.u8]

@[simp] theorem u32_u32 (v : UInt32) (rest : List UInt8) : u32 (ByteWriter.u32 v ++ rest) = some (v, rest) := by
  have hlen : (ByteWriter.u32 v).length = 4 := ByteWriter.length_u32 v
  have hjoin : (LittleEndian.join 4 (ByteWriter.u32 v) : BitVec 32) = v.toBitVec :=
    LittleEndian.join_split (by decide) (by decide) v.toBitVec
  rw [u32, LittleEndian.join_append hlen, hjoin]
  simp [hlen]

@[simp] theorem u64_u64 (v : UInt64) (rest : List UInt8) : u64 (ByteWriter.u64 v ++ rest) = some (v, rest) := by
  have hlen : (ByteWriter.u64 v).length = 8 := ByteWriter.length_u64 v
  have hjoin : (LittleEndian.join 8 (ByteWriter.u64 v) : BitVec 64) = v.toBitVec :=
    LittleEndian.join_split (by decide) (by decide) v.toBitVec
  rw [u64, LittleEndian.join_append hlen, hjoin]
  simp [hlen]

theorem string_string {s bytes : List UInt8} (written : ByteWriter.string s = .ok bytes) (rest : List UInt8) :
    string (bytes ++ rest) = some (s, rest) := by
  obtain ⟨fits, same⟩ := ByteWriter.string_ok_iff.mp written
  have count : (UInt32.ofNat s.length).toNat = s.length := by
    rw [UInt32.toNat_ofNat']
    exact Nat.mod_eq_of_lt fits
  rw [same, List.append_assoc]
  simp [string, count, fitsU32_iff.mpr fits]

section
variable {data rest : List UInt8}

theorem eq_of_u8 {v : UInt8} (h : u8 data = some (v, rest)) : data = ByteWriter.u8 v ++ rest := by
  rw [u8] at h
  split at h
  · cases h
  next long =>
    cases h
    cases data with
    | nil => exact absurd Nat.zero_lt_one long
    | cons b data => rfl

/-- A reader that joins the bytes in front splits them off. -/
theorem split_take_append {w n : Nat} (hw : 8 ≤ w) (hn : n * 8 ≤ w) (long : ¬data.length < n) :
    LittleEndian.split n (LittleEndian.join n data : BitVec w) ++ data.drop n = data := by
  have front : (data.take n).length = n := by
    rw [List.length_take]
    omega
  have same := LittleEndian.join_append (w := w) front (data.drop n)
  rw [List.take_append_drop] at same
  rw [same, LittleEndian.split_join hw hn front, List.take_append_drop]

theorem eq_of_u32 {v : UInt32} (h : u32 data = some (v, rest)) : data = ByteWriter.u32 v ++ rest := by
  rw [u32] at h
  split at h
  · cases h
  next long =>
    cases h
    exact (split_take_append (w := 32) (by decide) (by decide) long).symm

/-- A word read at an offset stands between the offset and the next one. -/
theorem drop_of_u32 {v : UInt32} {k : Nat} (h : u32 (data.drop k) = some (v, rest)) :
    data.drop k = ByteWriter.u32 v ++ data.drop (k + 4) := by
  have word := eq_of_u32 h
  rw [← List.drop_drop, word, List.drop_left' (ByteWriter.length_u32 v)]

theorem eq_of_u64 {v : UInt64} (h : u64 data = some (v, rest)) : data = ByteWriter.u64 v ++ rest := by
  rw [u64] at h
  split at h
  · cases h
  next long =>
    cases h
    exact (split_take_append (w := 64) (by decide) (by decide) long).symm

end

end ByteReader

end PreemptionFabric
