import Mathlib.Algebra.Group.Nat.Defs
import Mathlib.Data.List.Nodup

/-! Enumerations numbered by the order of their enumerators, as a C enum without explicit gaps is.
    `code` is the number a value is stored under, `ofCode` reads it back and rejects what is out of
    range. -/

/-- A type whose values are listed once each, in the order of their numbers. -/
class Enumeration (α : Type) where
  all : List α
  nodup : all.Nodup
  mem_all : ∀ a, a ∈ all
  length_lt : all.length < 2 ^ 32

namespace Enumeration
variable {α : Type} [DecidableEq α] [Enumeration α]

def code (a : α) : UInt32 := UInt32.ofNat ((all (α := α)).idxOf a)

def ofCode (e : UInt32) : Option α := all[e.toNat]?

theorem idxOf_lt (a : α) : (all (α := α)).idxOf a < (all (α := α)).length :=
  List.idxOf_lt_length_iff.mpr (mem_all a)

theorem code_toNat (a : α) : (code a).toNat = (all (α := α)).idxOf a := by
  have hlt := idxOf_lt a
  have hlen := length_lt (α := α)
  simp only [code, UInt32.toNat_ofNat']
  exact Nat.mod_eq_of_lt (by omega)

@[simp] theorem ofCode_code (a : α) : ofCode (code a) = some a := by
  rw [ofCode, code_toNat, List.getElem?_eq_getElem (idxOf_lt a), List.getElem_idxOf]

theorem code_of_ofCode {e : UInt32} {a : α} (found : ofCode e = some a) : code a = e := by
  rw [ofCode] at found
  obtain ⟨bound, rfl⟩ := List.getElem?_eq_some_iff.mp found
  rw [code, List.Nodup.idxOf_getElem nodup, UInt32.ofNat_toNat]

end Enumeration
