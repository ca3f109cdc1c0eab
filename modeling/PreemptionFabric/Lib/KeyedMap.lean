import Mathlib.Data.List.Basic
import Std.Data.ExtTreeMap

/-! Ordered maps that are filled by a loop of insertions, and maps whose values know their own keys. What holds
    of every insertion holds of every entry; and a map whose values know their keys is rebuilt, value by value
    and in order, from the list of its values. -/

namespace KeyedMap
open Std

variable {α β γ δ : Type} {cmp : α → α → Ordering} [TransCmp cmp] [LawfulEqCmp cmp]

/-- Every entry of the map satisfies `Q`. -/
def All (Q : α → β → Prop) (m : ExtTreeMap α β cmp) : Prop := ∀ k v, m[k]? = some v → Q k v

section
variable {Q : α → β → Prop} {m : ExtTreeMap α β cmp}

omit [LawfulEqCmp cmp] in
theorem All.empty : All Q (∅ : ExtTreeMap α β cmp) := by
  intro k v found
  simp at found

theorem All.insert (h : All Q m) {k : α} {v : β} (new : Q k v) : All Q (m.insert k v) := by
  intro k' v' found
  rw [ExtTreeMap.getElem?_insert] at found
  split at found
  next same =>
    cases LawfulEqCmp.eq_of_compare same
    cases found
    exact new
  next => exact h k' v' found

theorem All.foldl_insert (h : All Q m) {key : γ → α} {value : γ → β} {xs : List γ}
    (new : ∀ x ∈ xs, Q (key x) (value x)) : All Q (xs.foldl (fun m x => m.insert (key x) (value x)) m) := by
  induction xs generalizing m with
  | nil => exact h
  | cons x xs ih =>
    exact ih (h.insert (new x List.mem_cons_self)) fun y member => new y (List.mem_cons_of_mem x member)

end

/-- A map with one key at most has one entry at most. -/
theorem length_toList_le_one {m : ExtTreeMap α β cmp} {key : α} (only : All (fun k _ => k = key) m) :
    m.toList.length ≤ 1 := by
  have keys : ∀ p ∈ m.toList, p.1 = key := fun p member =>
    only p.1 p.2 (ExtTreeMap.mem_toList_iff_getElem?_eq_some.mp member)
  have apart := m.distinct_keys_toList
  generalize m.toList = entries at keys apart
  match entries with
  | [] => exact Nat.zero_le 1
  | [p] => exact Nat.le_refl 1
  | p :: q :: rest =>
    have distinct := List.rel_of_pairwise_cons apart List.mem_cons_self
    rw [keys p List.mem_cons_self, keys q (List.mem_cons_of_mem p List.mem_cons_self)] at distinct
    exact absurd ReflCmp.compare_self distinct

/-- The entries of a map, with their values changed, make up the changed map. -/
theorem ofList_toList_map (m : ExtTreeMap α β cmp) (g : β → γ) :
    ExtTreeMap.ofList (m.toList.map fun p => (p.1, g p.2)) cmp = m.map fun _ v => g v := by
  refine ExtTreeMap.ext_getElem? fun k => ?_
  rw [ExtTreeMap.getElem?_map]
  cases found : m[k]? with
  | some v =>
    have member := ExtTreeMap.mem_toList_iff_getElem?_eq_some.mpr found
    refine ExtTreeMap.getElem?_ofList_of_mem ReflCmp.compare_self ?_ (List.mem_map.mpr ⟨(k, v), member, rfl⟩)
    exact List.pairwise_map.mpr m.distinct_keys_toList
  | none =>
    have old : All (fun k _ => ∃ v, m[k]? = some v) (ExtTreeMap.ofList (m.toList.map fun p => (p.1, g p.2)) cmp) := by
      rw [ExtTreeMap.ofList_eq_foldl]
      refine All.empty.foldl_insert fun x member => ?_
      obtain ⟨p, listed, rfl⟩ := List.mem_map.mp member
      exact ⟨p.2, ExtTreeMap.mem_toList_iff_getElem?_eq_some.mp listed⟩
    cases extra : (ExtTreeMap.ofList (m.toList.map fun p => (p.1, g p.2)) cmp)[k]? with
    | none => rfl
    | some w =>
      obtain ⟨v, present⟩ := old k w extra
      rw [found] at present
      cases present

/-- A map is rebuilt from the list of its values, seen through `f`, when these know their keys. -/
theorem foldl_insert_toList (m : ExtTreeMap α β cmp) (f : β → γ) (key : γ → α) (value : γ → δ)
    (keyed : All (fun k v => key (f v) = k) m) :
    (m.toList.map fun p => f p.2).foldl (fun acc x => acc.insert (key x) (value x)) ∅ =
      m.map fun _ v => value (f v) := by
  rw [← ofList_toList_map, ExtTreeMap.ofList_eq_foldl, List.foldl_map, List.foldl_map]
  refine List.foldl_ext _ _ _ fun acc p member => ?_
  have found := ExtTreeMap.mem_toList_iff_getElem?_eq_some.mp member
  rw [keyed p.1 p.2 found]

/-- A loop of insertions under distinct keys makes up a map whose entries are those insertions. -/
theorem toList_foldl_insert_perm {xs : List γ} {key : γ → α} {value : γ → β} (distinct : (xs.map key).Nodup) :
    (xs.foldl (fun m x => m.insert (key x) (value x)) (∅ : ExtTreeMap α β cmp)).toList.Perm
      (xs.map fun x => (key x, value x)) := by
  have pairs : xs.foldl (fun m x => m.insert (key x) (value x)) (∅ : ExtTreeMap α β cmp) =
      ExtTreeMap.ofList (xs.map fun x => (key x, value x)) cmp := by
    rw [ExtTreeMap.ofList_eq_foldl, List.foldl_map]
  have apart : (xs.map key).Pairwise fun a b => ¬cmp a b = .eq :=
    distinct.imp fun different same => different (LawfulEqCmp.eq_of_compare same)
  have keys : (xs.map fun x => (key x, value x)).Pairwise fun a b => ¬cmp a.1 b.1 = .eq :=
    List.pairwise_map.mpr (List.pairwise_map.mp apart)
  have nodup {l : List (α × β)} (apart : l.Pairwise fun a b => ¬cmp a.1 b.1 = .eq) : l.Nodup := by
    refine apart.imp ?_
    rintro a b different rfl
    exact different ReflCmp.compare_self
  refine (List.perm_ext_iff_of_nodup (nodup ExtTreeMap.distinct_keys_toList) (nodup keys)).mpr fun p => ?_
  rw [ExtTreeMap.mem_toList_iff_getElem?_eq_some]
  constructor
  · have inserted : All (fun k v => (k, v) ∈ xs.map fun x => (key x, value x))
        (xs.foldl (fun m x => m.insert (key x) (value x)) (∅ : ExtTreeMap α β cmp)) :=
      All.empty.foldl_insert fun x member => List.mem_map.mpr ⟨x, member, rfl⟩
    exact inserted p.1 p.2
  · intro member
    rw [pairs]
    exact ExtTreeMap.getElem?_ofList_of_mem ReflCmp.compare_self keys member

end KeyedMap
