import Mathlib.Data.List.Basic

/-! Items found one after the other at the front of a stream. A scanner needs more input, finds an item or finds
    the stream malformed, and what it has found more input does not change; so the items of a stream do not depend
    on the pieces in which it arrives. `parse` reads a whole stream, `resume` goes on from a partial one. -/

/-- Why there is no item at the front of a stream: more input is needed, or none can help. -/
inductive Halt
  | incomplete | malformed
deriving DecidableEq, Repr

/-- A scanner yields the item at the front of a stream, with its size. -/
structure Scanner (β μ : Type) where
  scan : List β → Except Halt (μ × Nat)
  bounded : ∀ {xs m n}, scan xs = .ok (m, n) → 0 < n ∧ n ≤ xs.length
  item_append : ∀ {xs m n}, scan xs = .ok (m, n) → ∀ ys, scan (xs ++ ys) = .ok (m, n)
  malformed_append : ∀ {xs}, scan xs = .error .malformed → ∀ ys, scan (xs ++ ys) = .error .malformed

namespace Scanner
variable {β μ : Type} (S : Scanner β μ) {xs : List β} {m : μ} {n : Nat}

/-- The items of a stream and what is left of it, which is nothing when the stream is malformed. -/
def parse (xs : List β) : List μ × Option (List β) :=
  match _found : S.scan xs with
  | .ok (m, n) => (m :: (parse (xs.drop n)).1, (parse (xs.drop n)).2)
  | .error .incomplete => ([], some xs)
  | .error .malformed => ([], none)
termination_by xs.length
decreasing_by
  all_goals
    have := S.bounded _found
    rw [List.length_drop]
    omega

theorem parse_item (found : S.scan xs = .ok (m, n)) :
    S.parse xs = (m :: (S.parse (xs.drop n)).1, (S.parse (xs.drop n)).2) := by
  rw [parse]
  split <;> simp_all

theorem parse_incomplete (needs : S.scan xs = .error .incomplete) : S.parse xs = ([], some xs) := by
  rw [parse]
  split <;> simp_all

theorem parse_malformed (bad : S.scan xs = .error .malformed) : S.parse xs = ([], none) := by
  rw [parse]
  split <;> simp_all

/-- The rest of a stream of which `rest` is left, when `ys` follows. -/
def resume (rest : Option (List β)) (ys : List β) : List μ × Option (List β) :=
  match rest with
  | some xs => S.parse (xs ++ ys)
  | none => ([], none)

theorem resume_append (xs ys zs : List β) : S.resume (some (xs ++ ys)) zs = S.resume (some xs) (ys ++ zs) :=
  congrArg S.parse (List.append_assoc xs ys zs)

/-- An item that has been found is the first one, whatever follows. -/
theorem resume_item (found : S.scan xs = .ok (m, n)) (ys : List β) :
    S.resume (some xs) ys =
      (m :: (S.resume (some (xs.drop n)) ys).1, (S.resume (some (xs.drop n)) ys).2) := by
  have later : (xs ++ ys).drop n = xs.drop n ++ ys := List.drop_append_of_le_length (S.bounded found).2
  simp only [resume]
  rw [S.parse_item (S.item_append found ys), later]

/-- A stream that has been found malformed stays so, whatever follows. -/
theorem resume_malformed (bad : S.scan xs = .error .malformed) (ys : List β) :
    S.resume (some xs) ys = S.resume none ys :=
  S.parse_malformed (S.malformed_append bad ys)

/-- A stream can be read up to any point, and then from what is left there. -/
theorem parse_append (xs ys : List β) :
    S.parse (xs ++ ys) =
      ((S.parse xs).1 ++ (S.resume (S.parse xs).2 ys).1, (S.resume (S.parse xs).2 ys).2) := by
  induction xs using parse.induct S with
  | case1 xs m n found ih =>
    have later : (xs ++ ys).drop n = xs.drop n ++ ys := List.drop_append_of_le_length (S.bounded found).2
    rw [S.parse_item found, S.parse_item (S.item_append found ys), later, ih]
    rfl
  | case2 xs needs =>
    rw [S.parse_incomplete needs]
    rfl
  | case3 xs bad =>
    rw [S.parse_malformed bad, S.parse_malformed (S.malformed_append bad ys)]
    rfl

/-- A part of a stream that ends within the first item is incomplete. -/
theorem scan_short {ys : List β} (found : S.scan (xs ++ ys) = .ok (m, n)) (short : xs.length < n) :
    S.scan xs = .error .incomplete := by
  match scanned : S.scan xs with
  | .error .incomplete => rfl
  | .error .malformed =>
    rw [S.malformed_append scanned ys] at found
    cases found
  | .ok (m', n') =>
    rw [S.item_append scanned ys] at found
    cases found
    exact absurd (S.bounded scanned).2 (Nat.not_le.mpr short)

end Scanner
