import Mathlib.Data.List.Forall2

/-! Parsers over a byte cursor with a sticky flag. A field that does not fit leaves the cursor where it is,
    yields a default and clears the flag, and the parser runs on; errors that stop it are thrown. `Reads`
    says that a parser turns exactly the given bytes into a value, `Takes` that a parser which meets no missing
    field consumes so many bytes; both compose along `bind` and counted loops. `Spells` says which bytes a success
    has consumed, and `Rewrites` compares the bytes consumed by a success that meets no missing field, one by one, with
    those that its value is written as. -/

/-- What is left to read, and whether every field so far was there. -/
structure Cursor where
  rest : List UInt8
  ok : Bool := true
deriving DecidableEq, Repr

abbrev Parser (ε α : Type) := ExceptT ε (StateM Cursor) α

namespace Parser
variable {ε α β : Type}

def runFrom (p : Parser ε α) (c : Cursor) : Except ε α × Cursor := p c

/-- A field read by `read`; where it is not there, `default` is returned and the flag cleared. -/
def sticky (read : List UInt8 → Option (α × List UInt8)) (default : α) : Parser ε α := fun c =>
  match read c.rest with
  | some (v, rest) => (.ok v, { c with rest })
  | none => (.ok default, { c with ok := false })

/-- A field read by `read`; where it is not there, the parser stops. -/
def required (read : List UInt8 → Option (α × List UInt8)) (e : ε) : Parser ε α := fun c =>
  match read c.rest with
  | some (v, rest) => (.ok v, { c with rest })
  | none => (.error e, c)

def isOk : Parser ε Bool := fun c => (.ok c.ok, c)

def atEnd : Parser ε Bool := fun c => (.ok c.rest.isEmpty, c)

/-- A loop of at most `n` elements that stops when the flag is cleared. -/
def many (p : Parser ε α) : Nat → Parser ε (List α)
  | 0 => pure []
  | n + 1 => do
    if ← isOk then
      let x ← p
      let xs ← many p n
      return x :: xs
    else
      return []

/-- `p` reads exactly `bytes`, whatever follows, and returns `x`. -/
def Reads (p : Parser ε α) (bytes : List UInt8) (x : α) : Prop :=
  ∀ rest, runFrom p ⟨bytes ++ rest, true⟩ = (.ok x, ⟨rest, true⟩)

theorem runFrom_bind (p : Parser ε α) (f : α → Parser ε β) (c : Cursor) :
    runFrom (p >>= f) c =
      match runFrom p c with
      | (.ok x, c') => runFrom (f x) c'
      | (.error e, c') => (.error e, c') := by
  show (ExceptT.bind p f : Parser ε β) c = _
  simp only [ExceptT.bind, ExceptT.mk, bind, StateT.bind, runFrom]
  cases p c with
  | mk r c' => cases r <;> rfl

theorem Reads.pure (x : α) : Reads (pure x : Parser ε α) [] x := fun _ => rfl

theorem Reads.sticky {read : List UInt8 → Option (α × List UInt8)} {bytes : List UInt8} {x d : α}
    (h : ∀ rest, read (bytes ++ rest) = some (x, rest)) : Reads (sticky read d : Parser ε α) bytes x := by
  intro rest
  simp [Parser.sticky, runFrom, h]

theorem Reads.required {read : List UInt8 → Option (α × List UInt8)} {bytes : List UInt8} {x : α} {e : ε}
    (h : ∀ rest, read (bytes ++ rest) = some (x, rest)) : Reads (required read e : Parser ε α) bytes x := by
  intro rest
  simp [Parser.required, runFrom, h]

theorem Reads.bind {p : Parser ε α} {f : α → Parser ε β} {b₁ b₂ : List UInt8} {x : α} {y : β}
    (hp : Reads p b₁ x) (hf : Reads (f x) b₂ y) : Reads (p >>= f) (b₁ ++ b₂) y := by
  intro rest
  rw [runFrom_bind, List.append_assoc, hp (b₂ ++ rest)]
  exact hf rest

theorem Reads.last {p : Parser ε α} {f : α → Parser ε β} {b : List UInt8} {x : α} {y : β} (hp : Reads p b x)
    (hf : Reads (f x) [] y) : Reads (p >>= f) b y := by
  have h := hp.bind hf
  rwa [List.append_nil] at h

theorem Reads.after {p : Parser ε α} {f : α → Parser ε β} {b : List UInt8} {x : α} {y : β} (hp : Reads p [] x)
    (hf : Reads (f x) b y) : Reads (p >>= f) b y :=
  hp.bind hf

theorem Reads.isOk {f : Bool → Parser ε β} {b : List UInt8} {y : β} (hf : Reads (f true) b y) :
    Reads (isOk >>= f) b y := by
  intro rest
  rw [runFrom_bind]
  exact hf rest

/-- A counted loop reads the concatenation of its elements. -/
theorem Reads.many {p : Parser ε α} {write : α → List UInt8} {xs : List α}
    (h : ∀ x ∈ xs, Reads p (write x) x) : Reads (many p xs.length) (xs.flatMap write) xs := by
  induction xs with
  | nil => exact Reads.pure []
  | cons x xs ih =>
    have hx : Reads p (write x) x := h x List.mem_cons_self
    have hxs := ih fun y hy => h y (List.mem_cons_of_mem _ hy)
    have hrest : Reads (do let ys ← Parser.many p xs.length; return x :: ys) (xs.flatMap write) (x :: xs) := by
      simpa using hxs.bind (f := fun ys => Pure.pure (x :: ys)) (Reads.pure (x :: xs))
    exact (hx.bind hrest).isOk

/-! ### What a success shows -/

theorem runFrom_bind_ok {p : Parser ε α} {f : α → Parser ε β} {c c' : Cursor} {y : β}
    (h : runFrom (p >>= f) c = (.ok y, c')) :
    ∃ x c₁, runFrom p c = (.ok x, c₁) ∧ runFrom (f x) c₁ = (.ok y, c') := by
  rw [runFrom_bind] at h
  split at h
  next x c₁ first => exact ⟨x, c₁, first, h⟩
  next => cases h

theorem runFrom_required_ok {read : List UInt8 → Option (α × List UInt8)} {e : ε} {c c' : Cursor} {x : α}
    (ran : runFrom (required read e) c = (.ok x, c')) : read c.rest = some (x, c'.rest) := by
  rw [runFrom, required] at ran
  split at ran
  next v rest found =>
    cases ran
    exact found
  next => cases ran

/-- Where `p` succeeds with every field there, they were all there before it and it has consumed `k` bytes. -/
def Takes (p : Parser ε α) (k : Nat) : Prop :=
  ∀ {c c' x}, runFrom p c = (.ok x, c') → c'.ok = true → c.ok = true ∧ c.rest.length = k + c'.rest.length

theorem Takes.pure (x : α) : Takes (pure x : Parser ε α) 0 := by
  intro c c' y ran present
  cases ran
  exact ⟨present, (Nat.zero_add _).symm⟩

theorem Takes.throw (e : ε) (k : Nat) : Takes (throw e : Parser ε α) k := by
  intro c c' y ran
  cases ran

theorem Takes.sticky {read : List UInt8 → Option (α × List UInt8)} {d : α} {k : Nat}
    (h : ∀ {data x rest}, read data = some (x, rest) → data.length = k + rest.length) :
    Takes (sticky read d : Parser ε α) k := by
  intro c c' x ran present
  rw [runFrom, Parser.sticky] at ran
  split at ran
  next v rest found =>
    cases ran
    exact ⟨present, h found⟩
  next =>
    cases ran
    cases present

theorem Takes.bind {p : Parser ε α} {f : α → Parser ε β} {k n : Nat} (hp : Takes p k) (le : k ≤ n)
    (hf : ∀ x, Takes (f x) (n - k)) : Takes (p >>= f) n := by
  intro c c' y ran present
  obtain ⟨x, c₁, first, second⟩ := runFrom_bind_ok ran
  obtain ⟨present₁, length₁⟩ := hf x second present
  obtain ⟨present₀, length₀⟩ := hp first present₁
  refine ⟨present₀, ?_⟩
  omega

/-- A counted loop consumes its elements. -/
theorem Takes.many {p : Parser ε α} {k : Nat} (hp : Takes p k) (n : Nat) {c c' : Cursor} {xs : List α}
    (ran : runFrom (many p n) c = (.ok xs, c')) (present : c'.ok = true) :
    c.ok = true ∧ c.rest.length = xs.length * k + c'.rest.length := by
  induction n generalizing c xs with
  | zero =>
    cases ran
    exact ⟨present, by simp⟩
  | succ n ih =>
    obtain ⟨flag, c₁, asked, rest⟩ := runFrom_bind_ok ran
    cases asked
    split at rest
    next clear =>
      obtain ⟨x, c₂, first, later⟩ := runFrom_bind_ok rest
      obtain ⟨ys, c₃, looped, done⟩ := runFrom_bind_ok later
      cases done
      obtain ⟨present₂, length₂⟩ := ih looped
      obtain ⟨_, length₁⟩ := hp first present₂
      refine ⟨clear, ?_⟩
      rw [List.length_cons, Nat.succ_mul]
      omega
    next stopped =>
      cases rest
      exact absurd present stopped

/-! ### What the bytes of a success are -/

/-- Where `p` succeeds, the bytes that it has consumed are related to the value by `Q`. -/
def Spells (p : Parser ε α) (Q : α → List UInt8 → Prop) : Prop :=
  ∀ ⦃c c' x⦄, runFrom p c = (.ok x, c') → ∃ bytes, c.rest = bytes ++ c'.rest ∧ Q x bytes

theorem Spells.pure {Q : α → List UInt8 → Prop} {x : α} (h : Q x []) : Spells (pure x : Parser ε α) Q := by
  intro c c' y ran
  cases ran
  exact ⟨[], rfl, h⟩

theorem Spells.required {read : List UInt8 → Option (α × List UInt8)} {e : ε} {Q : α → List UInt8 → Prop}
    (h : ∀ {data x rest}, read data = some (x, rest) → ∃ bytes, data = bytes ++ rest ∧ Q x bytes) :
    Spells (required read e : Parser ε α) Q := by
  intro c c' x ran
  exact h (runFrom_required_ok ran)

theorem Spells.mono {p : Parser ε α} {Q Q' : α → List UInt8 → Prop} (hp : Spells p Q)
    (h : ∀ {x bytes}, Q x bytes → Q' x bytes) : Spells p Q' := by
  intro c c' x ran
  obtain ⟨bytes, consumed, spelled⟩ := hp ran
  exact ⟨bytes, consumed, h spelled⟩

theorem Spells.bind {p : Parser ε α} {f : α → Parser ε β} {R : α → List UInt8 → Prop} {Q : β → List UInt8 → Prop}
    (hp : Spells p R) (hf : ∀ x front, R x front → Spells (f x) fun y bytes => Q y (front ++ bytes)) :
    Spells (p >>= f) Q := by
  intro c c' y ran
  obtain ⟨x, c₁, first, second⟩ := runFrom_bind_ok ran
  obtain ⟨front, consumed, spelled⟩ := hp first
  obtain ⟨bytes, consumed₁, spelled₁⟩ := hf x front spelled second
  refine ⟨front ++ bytes, ?_, spelled₁⟩
  rw [consumed, consumed₁, List.append_assoc]

/-- A value that has one spelling only. -/
theorem Spells.next {p : Parser ε α} {f : α → Parser ε β} {write : α → List UInt8} {Q : β → List UInt8 → Prop}
    (hp : Spells p fun x bytes => bytes = write x) (hf : ∀ x, Spells (f x) fun y bytes => Q y (write x ++ bytes)) :
    Spells (p >>= f) Q := by
  refine hp.bind fun x front spelled => ?_
  rw [spelled]
  exact hf x

/-! ### What the bytes of a success with every field there are -/

section
variable {R : UInt8 → UInt8 → Prop}

/-- Where `p` succeeds with every field there, they were all there before it, and the bytes that it has consumed are
    related one by one to bytes that `Q` relates to the value. -/
def Rewrites (R : UInt8 → UInt8 → Prop) (p : Parser ε α) (Q : α → List UInt8 → Prop) : Prop :=
  ∀ ⦃c c' x⦄, runFrom p c = (.ok x, c') → c'.ok = true →
    c.ok = true ∧ ∃ bytes written, c.rest = bytes ++ c'.rest ∧ List.Forall₂ R bytes written ∧ Q x written

theorem Rewrites.pure {Q : α → List UInt8 → Prop} {x : α} (h : Q x []) : Rewrites R (pure x : Parser ε α) Q := by
  intro c c' y ran present
  cases ran
  exact ⟨present, [], [], rfl, .nil, h⟩

theorem Rewrites.throw (e : ε) (Q : α → List UInt8 → Prop) : Rewrites R (throw e : Parser ε α) Q := by
  intro c c' y ran
  cases ran

theorem Rewrites.sticky {read : List UInt8 → Option (α × List UInt8)} {d : α} {Q : α → List UInt8 → Prop}
    (h : ∀ {data x rest}, read data = some (x, rest) →
      ∃ bytes written, data = bytes ++ rest ∧ List.Forall₂ R bytes written ∧ Q x written) :
    Rewrites R (sticky read d : Parser ε α) Q := by
  intro c c' x ran present
  rw [runFrom, Parser.sticky] at ran
  split at ran
  next v rest found =>
    cases ran
    exact ⟨present, h found⟩
  next =>
    cases ran
    cases present

/-- A value that is written in one way only. -/
theorem Rewrites.next {p : Parser ε α} {f : α → Parser ε β} {write : α → List UInt8} {Q : β → List UInt8 → Prop}
    (hp : Rewrites R p fun x written => written = write x)
    (hf : ∀ x, Rewrites R (f x) fun y written => Q y (write x ++ written)) : Rewrites R (p >>= f) Q := by
  intro c c' y ran present
  obtain ⟨x, c₁, first, second⟩ := runFrom_bind_ok ran
  -- That every field of `p` was there follows from what comes after it.
  obtain ⟨present₁, bytes, written, consumed, related, shown⟩ := hf x second present
  obtain ⟨present₀, bytes₀, _, consumed₀, related₀, rfl⟩ := hp first present₁
  refine ⟨present₀, bytes₀ ++ bytes, write x ++ written, ?_, List.rel_append related₀ related, shown⟩
  rw [consumed₀, consumed, List.append_assoc]

/-- A counted loop that is not stopped consumes its elements one after the other. -/
theorem Rewrites.many {p : Parser ε α} {write : α → List UInt8}
    (hp : Rewrites R p fun x written => written = write x) (n : Nat) :
    Rewrites R (many p n) fun xs written => xs.length = n ∧ written = xs.flatMap write := by
  induction n with
  | zero => exact Rewrites.pure ⟨rfl, rfl⟩
  | succ n ih =>
    intro c c' xs ran present
    obtain ⟨flag, c₁, asked, rest⟩ := runFrom_bind_ok ran
    cases asked
    split at rest
    next clear =>
      obtain ⟨x, c₂, first, later⟩ := runFrom_bind_ok rest
      obtain ⟨ys, c₃, looped, done⟩ := runFrom_bind_ok later
      cases done
      obtain ⟨present₂, bytes, _, consumed, related, length, rfl⟩ := ih looped present
      obtain ⟨_, bytes₀, _, consumed₀, related₀, rfl⟩ := hp first present₂
      refine ⟨clear, bytes₀ ++ bytes, _, ?_, List.rel_append related₀ related, congrArg (· + 1) length, rfl⟩
      rw [consumed₀, consumed, List.append_assoc]
    next stopped =>
      cases rest
      exact absurd present stopped

end

end Parser
