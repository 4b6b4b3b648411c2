import InView.Binary64.Rounding

/-!
# Binary64 numbers

The numbers that boxes and viewports are measured in: IEEE 754 binary64, with one `nan`, two
infinities, two zeros, and the finite numbers as signed magnitudes.  Every operation is the exact
one followed by one rounding, to nearest with ties to even, so its meaning can be read off
`rounded` without a word about bits.

Comparison goes through `level`, the number in units of `2 ^ -1074` with the infinities at the
limits of the format.  Away from `nan` the order of numbers is the order of their levels, and
both zeros have level `0`; `nan` is neither below, above nor equal to anything.
-/

namespace InView

/-- An IEEE 754 binary64 number. -/
inductive Binary64 where
  | nan
  | infinite (negative : Bool)
  | finite (negative : Bool) (units : Nat) (fits : Binary64.Fits units)
  deriving DecidableEq

namespace Binary64

/-- Zero with a sign of its own. -/
def zero (negative : Bool) : Binary64 := .finite negative 0 fits_zero

instance : Zero Binary64 := ⟨zero false⟩

instance : Inhabited Binary64 := ⟨0⟩

/-- Neither infinite nor `nan`. -/
def isFinite : Binary64 → Bool
  | .finite .. => true
  | _ => false

/-! ## Order -/

/-- A magnitude under a sign, as an integer. -/
def signed (negative : Bool) (units : Nat) : Int :=
  if negative then -units else units

/-- The number in units; an infinity stands at the limit on its side. -/
def level : Binary64 → Int
  | .nan => 0
  | .infinite negative => signed negative limit
  | .finite negative units _ => signed negative units

instance : LT Binary64 := ⟨fun x y => x ≠ .nan ∧ y ≠ .nan ∧ x.level < y.level⟩

instance : LE Binary64 := ⟨fun x y => x ≠ .nan ∧ y ≠ .nan ∧ x.level ≤ y.level⟩

instance (x y : Binary64) : Decidable (x < y) :=
  inferInstanceAs (Decidable (x ≠ .nan ∧ y ≠ .nan ∧ x.level < y.level))

instance (x y : Binary64) : Decidable (x ≤ y) :=
  inferInstanceAs (Decidable (x ≠ .nan ∧ y ≠ .nan ∧ x.level ≤ y.level))

/-- Numerical equality: the zeros are equal, and `nan` equals nothing. -/
instance : BEq Binary64 := ⟨fun x y => decide (x ≠ .nan ∧ y ≠ .nan ∧ x.level = y.level)⟩

theorem lt_iff {x y : Binary64} : x < y ↔ x ≠ .nan ∧ y ≠ .nan ∧ x.level < y.level := Iff.rfl

theorem le_iff {x y : Binary64} : x ≤ y ↔ x ≠ .nan ∧ y ≠ .nan ∧ x.level ≤ y.level := Iff.rfl

theorem beq_iff {x y : Binary64} : x == y ↔ x ≠ .nan ∧ y ≠ .nan ∧ x.level = y.level :=
  decide_eq_true_iff

/-! ## Rounding -/

/-- The number nearest to `num / den` units under a sign; infinite from the middle between the
greatest magnitude and the limit on. -/
def rounded (negative : Bool) (num den : Nat) : Binary64 :=
  if h : roundUnits num den < limit then
    .finite negative (roundUnits num den) (fits_roundUnits h)
  else
    .infinite negative

/-- A finite number is its own rounding, sign included. -/
theorem rounded_of_fits {n : Nat} (negative : Bool) (h : Fits n) :
    rounded negative n 1 = .finite negative n h := by
  have : roundUnits n 1 < limit := by
    rw [roundUnits_of_fits h]
    exact h.2
  simp [rounded, roundUnits_of_fits h, h.2]

/-- The number nearest to a natural number. -/
def ofNat (n : Nat) : Binary64 := rounded false (n * one) 1

/-! ## Arithmetic -/

/-- The same magnitude on the other side of zero. -/
def neg : Binary64 → Binary64
  | .nan => .nan
  | .infinite negative => .infinite !negative
  | .finite negative units fits => .finite (!negative) units fits

/-- The rounded sum.  Opposite infinities have none; a sum of zero is `-0.0` only of two negative
zeros. -/
def add : Binary64 → Binary64 → Binary64
  | .nan, _ => .nan
  | _, .nan => .nan
  | .infinite s, .infinite t => if s = t then .infinite s else .nan
  | .infinite s, .finite .. => .infinite s
  | .finite .., .infinite t => .infinite t
  | .finite s m _, .finite t n _ =>
    let sum := signed s m + signed t n
    if sum = 0 then zero (s && t) else rounded (sum < 0) sum.natAbs 1

/-- The rounded product.  Zero times an infinity has none. -/
def mul : Binary64 → Binary64 → Binary64
  | .nan, _ => .nan
  | _, .nan => .nan
  | .infinite s, .infinite t => .infinite (s != t)
  | .infinite s, .finite t n _ => if n = 0 then .nan else .infinite (s != t)
  | .finite s m _, .infinite t => if m = 0 then .nan else .infinite (s != t)
  | .finite s m _, .finite t n _ => rounded (s != t) (m * n) one

/-- The rounded quotient.  Zero by zero and an infinity by an infinity have none; anything else
by zero is infinite. -/
def div : Binary64 → Binary64 → Binary64
  | .nan, _ => .nan
  | _, .nan => .nan
  | .infinite _, .infinite _ => .nan
  | .infinite s, .finite t _ _ => .infinite (s != t)
  | .finite s _ _, .infinite t => zero (s != t)
  | .finite s m _, .finite t n _ =>
    if n = 0 then
      if m = 0 then .nan else .infinite (s != t)
    else
      rounded (s != t) (m * one) n

instance : Neg Binary64 := ⟨neg⟩

instance : Add Binary64 := ⟨add⟩

/-- Subtraction adds the opposite. -/
instance : Sub Binary64 := ⟨fun x y => x + -y⟩

instance : Mul Binary64 := ⟨mul⟩

instance : Div Binary64 := ⟨div⟩

end Binary64

end InView
