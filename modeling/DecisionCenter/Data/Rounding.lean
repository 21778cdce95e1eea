import Mathlib.Algebra.Order.Monoid.Canonical.Defs
import Mathlib.Algebra.Order.Monoid.Unbundled.Basic
import Mathlib.Algebra.Order.Ring.Defs
import Mathlib.Order.Basic

/-!
# Rounded arithmetic

The numbers of a floating-point format are those that its rounding leaves as they are, and its
operations are the exact ones followed by that rounding. `Rounded K` is the type of these numbers
and has the operations; it is a subtype in all but name, so that a value between two numbers of the
format cannot be built.

Of the rounding three laws are used, and no more: it keeps the order, a number that has been rounded
stays as it is, and zero is a number of the format. What is shown here therefore holds of every
format and of every way to break ties, and of exact arithmetic too, where the rounding is the
identity.

The exact numbers are those of an ordered semiring without negative elements. Rounded addition is
monotone in both arguments, zero is neutral, and a sum is no less than its terms; this is stated as
instances, so that the lemmas about ordered addition apply. It is not associative: a running total
depends on the order in which its terms are added.

There is no largest number; overflow is left out.
-/

namespace DecisionCenter

/-- A rounding to the numbers of a format. -/
class Rounding (K : Type) [Zero K] [Preorder K] where
  round : K → K
  monotone_round : Monotone round
  round_round : ∀ x, round (round x) = round x
  round_zero : round 0 = 0

/-- The numbers of the format, among the exact ones. -/
structure Rounded (K : Type) [Zero K] [Preorder K] [Rounding K] where
  val : K
  round_val : Rounding.round val = val

namespace Rounded

/-! ### The numbers -/

section Numbers

variable {K : Type} [Zero K] [LinearOrder K] [Rounding K]

/-- A rounded number is its value. -/
theorem val_injective : Function.Injective (val : Rounded K → K) := by
  rintro ⟨x, hx⟩ ⟨y, hy⟩ h
  cases h
  rfl

/-- The number that stands for an exact one. -/
def of (x : K) : Rounded K := ⟨Rounding.round x, Rounding.round_round x⟩

@[simp] theorem val_of (x : K) : (of x).val = Rounding.round x := rfl

@[simp] theorem of_val (x : Rounded K) : of x.val = x := val_injective x.round_val

instance : LinearOrder (Rounded K) := LinearOrder.lift' val val_injective

/-- Rounded numbers are compared by their values. -/
theorem le_iff {x y : Rounded K} : x ≤ y ↔ x.val ≤ y.val := Iff.rfl

/-- Rounding respects the order. -/
theorem monotone_of : Monotone (of : K → Rounded K) := fun _ _ h => Rounding.monotone_round h

instance : Zero (Rounded K) := ⟨⟨0, Rounding.round_zero⟩⟩

@[simp] theorem val_zero : (0 : Rounded K).val = 0 := rfl

end Numbers

/-! ### The operations -/

section Operations

variable {K : Type} [Semiring K] [LinearOrder K] [Rounding K]

instance : NatCast (Rounded K) := ⟨fun n => of (n : K)⟩

instance : Mul (Rounded K) := ⟨fun x y => of (x.val * y.val)⟩

instance [Div K] : Div (Rounded K) := ⟨fun x y => of (x.val / y.val)⟩

instance : AddZeroClass (Rounded K) where
  add x y := of (x.val + y.val)
  zero_add x := (congrArg of (zero_add x.val)).trans (of_val x)
  add_zero x := (congrArg of (add_zero x.val)).trans (of_val x)

end Operations

/-! ### Addition and the order -/

section Order

variable {K : Type} [CommSemiring K] [LinearOrder K] [IsOrderedRing K] [Rounding K]

instance : AddLeftMono (Rounded K) where
  elim x _ _ h := monotone_of (add_le_add_right (le_iff.mp h) x.val)

instance : AddRightMono (Rounded K) where
  elim x _ _ h := monotone_of (add_le_add_left (le_iff.mp h) x.val)

end Order

/-- No rounded number is negative, if no number is. -/
theorem nonneg {K : Type} [CommSemiring K] [LinearOrder K] [CanonicallyOrderedAdd K] [Rounding K]
    (x : Rounded K) : 0 ≤ x := le_iff.mpr zero_le

end Rounded

end DecisionCenter
