import DecisionCenter.Data.Rounding
import Mathlib.Data.Int.Log
import Mathlib.Data.NNRat.Floor
import Mathlib.Tactic.Linarith
import Mathlib.Tactic.Positivity

/-!
# Binary floating-point formats

A binary format has significands of a number of bits and a least exponent. The nonnegative numbers
of the format are `n * 2 ^ e` with `n` of at most so many bits and `e` no less than that exponent,
and a number is rounded to a multiple of the unit in its last place, to the nearer one, and to the
even one of two that are equally near.

That the rounding is monotone has one case with an argument: two numbers with different units in the
last place have a power of two between them, and a power of two is a multiple of either unit. That
rounding twice is rounding once is the fact that every `n * 2 ^ e` is rounded to itself, also the
one whose `n` needs one bit more because it was rounded up to a power of two.

The format has no greatest exponent. `binary64` is the format of double precision.
-/

namespace DecisionCenter

/-! ### The nearest natural number -/

/-- The nearest natural number, and of two the even one. -/
def nearestEven (x : ℚ≥0) : ℕ :=
  if 2 * x < 2 * ⌊x⌋₊ + 1 then ⌊x⌋₊
  else if 2 * ⌊x⌋₊ + 1 < 2 * x then ⌊x⌋₊ + 1
  else ⌊x⌋₊ + ⌊x⌋₊ % 2

/-- The nearest integer is not below the lower of the two integers next to the number. -/
theorem floor_le_nearestEven (x : ℚ≥0) : ⌊x⌋₊ ≤ nearestEven x := by
  unfold nearestEven
  split_ifs <;> omega

/-- The nearest integer is not above the upper of the two integers next to the number. -/
theorem nearestEven_le_floor_add_one (x : ℚ≥0) : nearestEven x ≤ ⌊x⌋₊ + 1 := by
  unfold nearestEven
  split_ifs <;> omega

@[simp] theorem nearestEven_natCast (n : ℕ) : nearestEven n = n := by
  rw [nearestEven, Nat.floor_natCast, if_pos (lt_add_one _)]

/-- Rounding to integers respects the order. -/
theorem monotone_nearestEven : Monotone nearestEven := by
  intro x y hxy
  have hfloor : ⌊x⌋₊ ≤ ⌊y⌋₊ := Nat.floor_le_floor hxy
  rcases hfloor.lt_or_eq with hlt | heq
  · calc nearestEven x ≤ ⌊x⌋₊ + 1 := nearestEven_le_floor_add_one x
      _ ≤ ⌊y⌋₊ := hlt
      _ ≤ nearestEven y := floor_le_nearestEven y
  · -- between the same two natural numbers, the nearer one to the greater is no less
    have hdouble : 2 * x ≤ 2 * y := mul_le_mul_of_nonneg_left hxy (by positivity)
    unfold nearestEven
    rw [heq]
    split_ifs with hx hy hy' hx' hy hy' hy hy'
    all_goals first
      | omega
      | exact absurd (hdouble.trans_lt ‹_›) (by assumption)
      | exact absurd (lt_of_lt_of_le ‹_› hdouble) (by assumption)

/-- A number below an integer is not rounded beyond it. -/
theorem nearestEven_le {x : ℚ≥0} {n : ℕ} (h : x ≤ n) : nearestEven x ≤ n :=
  (monotone_nearestEven h).trans_eq (nearestEven_natCast n)

/-- A number above an integer is not rounded below it. -/
theorem le_nearestEven {x : ℚ≥0} {n : ℕ} (h : n ≤ x) : n ≤ nearestEven x :=
  (nearestEven_natCast n).symm.trans_le (monotone_nearestEven h)

/-! ### Formats -/

/-- The significands have `precision` bits, and no exponent is below `minExponent`. -/
structure BinaryFormat where
  precision : ℕ
  minExponent : ℤ
  precision_pos : 0 < precision

/-- Double precision. -/
def binary64 : BinaryFormat := ⟨53, -1074, by decide⟩

namespace BinaryFormat

variable (f : BinaryFormat)

/-- The exponent of the unit in the last place. -/
def ulpExponent (x : ℚ≥0) : ℤ := max (Int.log 2 x + 1 - f.precision) f.minExponent

/-- The number of the format that is nearest. -/
def round (x : ℚ≥0) : ℚ≥0 :=
  nearestEven (x / 2 ^ f.ulpExponent x) * 2 ^ f.ulpExponent x

/-! ### Multiples of the unit in the last place -/

variable {f}

private theorem two_zpow_pos (e : ℤ) : (0 : ℚ≥0) < 2 ^ e := zpow_pos two_pos e

/-- A multiple of a power of two is one of every lower power. -/
theorem exists_multiple (n : ℕ) {e e' : ℤ} (h : e' ≤ e) :
    ∃ m : ℕ, (n * 2 ^ e : ℚ≥0) = m * 2 ^ e' := by
  obtain ⟨d, rfl⟩ := Int.le.dest h
  refine ⟨n * 2 ^ d, ?_⟩
  rw [zpow_add₀ two_ne_zero, zpow_natCast, Nat.cast_mul, Nat.cast_pow, Nat.cast_ofNat]
  ring

/-- A number whose last place has a small exponent is small itself. -/
theorem lt_zpow_of_ulpExponent_le {x : ℚ≥0} {e : ℤ} (h : f.ulpExponent x ≤ e) :
    x < 2 ^ (f.precision + e) := by
  have hlog : Int.log 2 x + 1 ≤ f.precision + e := by
    have hmax : Int.log 2 x + 1 - f.precision ≤ f.ulpExponent x := le_max_left _ _
    omega
  calc x < 2 ^ (Int.log 2 x + 1) := by exact_mod_cast Int.lt_zpow_succ_log_self (by decide) x
    _ ≤ 2 ^ (f.precision + e) := zpow_le_zpow_right₀ one_le_two hlog

/-- A small number has a last place of small exponent, unless the format has none as small. -/
theorem ulpExponent_le {x : ℚ≥0} {e : ℤ} (hx : 0 < x) (h : x < 2 ^ (f.precision + e))
    (he : f.minExponent ≤ e) : f.ulpExponent x ≤ e := by
  have hlog : Int.log 2 x < f.precision + e :=
    (Int.lt_zpow_iff_log_lt (by decide) hx).mp (by exact_mod_cast h)
  exact max_le (by omega) he

/-- A multiple of its own unit is rounded to itself. -/
theorem round_of_eq {x : ℚ≥0} {n : ℕ} (h : x = n * 2 ^ f.ulpExponent x) : f.round x = x := by
  rw [round, (div_eq_iff (two_zpow_pos _).ne').mpr h, nearestEven_natCast]
  exact h.symm

@[simp] theorem round_zero : f.round 0 = 0 :=
  round_of_eq (show (0 : ℚ≥0) = (0 : ℕ) * _ by rw [Nat.cast_zero, zero_mul])

/-- A number of the format is rounded to itself. -/
theorem round_of_lt {n : ℕ} {e : ℤ} (hn : n < 2 ^ f.precision) (he : f.minExponent ≤ e) :
    f.round (n * 2 ^ e) = n * 2 ^ e := by
  rcases n.eq_zero_or_pos with rfl | hpos
  · rw [Nat.cast_zero, zero_mul, round_zero]
  · have hx : (0 : ℚ≥0) < n * 2 ^ e := mul_pos (Nat.cast_pos.mpr hpos) (two_zpow_pos e)
    have hlt : (n * 2 ^ e : ℚ≥0) < 2 ^ (f.precision + e) := by
      rw [zpow_add₀ two_ne_zero, zpow_natCast]
      exact mul_lt_mul_of_pos_right (by exact_mod_cast hn) (two_zpow_pos e)
    obtain ⟨m, hm⟩ := exists_multiple n (ulpExponent_le hx hlt he)
    exact round_of_eq hm

/-- The numbers of the format are rounded to themselves, also where the significand has become a
power of two with one bit more. -/
theorem round_of_le {n : ℕ} {e : ℤ} (hn : n ≤ 2 ^ f.precision) (he : f.minExponent ≤ e) :
    f.round (n * 2 ^ e) = n * 2 ^ e := by
  rcases hn.lt_or_eq with hlt | rfl
  · exact round_of_lt hlt he
  · obtain ⟨q, hq⟩ := Nat.exists_eq_succ_of_ne_zero f.precision_pos.ne'
    have hshift : ((2 ^ f.precision : ℕ) * 2 ^ e : ℚ≥0) = (2 ^ q : ℕ) * 2 ^ (e + 1) := by
      rw [hq, zpow_add₀ two_ne_zero, zpow_one, pow_succ, Nat.cast_mul, Nat.cast_ofNat]
      ring
    rw [hshift]
    exact round_of_lt (hq ▸ Nat.pow_lt_pow_right (by decide) q.lt_succ_self) (by omega)

/-- What has been rounded is a number of the format. -/
theorem round_round (x : ℚ≥0) : f.round (f.round x) = f.round x := by
  refine round_of_le ?_ (le_max_right _ _)
  have hquotient : x / 2 ^ f.ulpExponent x ≤ (2 ^ f.precision : ℕ) := by
    rw [div_le_iff₀ (two_zpow_pos _), Nat.cast_pow, Nat.cast_ofNat, ← zpow_natCast,
      ← zpow_add₀ two_ne_zero]
    exact (lt_zpow_of_ulpExponent_le le_rfl).le
  exact nearestEven_le hquotient

/-! ### The order -/

variable (f) in
/-- The exponent of the last place grows with the number. -/
theorem ulpExponent_mono {x y : ℚ≥0} (hx : 0 < x) (h : x ≤ y) :
    f.ulpExponent x ≤ f.ulpExponent y := by
  have hlog : Int.log 2 x ≤ Int.log 2 y := Int.log_mono_right hx h
  exact max_le_max_right _ (by omega)

/-- A power of two that is a multiple of the unit bounds the rounded number with the exact one. -/
theorem round_le_zpow {x : ℚ≥0} {e : ℤ} (he : f.ulpExponent x ≤ e) (hx : x ≤ 2 ^ e) :
    f.round x ≤ 2 ^ e := by
  obtain ⟨m, hm⟩ := exists_multiple 1 he
  rw [Nat.cast_one, one_mul] at hm
  rw [hm] at hx ⊢
  refine mul_le_mul_of_nonneg_right (Nat.cast_le.mpr (nearestEven_le ?_)) (by positivity)
  exact (div_le_iff₀ (two_zpow_pos _)).mpr hx

/-- A power of two that the format has is not rounded away: a number above it stays above. -/
theorem zpow_le_round {x : ℚ≥0} {e : ℤ} (he : f.ulpExponent x ≤ e) (hx : 2 ^ e ≤ x) :
    2 ^ e ≤ f.round x := by
  obtain ⟨m, hm⟩ := exists_multiple 1 he
  rw [Nat.cast_one, one_mul] at hm
  rw [hm] at hx ⊢
  refine mul_le_mul_of_nonneg_right (Nat.cast_le.mpr (le_nearestEven ?_)) (by positivity)
  exact (le_div_iff₀ (two_zpow_pos _)).mpr hx

/-- Rounding respects the order. Within a binade this is rounding to integers; from one binade to
the next a power of two lies between the results. -/
theorem monotone_round : Monotone f.round := by
  intro x y hxy
  rcases eq_zero_or_pos x with rfl | hx
  · rw [round_zero]
    exact zero_le
  have hp : 0 < f.precision := f.precision_pos
  rcases (f.ulpExponent_mono hx hxy).eq_or_lt with heq | hlt
  · rw [round, round, heq]
    have hquotient : x / 2 ^ f.ulpExponent y ≤ y / 2 ^ f.ulpExponent y := by gcongr
    exact mul_le_mul_of_nonneg_right (Nat.cast_le.mpr (monotone_nearestEven hquotient))
      (by positivity)
  · -- with different units there is a power of two between them, the greatest up to the greater
    have hux : Int.log 2 x + 1 - f.precision ≤ f.ulpExponent x := le_max_left _ _
    have hmin : f.minExponent ≤ f.ulpExponent x := le_max_right _ _
    have huy : f.ulpExponent y = Int.log 2 y + 1 - f.precision := by
      unfold ulpExponent at hlt hmin ⊢
      omega
    have hy : 0 < y := hx.trans_le hxy
    have hpow : (2 : ℚ≥0) ^ Int.log 2 y ≤ y := by
      exact_mod_cast Int.zpow_log_le_self (by decide : 1 < 2) hy
    have hxlt : x < 2 ^ Int.log 2 y := by
      have hlog : Int.log 2 x < Int.log 2 y := by omega
      exact_mod_cast (Int.lt_zpow_iff_log_lt (by decide : 1 < 2) hx).mpr hlog
    calc f.round x ≤ 2 ^ Int.log 2 y := round_le_zpow (by omega) hxlt.le
      _ ≤ f.round y := zpow_le_round (by omega) hpow

variable (f)

/-- The rounding of the format. -/
@[reducible] def rounding : Rounding ℚ≥0 where
  round := f.round
  monotone_round := monotone_round
  round_round := round_round
  round_zero := round_zero

end BinaryFormat

namespace Binary64

scoped instance : Rounding ℚ≥0 := binary64.rounding

-- a tenth and two tenths are no three tenths
example : (.of (1 / 10) + .of (2 / 10) : Rounded ℚ≥0) ≠ .of (3 / 10) := by decide +kernel

end Binary64

end DecisionCenter
