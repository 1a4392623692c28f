import RuntimeTemplates.Lib.Bounded
import RuntimeTemplates.Lib.Rounding
import RuntimeTemplates.Template

/-!
# RuntimeTemplates.WeightToFee

The fee for the weight of an extrinsic: a polynomial of degree one, whose coefficient is a quotient
of two constants over the base weight of an extrinsic, in an integer part and parts of a billion.

* `weightToFeePolynomialOver`: how a template builds the polynomial. `weightToFee`: its value, over
  any arithmetic.
* `weightToFee_agrees`: where no operation overflows, the saturating value is the exact one.
* `fairFees_linear`: what the two roundings leave of a linear fee.
* `weight_fees_fair`: the fees of both templates, for each base weight that their test admits.
-/

namespace RuntimeTemplates

open Bounded Rounding

/-- `u128::MAX`. -/
def balanceMax : Nat := UInt64.size * UInt64.size - 1

def billion : Nat := 1000000000

/-- `Perbill`: parts of a billion. -/
structure Perbill where
  parts : Nat
  parts_le : parts ≤ billion

/-- What fees use of `Perbill`. -/
structure PerbillOps where
  fromRational : Nat → Nat → Perbill
  mul : Perbill → Nat → Nat

/-- `from_rational` rounds down, and a product is rounded to an integer nearest to it. -/
structure PerbillOps.Lawful (P : PerbillOps) : Prop where
  parts_fromRational : ∀ p q, p < q → q ≤ balanceMax →
    (P.fromRational p q).parts = p * billion / q
  mul_nearest : ∀ a x, x ≤ balanceMax → Nearest billion (a.parts * x) (P.mul a x)

/-! ## The polynomial -/

structure WeightToFeeCoefficient where
  coeffInteger : Nat
  coeffFrac : Perbill
  negative : Bool
  degree : UInt8

def weightToFeePolynomialOver (P : PerbillOps) (millicents pFactor qFactor : Nat)
    (polyDegree : UInt8) (extrinsicBaseWeight : UInt64) :
    Except ArithmeticError (List WeightToFeeCoefficient) := do
  let p ← checkedDiv millicents pFactor
  let q ← (checked balanceMax).mul qFactor extrinsicBaseWeight.toNat
  let remainder ← checkedRem p q
  let quotient ← checkedDiv p q
  return [⟨quotient, P.fromRational remainder q, false, polyDegree⟩]

namespace Evm

def pFactor : Nat := 10

def qFactor : Nat := 100

def polyDegree : UInt8 := 1

def weightToFeePolynomial (P : PerbillOps) :
    UInt64 → Except ArithmeticError (List WeightToFeeCoefficient) :=
  weightToFeePolynomialOver P millicents pFactor qFactor polyDegree

end Evm

namespace Generic

def pFactor : Nat := 10

def qFactor : Nat := 100

def polyDegree : UInt8 := 1

def weightToFeePolynomial (P : PerbillOps) :
    UInt64 → Except ArithmeticError (List WeightToFeeCoefficient) :=
  weightToFeePolynomialOver P millicents pFactor qFactor polyDegree

end Generic

namespace Template

def weightToFeePolynomial : Template → PerbillOps → UInt64 →
    Except ArithmeticError (List WeightToFeeCoefficient)
  | .evm => Evm.weightToFeePolynomial
  | .generic => Generic.weightToFeePolynomial

/-- `MILLICENTS / P_FACTOR`. -/
def feeNumerator : Template → Nat
  | .evm => Evm.millicents / Evm.pFactor
  | .generic => Generic.millicents / Generic.pFactor

/-- `Q_FACTOR * ExtrinsicBaseWeight`. -/
def feeDenominator : Template → UInt64 → Nat
  | .evm, b => Evm.qFactor * b.toNat
  | .generic, b => Generic.qFactor * b.toNat

end Template

/-! ## Its value -/

section Value

variable {M : Type → Type} [Monad M] (A : Arithmetic M) (P : PerbillOps)

def WeightToFeeCoefficient.eval (c : WeightToFeeCoefficient) (result x : Nat) : M Nat := do
  let power ← A.pow x c.degree.toNat
  let frac := P.mul c.coeffFrac power
  let integer ← A.mul c.coeffInteger power
  if c.negative then
    let result ← A.sub result frac
    A.sub result integer
  else
    let result ← A.add result frac
    A.add result integer

def weightToFee (x : Nat) : Nat → List WeightToFeeCoefficient → M Nat
  | result, [] => pure result
  | result, c :: cs => do
    let result ← c.eval A P result x
    weightToFee x result cs

end Value

/-- The fee for a time: the polynomial in saturating arithmetic. -/
def fee (P : PerbillOps) (coefficients : List WeightToFeeCoefficient) (refTime : UInt64) : Nat :=
  (weightToFee (saturating balanceMax) P refTime.toNat 0 coefficients).run

section Agreement

variable (max : Nat) (P : PerbillOps)

theorem eval_agrees (c : WeightToFeeCoefficient) (result x : Nat) :
    Agrees (c.eval (checked max) P result x) (c.eval (saturating max) P result x) := by
  unfold WeightToFeeCoefficient.eval
  refine (agrees_pow max x _).bind ?_
  intro power
  refine (agrees_mul max c.coeffInteger power).bind ?_
  intro integer
  cases c.negative with
  | true =>
    refine (agrees_sub max result _).bind ?_
    intro r
    exact agrees_sub max r integer
  | false =>
    refine (agrees_add max result _).bind ?_
    intro r
    exact agrees_add max r integer

/-- Where no operation overflows, none saturates. -/
theorem weightToFee_agrees (x result : Nat) (cs : List WeightToFeeCoefficient) :
    Agrees (weightToFee (checked max) P x result cs)
      (weightToFee (saturating max) P x result cs) := by
  induction cs generalizing result with
  | nil => exact agrees_pure result
  | cons c cs ih => exact (eval_agrees max P c result x).bind ih

end Agreement

/-! ## Linear fees -/

/-- A fee stays in the order of the times, near `p / q` for each unit of time, and near itself when
the time is split. -/
structure FairFees (fee : UInt64 → Nat) (p q : Nat) : Prop where
  mono : ∀ v w, v ≤ w → fee v ≤ fee w
  proportional : ∀ w, |(fee w : ℚ) - p * w.toNat / q| ≤ w.toNat / billion + 1
  split_safe : ∀ v w, v.toNat + w.toNat < UInt64.size →
    |(fee v : ℤ) + fee w - fee (v + w)| ≤ 2

section Linear

theorem billion_pos : 0 < billion := by decide

-- a fee by the whole part of `p / q` and by `parts` of a billion
variable {f : UInt64 → Nat} {p q parts : Nat} {frac : Nat → Nat}
  (hf : ∀ w, f w = p / q * w.toNat + frac w.toNat)
  (hfrac : ∀ w : UInt64, Nearest billion (parts * w.toNat) (frac w.toNat))

include hf hfrac

theorem linear_mono {v w : UInt64} (h : v ≤ w) : f v ≤ f w := by
  rcases Nat.eq_or_lt_of_le (UInt64.le_iff_toNat_le.mp h) with heq | hlt
  · rw [hf v, hf w, heq]
  · have hint : p / q * v.toNat ≤ p / q * w.toNat := Nat.mul_le_mul_left _ hlt.le
    have hround : frac v.toNat ≤ frac w.toNat := (hfrac v).mono_mul billion_pos (hfrac w) hlt
    rw [hf v, hf w]
    omega

/-- The product is rounded, by at most a half, and before it the coefficient, by at most a part. -/
theorem linear_proportional (hq : 0 < q) (hparts : parts = p % q * billion / q) (w : UInt64) :
    |(f w : ℚ) - p * w.toNat / q| ≤ w.toNat / billion + 1 := by
  have hq' : (q : ℚ) ≠ 0 := Nat.cast_ne_zero.mpr hq.ne'
  have hround : |(frac w.toNat : ℚ) - parts * w.toNat / billion| ≤ 1 / 2 := by
    have hclose := (hfrac w).close billion_pos
    rwa [Nat.cast_mul] at hclose
  have hcoeff : |(parts : ℚ) / billion - (p % q : Nat) / q| ≤ 1 / billion :=
    hparts ▸ floor_close billion_pos hq
  have htime : |((parts : ℚ) / billion - (p % q : Nat) / q) * w.toNat| ≤ 1 / billion * w.toNat := by
    rw [abs_mul, Nat.abs_cast]
    exact mul_le_mul_of_nonneg_right hcoeff (Nat.cast_nonneg _)
  have hdivision : (p : ℚ) = q * (p / q : Nat) + (p % q : Nat) := by
    exact_mod_cast (Nat.div_add_mod p q).symm
  have hsplit : (f w : ℚ) - p * w.toNat / q = (frac w.toNat - parts * w.toNat / billion) +
      ((parts : ℚ) / billion - (p % q : Nat) / q) * w.toNat := by
    rw [hf w, Nat.cast_add, Nat.cast_mul, hdivision]
    field_simp
    ring
  rw [hsplit]
  calc _ ≤ |(frac w.toNat : ℚ) - parts * w.toNat / billion| +
        |((parts : ℚ) / billion - (p % q : Nat) / q) * w.toNat| := abs_add_le _ _
    _ ≤ 1 / 2 + 1 / billion * w.toNat := add_le_add hround htime
    _ ≤ w.toNat / billion + 1 := by
        rw [one_div_mul_eq_div]
        linarith

theorem linear_split_safe {v w : UInt64} (h : v.toNat + w.toNat < UInt64.size) :
    |(f v : ℤ) + f w - f (v + w)| ≤ 2 := by
  have hsum : (v + w).toNat = v.toNat + w.toNat := by
    rw [UInt64.toNat_add]
    exact Nat.mod_eq_of_lt h
  have hround : Nearest billion (parts * v.toNat + parts * w.toNat) (frac (v.toNat + w.toNat)) := by
    have hvw := hfrac (v + w)
    rwa [hsum, Nat.mul_add] at hvw
  obtain ⟨hle, hge⟩ := (hfrac v).split billion_pos (hfrac w) hround
  have hint : p / q * (v.toNat + w.toNat) = p / q * v.toNat + p / q * w.toNat := Nat.mul_add _ _ _
  rw [hf v, hf w, hf (v + w), hsum, abs_le]
  omega

/-- A linear fee is fair whose fractional part is brought to parts of a billion and then applied,
with a rounding each time. -/
theorem fairFees_linear (hq : 0 < q) (hparts : parts = p % q * billion / q) : FairFees f p q where
  mono _ _ := linear_mono hf hfrac
  proportional := linear_proportional hf hfrac hq hparts
  split_safe _ _ := linear_split_safe hf hfrac

end Linear

/-! ## The fees of the templates -/

/-- The value of a polynomial of degree one, where its operations are exact. -/
theorem weightToFee_linear {P : PerbillOps} (hP : P.Lawful) (integer : Nat) (frac : Perbill)
    (x : UInt64) (h : (integer + 1) * x.toNat ≤ balanceMax) :
    weightToFee (checked balanceMax) P x.toNat 0 [⟨integer, frac, false, 1⟩] =
      .ok (integer * x.toNat + P.mul frac x.toNat) := by
  rw [Nat.add_mul, Nat.one_mul] at h
  have hx : x.toNat ≤ balanceMax := by omega
  have hmul : P.mul frac x.toNat ≤ x.toNat :=
    (hP.mul_nearest frac x.toNat hx).le_of_le billion_pos (Nat.mul_le_mul_right _ frac.parts_le)
  have hpow : (checked balanceMax).pow x.toNat (1 : UInt8).toNat = .ok x.toNat := checked_pow_one hx
  have hinteger : (checked balanceMax).mul integer x.toNat = .ok (integer * x.toNat) :=
    checked_mul_of_le (by omega)
  have hfrac : (checked balanceMax).add 0 (P.mul frac x.toNat) =
      .ok (0 + P.mul frac x.toNat) := checked_add_of_le (by omega)
  have hsum : (checked balanceMax).add (0 + P.mul frac x.toNat) (integer * x.toNat) =
      .ok (0 + P.mul frac x.toNat + integer * x.toNat) := checked_add_of_le (by omega)
  have heval : (⟨integer, frac, false, 1⟩ : WeightToFeeCoefficient).eval (checked balanceMax) P 0
      x.toNat = .ok (0 + P.mul frac x.toNat + integer * x.toNat) := by
    simp only [WeightToFeeCoefficient.eval, hpow, hinteger, hfrac, hsum, bind, Except.bind]
    rfl
  rw [weightToFee, heval, Nat.zero_add, Nat.add_comm]
  rfl

/-- The bounds of the test `sane` of the weight file, in picoseconds. -/
structure Sane (extrinsicBaseWeight : UInt64) : Prop where
  at_least : 10 * 1000000 ≤ extrinsicBaseWeight.toNat
  at_most : extrinsicBaseWeight.toNat ≤ 1000000000

section Templates

variable {t : Template} {b : UInt64}

theorem feeNumerator_eq (t : Template) : t.feeNumerator = 100000000 := by
  cases t <;> rfl

theorem feeDenominator_eq (t : Template) (b : UInt64) : t.feeDenominator b = 100 * b.toNat := by
  cases t <;> rfl

theorem feeDenominator_pos (h : Sane b) : 0 < t.feeDenominator b := by
  rw [feeDenominator_eq]
  have := h.at_least
  omega

theorem feeDenominator_le (h : Sane b) : t.feeDenominator b ≤ balanceMax := by
  have hmax : 100 * 1000000000 ≤ balanceMax := by decide
  rw [feeDenominator_eq]
  have := h.at_most
  omega

theorem weightToFeePolynomial_ok (P : PerbillOps) (h : Sane b) :
    t.weightToFeePolynomial P b = .ok [⟨t.feeNumerator / t.feeDenominator b,
      P.fromRational (t.feeNumerator % t.feeDenominator b) (t.feeDenominator b), false, 1⟩] := by
  have hpos : 0 < t.feeDenominator b := feeDenominator_pos h
  have hle : t.feeDenominator b ≤ balanceMax := feeDenominator_le h
  have hover : t.weightToFeePolynomial P b =
      weightToFeePolynomialOver P 1000000000 10 100 1 b := by cases t <;> rfl
  have hp : checkedDiv 1000000000 10 = .ok t.feeNumerator := by cases t <;> rfl
  have hq : (checked balanceMax).mul 100 b.toNat = .ok (t.feeDenominator b) := by
    rw [feeDenominator_eq] at hle ⊢
    exact checked_mul_of_le hle
  simp only [hover, weightToFeePolynomialOver, hp, hq, checkedRem_of_pos hpos,
    checkedDiv_of_pos hpos, bind, Except.bind]
  rfl

end Templates

theorem coefficient_fits {integer : Nat} (h : integer ≤ 100000000) (w : UInt64) :
    (integer + 1) * w.toNat ≤ balanceMax := by
  have hw : w.toNat ≤ UInt64.size - 1 := Nat.le_sub_one_of_lt w.toNat_lt
  have hmax : (100000000 + 1) * (UInt64.size - 1) ≤ balanceMax := by decide
  exact (Nat.mul_le_mul (Nat.succ_le_succ h) hw).trans hmax

/-- For every base weight in the bounds, building the polynomial fails nowhere, its value is exact
for every time, and the fees are fair. -/
theorem weight_fees_fair (P : PerbillOps) (hP : P.Lawful) (t : Template) (b : UInt64)
    (hb : Sane b) :
    ∃ coefficients, t.weightToFeePolynomial P b = .ok coefficients ∧
      (∀ w : UInt64, weightToFee (checked balanceMax) P w.toNat 0 coefficients =
        .ok (fee P coefficients w)) ∧
      FairFees (fee P coefficients) t.feeNumerator (t.feeDenominator b) := by
  have hpos : 0 < t.feeDenominator b := feeDenominator_pos hb
  have hinteger : t.feeNumerator / t.feeDenominator b ≤ 100000000 := by
    rw [feeNumerator_eq]
    exact Nat.div_le_self _ _
  have hparts := hP.parts_fromRational _ _ (Nat.mod_lt t.feeNumerator hpos) (feeDenominator_le hb)
  refine ⟨_, weightToFeePolynomial_ok P hb, ?_⟩
  generalize P.fromRational (t.feeNumerator % t.feeDenominator b) (t.feeDenominator b) = frac
    at hparts ⊢
  have hchecked := fun w => weightToFee_linear hP _ frac w (coefficient_fits hinteger w)
  have hfee : ∀ w : UInt64, fee P [⟨t.feeNumerator / t.feeDenominator b, frac, false, 1⟩] w =
      t.feeNumerator / t.feeDenominator b * w.toNat + P.mul frac w.toNat := by
    intro w
    exact weightToFee_agrees balanceMax P w.toNat 0 _ _ (hchecked w)
  have hfrac : ∀ w : UInt64, Nearest billion (frac.parts * w.toNat) (P.mul frac w.toNat) := by
    intro w
    have hw : w.toNat ≤ balanceMax := w.toNat_lt.le.trans (by decide)
    exact hP.mul_nearest frac w.toNat hw
  constructor
  · intro w
    rw [hchecked w, hfee w]
  · exact fairFees_linear hfee hfrac hpos hparts

/-! ## A `Perbill` as the runtime has it -/

/-- Zero denominators and fractions above one give one; ties are rounded down. -/
def perbill : PerbillOps where
  fromRational p q :=
    if h : p < q then
      ⟨p * billion / q, Nat.div_le_of_le_mul (Nat.mul_le_mul_right billion h.le)⟩
    else
      ⟨billion, Nat.le_refl billion⟩
  mul a x :=
    let n := a.parts * x
    if billion < 2 * (n % billion) then n / billion + 1 else n / billion

theorem perbill_lawful : perbill.Lawful where
  parts_fromRational p q hpq _ := by
    simp only [perbill, dif_pos hpq]
  mul_nearest a x _ := by
    have hdiv := Nat.div_add_mod (a.parts * x) billion
    have hmod := Nat.mod_lt (a.parts * x) billion_pos
    simp only [perbill]
    split
    · constructor
      · rw [Nat.mul_add]
        omega
      · rw [Nat.mul_add]
        omega
    · constructor
      · omega
      · omega

/-- The base weight of the repository's weight file, 125 microseconds. -/
theorem evm_weight_fees_fair :
    ∃ coefficients, Template.weightToFeePolynomial .evm perbill 125000000 = .ok coefficients ∧
      (∀ w : UInt64, weightToFee (checked balanceMax) perbill w.toNat 0 coefficients =
        .ok (fee perbill coefficients w)) ∧
      FairFees (fee perbill coefficients) (Template.feeNumerator .evm)
        (Template.feeDenominator .evm 125000000) :=
  weight_fees_fair perbill perbill_lawful .evm 125000000 ⟨by decide, by decide⟩

end RuntimeTemplates
