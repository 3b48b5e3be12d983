import Mathlib.Algebra.BigOperators.Group.List.Basic
import Mathlib.Algebra.Order.Floor.Ring
import Mathlib.Data.Rat.Floor
import Mathlib.Tactic.Ring

/-!
Arbitrary-precision decimal numbers with the default rounding of bignumber.js.

Addition and multiplication are exact, division rounds half up to twenty
decimal places, and the two non-finite outcomes of JavaScript arithmetic are
kept. The sign of a zero is not represented.
-/

namespace OlympusMetrics

inductive BigNumber
  | nan
  | infinity (negative : Bool)
  | finite (value : ℚ)
  deriving DecidableEq

namespace BigNumber

instance : Zero BigNumber := ⟨finite 0⟩
instance : One BigNumber := ⟨finite 1⟩
instance : Inhabited BigNumber := ⟨finite 0⟩

theorem zero_def : (0 : BigNumber) = finite 0 := rfl
theorem one_def : (1 : BigNumber) = finite 1 := rfl

def ofInt (n : ℤ) : BigNumber := finite n

def neg : BigNumber → BigNumber
  | nan => nan
  | infinity s => infinity (!s)
  | finite q => finite (-q)

def plus : BigNumber → BigNumber → BigNumber
  | nan, _ => nan
  | _, nan => nan
  | infinity s, infinity t => if s = t then infinity s else nan
  | infinity s, finite _ => infinity s
  | finite _, infinity t => infinity t
  | finite p, finite q => finite (p + q)

/-- A product with an infinite factor: zero times infinity is not a number. -/
def scaleInfinity (s : Bool) (q : ℚ) : BigNumber :=
  if q = 0 then nan else infinity (xor s (decide (q < 0)))

def times : BigNumber → BigNumber → BigNumber
  | nan, _ => nan
  | _, nan => nan
  | infinity s, infinity t => infinity (xor s t)
  | infinity s, finite q => scaleInfinity s q
  | finite p, infinity t => scaleInfinity t p
  | finite p, finite q => finite (p * q)

/-- `DECIMAL_PLACES` of the default configuration. -/
def decimalPlaces : ℕ := 20

/-- `ROUND_HALF_UP`: to the nearest multiple of `10 ^ (-places)`, ties away from zero. -/
def roundHalfUp (places : ℕ) (q : ℚ) : ℚ :=
  let scaled : ℤ := ⌊|q| * 10 ^ places + 1 / 2⌋
  (if q < 0 then -(scaled : ℚ) else scaled) / 10 ^ places

def div : BigNumber → BigNumber → BigNumber
  | nan, _ => nan
  | _, nan => nan
  | infinity _, infinity _ => nan
  | infinity s, finite q => infinity (xor s (decide (q < 0)))
  | finite _, infinity _ => finite 0
  | finite p, finite q =>
      if q = 0 then
        if p = 0 then nan else infinity (decide (p < 0))
      else finite (roundHalfUp decimalPlaces (p / q))

/-- `eq`, under which a value that is not a number differs from everything. -/
def eq : BigNumber → BigNumber → Bool
  | nan, _ => false
  | _, nan => false
  | x, y => decide (x = y)

def minus (x y : BigNumber) : BigNumber := plus x (neg y)

/-- `gt`, false whenever one side is not a number. -/
def gt : BigNumber → BigNumber → Bool
  | nan, _ => false
  | _, nan => false
  | infinity s, infinity t => !s && t
  | infinity s, finite _ => !s
  | finite _, infinity t => t
  | finite p, finite q => decide (q < p)

/-- `lte`. -/
def lte (x y : BigNumber) : Bool := gt y x || eq x y

/-- `toString(10)` read back: an explicit base rounds to the configured decimal places. -/
def toString10 : BigNumber → BigNumber
  | finite q => finite (roundHalfUp decimalPlaces q)
  | x => x

@[simp] theorem plus_nan (x : BigNumber) : plus x nan = nan := by cases x <;> rfl

@[simp] theorem nan_plus (x : BigNumber) : plus nan x = nan := rfl

@[simp] theorem finite_plus_finite (p q : ℚ) : plus (finite p) (finite q) = finite (p + q) := rfl

@[simp] theorem finite_times_finite (p q : ℚ) : times (finite p) (finite q) = finite (p * q) := rfl

theorem eq_zero_iff (x : BigNumber) : x.eq 0 = true ↔ x = 0 := by
  cases x with
  | nan => simp [eq, zero_def]
  | infinity s => simp [eq, zero_def]
  | finite q => simp [eq, zero_def]

theorem plus_comm (x y : BigNumber) : plus x y = plus y x := by
  cases x with
  | nan => rw [nan_plus, plus_nan]
  | infinity s =>
      cases y with
      | nan => rfl
      | infinity t => cases s <;> cases t <;> rfl
      | finite q => rfl
  | finite p =>
      cases y with
      | nan => rfl
      | infinity t => rfl
      | finite q => simp only [finite_plus_finite, add_comm]

theorem zero_plus (x : BigNumber) : plus 0 x = x := by
  cases x with
  | nan => rfl
  | infinity s => rfl
  | finite q => simp [zero_def]

theorem plus_assoc (x y z : BigNumber) : plus (plus x y) z = plus x (plus y z) := by
  cases x with
  | nan => rfl
  | infinity s =>
      cases y with
      | nan => rfl
      | infinity t =>
          cases z with
          | nan => rw [plus_nan, plus_nan, plus_nan]
          | infinity u => cases s <;> cases t <;> cases u <;> rfl
          | finite r => cases s <;> cases t <;> rfl
      | finite q =>
          cases z with
          | nan => rfl
          | infinity u => rfl
          | finite r => rfl
  | finite p =>
      cases y with
      | nan => rfl
      | infinity t =>
          cases z with
          | nan => rfl
          | infinity u => cases t <;> cases u <;> rfl
          | finite r => rfl
      | finite q =>
          cases z with
          | nan => rfl
          | infinity u => rfl
          | finite r => simp only [finite_plus_finite, add_assoc]

instance : Add BigNumber := ⟨plus⟩

theorem add_def (x y : BigNumber) : x + y = plus x y := rfl

/-- Sums do not depend on the order in which rows are added. -/
instance : AddCommMonoid BigNumber where
  add_assoc := plus_assoc
  zero_add := zero_plus
  add_zero x := (plus_comm x 0).trans (zero_plus x)
  add_comm := plus_comm
  nsmul := nsmulRec

/-- An accumulating loop of `plus` computes the sum of its terms. -/
theorem foldl_plus {α : Type*} (f : α → BigNumber) (xs : List α) (start : BigNumber) :
    xs.foldl (fun acc x => plus acc (f x)) start = start + (xs.map f).sum := by
  induction xs generalizing start with
  | nil => simp
  | cons x xs ih =>
      simp only [List.foldl_cons, List.map_cons, List.sum_cons]
      rw [ih, ← add_def, add_assoc]

theorem foldl_plus_zero {α : Type*} (f : α → BigNumber) (xs : List α) :
    xs.foldl (fun acc x => plus acc (f x)) 0 = (xs.map f).sum := by
  rw [foldl_plus, zero_add]

end BigNumber

end OlympusMetrics
