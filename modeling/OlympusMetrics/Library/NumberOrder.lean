import OlympusMetrics.Library.HalfUp

/-!
The order of the decimal numbers, and the non-negative ones.
-/

namespace OlympusMetrics.BigNumber

@[simp] theorem finite_lte_finite (p q : ℚ) : (finite p).lte (finite q) = true ↔ p ≤ q := by
  simp only [lte, gt, eq, Bool.or_eq_true, decide_eq_true_eq, finite.injEq]
  exact le_iff_lt_or_eq.symm

@[simp] theorem finite_gt_finite (p q : ℚ) : (finite p).gt (finite q) = true ↔ q < p := by
  simp [gt]

/-- A number, and neither infinite nor not a number. -/
def IsNumber (x : BigNumber) : Prop := ∃ q : ℚ, x = finite q

/-- The number, and zero for what is none. -/
def toRat : BigNumber → ℚ
  | finite q => q
  | _ => 0

theorem IsNumber.eq {x : BigNumber} (h : x.IsNumber) : x = finite x.toRat := by
  obtain ⟨q, rfl⟩ := h
  rfl

/-- Numbers add up to a number. -/
theorem sum_eq_finite {xs : List BigNumber} (h : ∀ x ∈ xs, x.IsNumber) :
    xs.sum = finite (xs.map toRat).sum := by
  induction xs with
  | nil => rfl
  | cons x xs ih =>
      have hx := (h x List.mem_cons_self).eq
      rw [List.sum_cons, ih (fun y hy => h y (List.mem_cons_of_mem _ hy)), hx, add_def,
        finite_plus_finite]
      simp [toRat]

/-- A number that is not negative. -/
def Nonneg : BigNumber → Prop
  | finite q => 0 ≤ q
  | _ => False

instance : DecidablePred Nonneg := fun x =>
  match x with
  | nan => .isFalse id
  | infinity _ => .isFalse id
  | finite q => inferInstanceAs (Decidable (0 ≤ q))

@[simp] theorem nonneg_finite (q : ℚ) : (finite q).Nonneg ↔ 0 ≤ q := Iff.rfl

@[simp] theorem nonneg_zero : (0 : BigNumber).Nonneg := le_refl (0 : ℚ)

variable {x y : BigNumber}

theorem Nonneg.exists_eq (h : x.Nonneg) : ∃ q : ℚ, 0 ≤ q ∧ x = finite q := by
  cases x with
  | nan => exact h.elim
  | infinity s => exact h.elim
  | finite q => exact ⟨q, h, rfl⟩

theorem Nonneg.zero_lte (h : x.Nonneg) : (0 : BigNumber).lte x = true := by
  obtain ⟨q, hq, rfl⟩ := h.exists_eq
  rw [zero_def, finite_lte_finite]
  exact hq

theorem Nonneg.plus (hx : x.Nonneg) (hy : y.Nonneg) : (x.plus y).Nonneg := by
  obtain ⟨p, hp, rfl⟩ := hx.exists_eq
  obtain ⟨q, hq, rfl⟩ := hy.exists_eq
  rw [finite_plus_finite, nonneg_finite]
  exact add_nonneg hp hq

theorem Nonneg.times (hx : x.Nonneg) (hy : y.Nonneg) : (x.times y).Nonneg := by
  obtain ⟨p, hp, rfl⟩ := hx.exists_eq
  obtain ⟨q, hq, rfl⟩ := hy.exists_eq
  rw [finite_times_finite, nonneg_finite]
  exact mul_nonneg hp hq

theorem Nonneg.sum {xs : List BigNumber} (h : ∀ x ∈ xs, x.Nonneg) : xs.sum.Nonneg := by
  induction xs with
  | nil => simp
  | cons x xs ih =>
      rw [List.sum_cons, add_def]
      exact (h x List.mem_cons_self).plus (ih (fun y hy => h y (List.mem_cons_of_mem _ hy)))

/-- A quotient of numbers is rounded. -/
theorem finite_div_finite {p q : ℚ} (hq : q ≠ 0) :
    (finite p).div (finite q) = finite (roundHalfUp decimalPlaces (p / q)) := by
  rw [div, if_neg hq]

theorem Nonneg.div (hx : x.Nonneg) (hy : y.Nonneg) (hne : y ≠ 0) : (x.div y).Nonneg := by
  obtain ⟨p, hp, rfl⟩ := hx.exists_eq
  obtain ⟨q, hq, rfl⟩ := hy.exists_eq
  have hq' : q ≠ 0 := by
    rintro rfl
    exact hne zero_def.symm
  rw [finite_div_finite hq', nonneg_finite]
  exact roundHalfUp_nonneg (div_nonneg hp hq)

theorem Nonneg.toString10 (hx : x.Nonneg) : x.toString10.Nonneg := by
  obtain ⟨p, hp, rfl⟩ := hx.exists_eq
  exact roundHalfUp_nonneg hp

/-- What is written keeps the order. -/
theorem toString10_lte {p q : ℚ} (h : p ≤ q) :
    (finite p).toString10.lte (finite q).toString10 = true := by
  simp only [BigNumber.toString10, finite_lte_finite]
  exact roundHalfUp_mono h

/-- A quotient is written as it is. -/
@[simp] theorem toString10_div (x y : BigNumber) : (x.div y).toString10 = x.div y := by
  cases x with
  | nan => rfl
  | infinity s => cases y <;> rfl
  | finite p =>
      cases y with
      | nan => rfl
      | infinity t => simp [BigNumber.div, BigNumber.toString10]
      | finite q =>
          rw [BigNumber.div]
          split
          · split <;> rfl
          · simp [BigNumber.toString10]

/-- A part of a positive amount makes up a share between zero and one. -/
theorem share_mem (hx : x.Nonneg) (hy : y.Nonneg) (hpos : (x.plus y).gt 0 = true) :
    (x.div (x.plus y)).Nonneg ∧ (x.div (x.plus y)).lte 1 = true := by
  obtain ⟨p, hp, rfl⟩ := hx.exists_eq
  obtain ⟨q, hq, rfl⟩ := hy.exists_eq
  rw [finite_plus_finite, zero_def, finite_gt_finite] at hpos
  rw [finite_plus_finite, finite_div_finite hpos.ne', nonneg_finite, one_def, finite_lte_finite]
  refine ⟨roundHalfUp_nonneg (div_nonneg hp hpos.le), ?_⟩
  have hone : roundHalfUp decimalPlaces 1 = 1 :=
    @roundHalfUp_eq_self decimalPlaces 1 (10 ^ decimalPlaces) (by simp)
  rw [← hone]
  exact roundHalfUp_mono (div_le_one_of_le₀ (by linarith) hpos.le)

/-- A share of what is not negative, as both are written, is at most the whole. -/
theorem times_share_lte (hx : x.Nonneg) (hy : y.Nonneg) (hle : y.lte 1 = true) :
    (0 : BigNumber).lte (x.times y).toString10 = true ∧
      (x.times y).toString10.lte x.toString10 = true := by
  refine ⟨(hx.times hy).toString10.zero_lte, ?_⟩
  obtain ⟨p, hp, rfl⟩ := hx.exists_eq
  obtain ⟨q, hq, rfl⟩ := hy.exists_eq
  rw [one_def, finite_lte_finite] at hle
  rw [finite_times_finite]
  exact toString10_lte (mul_le_of_le_one_right hp hle)

end OlympusMetrics.BigNumber
