import OlympusMetrics.Library.Calendar
import Mathlib.Data.List.Lex
import Mathlib.Data.Nat.Digits.Defs

/-!
Decimal texts of a fixed width: their values, and their order as texts.
-/

namespace OlympusMetrics.Calendar

/-- The number that a list of decimal digits writes. -/
abbrev digitsNumber (digits : List Char) : ℕ := Nat.ofDigitChars 10 digits 0

theorem digitsNumber_cons (c : Char) (cs : List Char) :
    digitsNumber (c :: cs) = 10 ^ cs.length * (c.toNat - '0'.toNat) + digitsNumber cs := by
  rw [digitsNumber, Nat.ofDigitChars_cons, Nat.ofDigitChars_eq_ofDigitChars_zero,
    Nat.mul_zero, Nat.zero_add]

theorem isDigit_toNat {c : Char} (h : c.isDigit = true) :
    '0'.toNat ≤ c.toNat ∧ c.toNat ≤ '9'.toNat := by
  simp only [Char.isDigit, Bool.and_eq_true, decide_eq_true_eq] at h
  exact ⟨h.1, h.2⟩

theorem digitsNumber_lt {digits : List Char} (h : ∀ c ∈ digits, c.isDigit = true) :
    digitsNumber digits < 10 ^ digits.length := by
  induction digits with
  | nil => decide
  | cons c cs ih =>
      have hcs := ih (fun d hd => h d (List.mem_cons_of_mem c hd))
      obtain ⟨-, hc⟩ := isDigit_toNat (h c List.mem_cons_self)
      have hvalue : c.toNat - '0'.toNat ≤ 9 := by
        have : '9'.toNat = '0'.toNat + 9 := by decide
        omega
      rw [digitsNumber_cons, List.length_cons, Nat.pow_succ]
      calc 10 ^ cs.length * (c.toNat - '0'.toNat) + digitsNumber cs
          < 10 ^ cs.length * (c.toNat - '0'.toNat) + 10 ^ cs.length :=
            Nat.add_lt_add_left hcs _
        _ ≤ 10 ^ cs.length * 9 + 10 ^ cs.length :=
            Nat.add_le_add_right (Nat.mul_le_mul_left _ hvalue) _
        _ = 10 ^ cs.length * 10 := by ring

/-- Digits of the same length compare as the numbers they write. -/
theorem digits_lt_iff {xs ys : List Char} (hlength : xs.length = ys.length)
    (hxs : ∀ c ∈ xs, c.isDigit = true) (hys : ∀ c ∈ ys, c.isDigit = true) :
    xs < ys ↔ digitsNumber xs < digitsNumber ys := by
  induction xs generalizing ys with
  | nil =>
      obtain rfl := List.length_eq_zero_iff.mp hlength.symm
      simp
  | cons x xs ih =>
      cases ys with
      | nil => exact nomatch hlength
      | cons y ys =>
          have hlen : xs.length = ys.length := Nat.succ.inj hlength
          have hxs' : ∀ c ∈ xs, c.isDigit = true := fun c hc => hxs c (List.mem_cons_of_mem x hc)
          have hys' : ∀ c ∈ ys, c.isDigit = true := fun c hc => hys c (List.mem_cons_of_mem y hc)
          have hx := isDigit_toNat (hxs x List.mem_cons_self)
          have hy := isDigit_toNat (hys y List.mem_cons_self)
          have hltx := digitsNumber_lt hxs'
          have hlty := digitsNumber_lt hys'
          rw [List.cons_lt_cons_iff, digitsNumber_cons, digitsNumber_cons, ih hlen hxs' hys', hlen]
          rw [hlen] at hltx
          have hchar : x < y ↔ x.toNat < y.toNat := Iff.rfl
          have heq : x = y ↔ x.toNat = y.toNat := Char.toNat_inj.symm
          rw [hchar, heq]
          generalize digitsNumber xs = a at *
          generalize digitsNumber ys = b at *
          generalize 10 ^ ys.length = p at *
          rcases Nat.lt_trichotomy x.toNat y.toNat with hlt | he | hgt
          · have hstep : p * (x.toNat - '0'.toNat) + p ≤ p * (y.toNat - '0'.toNat) := by
              rw [← Nat.mul_succ]
              exact Nat.mul_le_mul_left p (by omega)
            exact iff_of_true (Or.inl hlt) (by omega)
          · rw [he]
            simp
          · have hstep : p * (y.toNat - '0'.toNat) + p ≤ p * (x.toNat - '0'.toNat) := by
              rw [← Nat.mul_succ]
              exact Nat.mul_le_mul_left p (by omega)
            exact iff_of_false (by omega) (by omega)

theorem digits_eq_of_number_eq {xs ys : List Char} (hlength : xs.length = ys.length)
    (hxs : ∀ c ∈ xs, c.isDigit = true) (hys : ∀ c ∈ ys, c.isDigit = true)
    (h : digitsNumber xs = digitsNumber ys) : xs = ys := by
  have hnlt : ¬ xs < ys := fun hlt => by
    have := (digits_lt_iff hlength hxs hys).mp hlt
    omega
  have hngt : ¬ ys < xs := fun hlt => by
    have := (digits_lt_iff hlength.symm hys hxs).mp hlt
    omega
  exact le_antisymm (not_lt.mp hngt) (not_lt.mp hnlt)

/-- Texts of which the first parts have one length compare by these first. -/
theorem append_lt_append_iff {xs xs' ys ys' : List Char} (hlength : xs.length = xs'.length) :
    xs ++ ys < xs' ++ ys' ↔ xs < xs' ∨ (xs = xs' ∧ ys < ys') := by
  induction xs generalizing xs' with
  | nil =>
      obtain rfl := List.length_eq_zero_iff.mp hlength.symm
      simp
  | cons x xs ih =>
      cases xs' with
      | nil => exact nomatch hlength
      | cons x' xs' =>
          rw [List.cons_append, List.cons_append, List.cons_lt_cons_iff, List.cons_lt_cons_iff,
            ih (Nat.succ.inj hlength), List.cons.injEq]
          tauto

/-! ### Padded numbers -/

theorem length_padded {width n : ℕ} (hwidth : 0 < width) (h : n < 10 ^ width) :
    (padded width n).toList.length = width := by
  have hle := (Nat.length_toDigits_le_iff (by decide) hwidth).mpr h
  simp only [padded, String.toList_ofList, List.length_append, List.length_replicate]
  omega

theorem digitsNumber_padded (width n : ℕ) : digitsNumber (padded width n).toList = n := by
  rw [padded, String.toList_ofList, digitsNumber, Nat.ofDigitChars_append,
    Nat.ofDigitChars_replicate_zero, Nat.mul_zero, Nat.ofDigitChars_ten_toDigits]

/-- A list of digits is the padded text of its number. -/
theorem padded_digitsNumber {digits : List Char} (hdigits : digits ≠ [])
    (h : ∀ c ∈ digits, c.isDigit = true) :
    (padded digits.length (digitsNumber digits)).toList = digits := by
  refine digits_eq_of_number_eq ?_ (fun c => isDigit_of_mem_padded) h (digitsNumber_padded _ _)
  exact length_padded (List.length_pos_iff.mpr hdigits) (digitsNumber_lt h)

theorem padded_lt_iff {width m n : ℕ} (hwidth : 0 < width) (hm : m < 10 ^ width)
    (hn : n < 10 ^ width) : (padded width m).toList < (padded width n).toList ↔ m < n := by
  have hlength : (padded width m).toList.length = (padded width n).toList.length :=
    (length_padded hwidth hm).trans (length_padded hwidth hn).symm
  rw [digits_lt_iff hlength (fun _ => isDigit_of_mem_padded) (fun _ => isDigit_of_mem_padded),
    digitsNumber_padded, digitsNumber_padded]

theorem padded_inj {width m n : ℕ} (h : (padded width m).toList = (padded width n).toList) :
    m = n := by
  rw [← digitsNumber_padded width m, h, digitsNumber_padded]

end OlympusMetrics.Calendar
