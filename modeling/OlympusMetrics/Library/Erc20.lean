import Mathlib.Data.Finsupp.Weight

/-!
Holdings of a token and the transfers that change them.

A mint comes from the zero address and a burn goes to it. The zero address is not
counted among the holders, so a transfer changes at most two holdings.
-/

namespace OlympusMetrics.Erc20

/-- The amount that each holder has. -/
abbrev Holdings (A : Type*) := A →₀ ℕ

structure Transfer (A : Type*) where
  sender : A
  recipient : A
  value : ℕ
  deriving DecidableEq

variable {A : Type*} [DecidableEq A] (zero : A)

/-- What the transfer gives to its recipient. -/
noncomputable def Transfer.credit (t : Transfer A) : Holdings A :=
  if t.recipient = zero then 0 else Finsupp.single t.recipient t.value

/-- What the transfer takes from its sender. -/
noncomputable def Transfer.debit (t : Transfer A) : Holdings A :=
  if t.sender = zero then 0 else Finsupp.single t.sender t.value

/-- How much the transfer changes what `a` holds. -/
def Transfer.change (t : Transfer A) (a : A) : ℤ :=
  (if t.recipient = a then (t.value : ℤ) else 0) - (if t.sender = a then (t.value : ℤ) else 0)

/-- A transfer turns the holdings `b` into `b'`. -/
def Moves (t : Transfer A) (b b' : Holdings A) : Prop := b' + t.debit zero = b + t.credit zero

/-- The transfers of a list turn `b` into `b'`, one after another. -/
inductive Reaches : Holdings A → List (Transfer A) → Holdings A → Prop
  | nil (b) : Reaches b [] b
  | snoc {b ts b' t b''} : Reaches b ts b' → Moves zero t b' b'' → Reaches b (ts ++ [t]) b''

/-- What the addresses with a property hold together. -/
noncomputable def heldBy (p : A → Prop) [DecidablePred p] : Holdings A →+ ℕ :=
  Finsupp.degree.comp (Finsupp.filterAddHom p)

variable {zero}

omit [DecidableEq A] in
theorem heldBy_apply (p : A → Prop) [DecidablePred p] (b : Holdings A) :
    heldBy p b = Finsupp.degree (b.filter p) := rfl

omit [DecidableEq A] in
theorem heldBy_single (p : A → Prop) [DecidablePred p] (a : A) (n : ℕ) :
    heldBy p (Finsupp.single a n) = if p a then n else 0 := by
  rw [heldBy_apply]
  split
  · next h => rw [Finsupp.filter_single_of_pos _ h, Finsupp.degree_single]
  · next h => rw [Finsupp.filter_single_of_neg _ h, map_zero]

theorem heldBy_credit (p : A → Prop) [DecidablePred p] (t : Transfer A) :
    heldBy p (t.credit zero) = if t.recipient ≠ zero ∧ p t.recipient then t.value else 0 := by
  by_cases h : t.recipient = zero
  · simp [Transfer.credit, h]
  · simp [Transfer.credit, h, heldBy_single]

theorem heldBy_debit (p : A → Prop) [DecidablePred p] (t : Transfer A) :
    heldBy p (t.debit zero) = if t.sender ≠ zero ∧ p t.sender then t.value else 0 := by
  by_cases h : t.sender = zero
  · simp [Transfer.debit, h]
  · simp [Transfer.debit, h, heldBy_single]

/-- A set of holders gains what it is credited and loses what it is debited. -/
theorem Moves.heldBy {t : Transfer A} {b b' : Holdings A} (h : Moves zero t b b') (p : A → Prop)
    [DecidablePred p] :
    heldBy p b' + (if t.sender ≠ zero ∧ p t.sender then t.value else 0) =
      heldBy p b + (if t.recipient ≠ zero ∧ p t.recipient then t.value else 0) := by
  have hsum := congrArg (Erc20.heldBy p) h
  rwa [map_add, map_add, heldBy_credit, heldBy_debit] at hsum

theorem Moves.apply {t : Transfer A} {b b' : Holdings A} (h : Moves zero t b b') {a : A}
    (ha : a ≠ zero) : (b' a : ℤ) = b a + t.change a := by
  have happly := DFunLike.congr_fun h a
  rw [Finsupp.add_apply, Finsupp.add_apply] at happly
  have hcredit : t.credit zero a = if t.recipient = a then t.value else 0 := by
    by_cases hr : t.recipient = zero
    · rw [Transfer.credit, if_pos hr, if_neg (by rw [hr]; exact ha.symm), Finsupp.zero_apply]
    · rw [Transfer.credit, if_neg hr, Finsupp.single_apply]
  have hdebit : t.debit zero a = if t.sender = a then t.value else 0 := by
    by_cases hs : t.sender = zero
    · rw [Transfer.debit, if_pos hs, if_neg (by rw [hs]; exact ha.symm), Finsupp.zero_apply]
    · rw [Transfer.debit, if_neg hs, Finsupp.single_apply]
  rw [hcredit, hdebit] at happly
  rw [Transfer.change]
  grind

omit [DecidableEq A] in
/-- Nobody with the property holds anything exactly when they hold nothing together. -/
theorem heldBy_eq_zero_iff (p : A → Prop) [DecidablePred p] (b : Holdings A) :
    heldBy p b = 0 ↔ ∀ a, p a → b a = 0 := by
  rw [heldBy_apply, Finsupp.degree_eq_zero_iff]
  constructor
  · intro h a ha
    rw [← Finsupp.filter_apply_pos p b ha, h, Finsupp.zero_apply]
  · intro h
    ext a
    by_cases ha : p a
    · rw [Finsupp.filter_apply_pos p b ha, h a ha, Finsupp.zero_apply]
    · rw [Finsupp.filter_apply_neg p b ha, Finsupp.zero_apply]

omit [DecidableEq A] in
/-- Distinct holders with a property hold at most what all holders with it hold together. -/
theorem sum_map_le_heldBy (p : A → Prop) [DecidablePred p] (b : Holdings A) {l : List A}
    (hnodup : l.Nodup) (hl : ∀ a ∈ l, p a) : (l.map b).sum ≤ heldBy p b := by
  induction l generalizing b with
  | nil => exact Nat.zero_le _
  | cons a l ih =>
      rw [List.nodup_cons] at hnodup
      have hsplit : b = Finsupp.single a (b a) + b.erase a := (Finsupp.single_add_erase a b).symm
      have hrest : (l.map b).sum = (l.map (b.erase a)).sum := by
        congr 1
        apply List.map_congr_left
        intro x hx
        rw [Finsupp.erase_ne (by rintro rfl; exact hnodup.1 hx)]
      have hle := ih (b.erase a) hnodup.2 (fun x hx => hl x (List.mem_cons_of_mem _ hx))
      rw [List.map_cons, List.sum_cons, hrest]
      calc b a + (l.map (b.erase a)).sum ≤ b a + heldBy p (b.erase a) := by omega
        _ = heldBy p (Finsupp.single a (b a) + b.erase a) := by
            rw [map_add, heldBy_single, if_pos (hl a List.mem_cons_self)]
        _ = heldBy p b := by rw [← hsplit]

/-- A holder sends all it has to another address. -/
theorem moves_all {b : Holdings A} {a r : A} (ha : a ≠ zero) (hr : r ≠ zero) :
    Moves zero ⟨a, r, b a⟩ b (b.erase a + Finsupp.single r (b a)) := by
  have hsplit : Finsupp.single a (b a) + b.erase a = b := Finsupp.single_add_erase a b
  have hdebit : Transfer.debit zero ⟨a, r, b a⟩ = Finsupp.single a (b a) := if_neg ha
  have hcredit : Transfer.credit zero ⟨a, r, b a⟩ = Finsupp.single r (b a) := if_neg hr
  rw [Moves, hdebit, hcredit, add_right_comm, add_comm (b.erase a), hsplit]

theorem moves_mint (b : Holdings A) {r : A} (hr : r ≠ zero) (n : ℕ) :
    Moves zero ⟨zero, r, n⟩ b (b + Finsupp.single r n) := by
  have hdebit : Transfer.debit zero ⟨zero, r, n⟩ = 0 := if_pos rfl
  have hcredit : Transfer.credit zero ⟨zero, r, n⟩ = Finsupp.single r n := if_neg hr
  rw [Moves, hdebit, hcredit, add_zero]

end OlympusMetrics.Erc20
