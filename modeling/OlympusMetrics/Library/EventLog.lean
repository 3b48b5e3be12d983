import OlympusMetrics.Library.EntityTable

/-!
States with a log of their changes.

Every change of a key's state also writes a row, with the value after the change.
A row has an id of its own within its key. A row that is written again moves to the
end, so the last row of a key is always the last one written.
-/

namespace OlympusMetrics.EventLog

variable {E R K P S : Type*} [DecidableEq K] [DecidableEq P]

/-! ### Rows of a key -/

section

variable {id : R → K × P}

/-- The rows of a key, in the order in which they were written. -/
def rowsOf (log : EntityTable id) (key : K) : List R :=
  log.rows.filter (fun row => (id row).1 = key)

omit [DecidableEq P] in
@[simp] theorem rowsOf_empty (key : K) : rowsOf (∅ : EntityTable id) key = [] := rfl

omit [DecidableEq P] in
theorem mem_rowsOf {log : EntityTable id} {key : K} {row : R} :
    row ∈ rowsOf log key ↔ row ∈ log.rows ∧ (id row).1 = key := by
  simp [rowsOf]

variable {log : EntityTable id} {row : R} {key : K}

theorem rowsOf_set_of_ne (h : key ≠ (id row).1) : rowsOf (log.set row) key = rowsOf log key := by
  rw [rowsOf, EntityTable.rows_set, List.filter_append, List.filter_singleton,
    decide_eq_false h.symm, List.filter_filter]
  simp only [cond_false, List.append_nil]
  apply List.filter_congr
  intro other _
  by_cases hkey : (id other).1 = key
  · have hne : id other ≠ id row := fun heq => h (by rw [← hkey, heq])
    simp [hkey, hne]
  · simp [hkey]

/-- A written row is the last one of its key. -/
theorem rowsOf_set_self :
    rowsOf (log.set row) (id row).1 =
      (rowsOf log (id row).1).filter (fun other => id other ≠ id row) ++ [row] := by
  rw [rowsOf, EntityTable.rows_set, List.filter_append, List.filter_singleton,
    decide_eq_true rfl, rowsOf, List.filter_comm]
  rfl

theorem rowsOf_set_of_fresh (h : ∀ other ∈ log.rows, id other ≠ id row) :
    rowsOf (log.set row) (id row).1 = rowsOf log (id row).1 ++ [row] := by
  rw [rowsOf_set_self, List.filter_eq_self.mpr]
  intro other hother
  exact decide_eq_true (h other (mem_rowsOf.mp hother).1)

/-- A row that is written again at once takes the place of the first one. -/
theorem set_set_of_id_eq {row' : R} (h : id row = id row') :
    (log.set row).set row' = log.set row' := by
  apply EntityTable.ext
  rw [EntityTable.rows_set, EntityTable.rows_set, EntityTable.rows_set, List.filter_append,
    List.filter_filter, List.filter_singleton, decide_eq_false (not_not.mpr h)]
  simp only [cond_false, List.append_nil, h, Bool.and_self]

end

/-! ### Journals -/

/-- How states and rows of changes are stored and what a change does. -/
structure Journal (E R K P S : Type*) where
  key : E → K
  id : R → K × P
  state : E → S
  value : R → S
  block : R → ℕ
  next : S → R → S
  start : S

/-- The states and the log. -/
structure Tables (journal : Journal E R K P S) where
  states : EntityTable journal.key
  log : EntityTable journal.id

namespace Tables

variable {journal : Journal E R K P S}

def empty : Tables journal := ⟨∅, ∅⟩

/-- The stored value of a key. -/
def value (tables : Tables journal) (key : K) : S :=
  ((tables.states.get key).map journal.state).getD journal.start

end Tables

section

variable (journal : Journal E R K P S)

/-- The value after some rows. -/
def after (start : S) (rows : List R) : S := (rows.getLast?.map journal.value).getD start

/-- The value of every row follows from that of the row before it. -/
def Chained : S → List R → Prop
  | _, [] => True
  | start, row :: rows => journal.value row = journal.next start row ∧
      Chained (journal.value row) rows

/-- The value of a key at the end of a block, as the log tells it. -/
def valueAt (log : EntityTable journal.id) (key : K) (last : ℕ) : S :=
  after journal journal.start ((rowsOf log key).filter (fun row => journal.block row ≤ last))

/-- The rows are written one after the other, each with the state of its key. -/
inductive Records : Tables journal → List R → Tables journal → Prop
  | nil {tables} : Records tables [] tables
  | cons {tables rows tables'} (entity : E) (row : R) : journal.key entity = (journal.id row).1 →
      journal.state entity = journal.value row →
      journal.value row = journal.next (tables.value (journal.key entity)) row →
      Records ⟨tables.states.set entity, tables.log.set row⟩ rows tables' →
      Records tables (row :: rows) tables'

omit [DecidableEq K] [DecidableEq P] in
@[simp] theorem after_nil (start : S) : after journal start [] = start := rfl

omit [DecidableEq K] [DecidableEq P] in
@[simp] theorem after_append_singleton (start : S) (rows : List R) (row : R) :
    after journal start (rows ++ [row]) = journal.value row := by
  simp [after]

omit [DecidableEq K] [DecidableEq P] in
theorem chained_append_singleton (start : S) (rows : List R) (row : R) :
    Chained journal start (rows ++ [row]) ↔ Chained journal start rows ∧
      journal.value row = journal.next (after journal start rows) row := by
  induction rows generalizing start with
  | nil => simp [Chained]
  | cons first rows ih =>
      have hafter : after journal start (first :: rows) =
          after journal (journal.value first) rows := by
        rw [after, after, List.getLast?_cons]
        cases rows.getLast? <;> rfl
      rw [List.cons_append, Chained, Chained, ih, hafter, and_assoc]

end

namespace Records

variable {journal : Journal E R K P S} {tables tables' tables'' : Tables journal} {rows rows' : List R}

theorem append (h : Records journal tables rows tables')
    (h' : Records journal tables' rows' tables'') :
    Records journal tables (rows ++ rows') tables'' := by
  induction h with
  | nil => exact h'
  | cons entity row hkey hstate hvalue _ ih => exact .cons entity row hkey hstate hvalue (ih h')

/-- Every row of the log is an earlier one or has been written. -/
theorem mem_log (h : Records journal tables rows tables') {row : R}
    (hrow : row ∈ tables'.log.rows) : row ∈ tables.log.rows ∨ row ∈ rows := by
  induction h with
  | nil => exact Or.inl hrow
  | cons entity first _ _ _ _ ih =>
      rcases ih hrow with hrow | hrow
      · rcases EntityTable.mem_rows_set.mp hrow with rfl | ⟨hrow, -⟩
        · exact Or.inr List.mem_cons_self
        · exact Or.inl hrow
      · exact Or.inr (List.mem_cons_of_mem _ hrow)

/-- A row stays in the log, where every row with the id of a written one is this row. -/
theorem stays (h : Records journal tables rows tables')
    (hagree : ∀ row ∈ rows, ∀ other, other ∈ tables.log.rows ∨ other ∈ rows →
      journal.id other = journal.id row → other = row) {row : R}
    (hrow : row ∈ tables.log.rows ∨ row ∈ rows) : row ∈ tables'.log.rows := by
  induction h with
  | nil => exact hrow.resolve_right (fun h => by cases h)
  | @cons tables rows tables' entity first _ _ _ _ ih =>
      have hset {other : R} (hother : other ∈ tables.log.rows ∨ other ∈ first :: rows) :
          other ∈ (tables.log.set first).rows ∨ other ∈ rows := by
        rcases hother with hother | hother
        · left
          rw [EntityTable.mem_rows_set]
          by_cases hid : journal.id other = journal.id first
          · exact Or.inl (hagree first List.mem_cons_self other (Or.inl hother) hid)
          · exact Or.inr ⟨hother, hid⟩
        · rcases List.mem_cons.mp hother with rfl | hother
          · exact Or.inl (EntityTable.mem_rows_set.mpr (Or.inl rfl))
          · exact Or.inr hother
      refine ih (fun row' hrow' other hother hid => ?_) (hset hrow)
      refine hagree row' (List.mem_cons_of_mem _ hrow') other ?_ hid
      rcases hother with hother | hother
      · rcases EntityTable.mem_rows_set.mp hother with rfl | ⟨hother, -⟩
        · exact Or.inr List.mem_cons_self
        · exact Or.inl hother
      · exact Or.inr (List.mem_cons_of_mem _ hother)

end Records

/-! ### Loops -/

/-- The rows of a loop, as each iteration has the rows of its state and its item. -/
def loopRows {A X : Type*} (step : A → X → A) (rows : A → X → List R) : A → List X → List R
  | _, [] => []
  | state, item :: items => rows state item ++ loopRows step rows (step state item) items

/-! ### The last row -/

/-- Every key has the state of its last row. -/
def Points (journal : Journal E R K P S) (tables : Tables journal) : Prop :=
  ∀ key, tables.value key = after journal journal.start (rowsOf tables.log key)

section

variable {journal : Journal E R K P S} {tables tables' : Tables journal} {rows : List R}

omit [DecidableEq P] in
theorem points_empty : Points journal Tables.empty := fun _ => rfl

theorem Points.set (h : Points journal tables) {entity : E} {row : R}
    (hkey : journal.key entity = (journal.id row).1)
    (hstate : journal.state entity = journal.value row) :
    Points journal ⟨tables.states.set entity, tables.log.set row⟩ := by
  intro key
  by_cases heq : key = journal.key entity
  · subst heq
    rw [Tables.value, EntityTable.get_set_self, hkey, rowsOf_set_self, after_append_singleton]
    exact hstate
  · rw [Tables.value, EntityTable.get_set_of_ne _ heq, rowsOf_set_of_ne (hkey ▸ heq)]
    exact h key

theorem Records.points (h : Records journal tables rows tables') (hpoints : Points journal tables) :
    Points journal tables' := by
  induction h with
  | nil => exact hpoints
  | cons entity row hkey hstate _ _ ih => exact ih (hpoints.set hkey hstate)

/-! ### Chains -/

/-- A row with a new id extends the chain of its key. -/
theorem chained_set_of_fresh (hpoints : Points journal tables) {entity : E} {row : R}
    (hkey : journal.key entity = (journal.id row).1)
    (hvalue : journal.value row = journal.next (tables.value (journal.key entity)) row)
    (hfresh : ∀ other ∈ tables.log.rows, journal.id other ≠ journal.id row) (key : K) :
    Chained journal journal.start (rowsOf (tables.log.set row) key) ↔
      Chained journal journal.start (rowsOf tables.log key) := by
  by_cases heq : key = (journal.id row).1
  · subst heq
    rw [rowsOf_set_of_fresh hfresh, chained_append_singleton, ← hpoints, ← hkey]
    exact and_iff_left hvalue
  · rw [rowsOf_set_of_ne heq]

/-- Rows with new ids extend the chains. -/
theorem Records.chained_iff (h : Records journal tables rows tables')
    (hpoints : Points journal tables) (hnodup : (rows.map journal.id).Nodup)
    (hfresh : ∀ row ∈ rows, ∀ other ∈ tables.log.rows, journal.id other ≠ journal.id row) (key : K) :
    Chained journal journal.start (rowsOf tables'.log key) ↔
      Chained journal journal.start (rowsOf tables.log key) := by
  induction h with
  | nil => rfl
  | @cons tables rows tables' entity row hkey hstate hvalue _ ih =>
      rw [List.map_cons, List.nodup_cons] at hnodup
      have hrest : ∀ row' ∈ rows, ∀ other ∈ (tables.log.set row).rows,
          journal.id other ≠ journal.id row' := by
        intro row' hrow' other hother
        rcases EntityTable.mem_rows_set.mp hother with rfl | ⟨hother, -⟩
        · exact fun heq => hnodup.1 (heq ▸ List.mem_map_of_mem hrow')
        · exact hfresh row' (List.mem_cons_of_mem _ hrow') other hother
      rw [ih (hpoints.set hkey hstate) hnodup.2 hrest]
      exact chained_set_of_fresh hpoints hkey hvalue (hfresh row List.mem_cons_self) key

/-- Of two rows with one new id the second one stays, and the chain goes on if its value follows from
that before both. -/
theorem Records.chained_pair_iff {row row' : R} (h : Records journal tables [row, row'] tables')
    (hpoints : Points journal tables) (hid : journal.id row = journal.id row')
    (hfresh : ∀ other ∈ tables.log.rows, journal.id other ≠ journal.id row) (key : K) :
    Chained journal journal.start (rowsOf tables'.log key) ↔
      Chained journal journal.start (rowsOf tables.log key) ∧
        (key = (journal.id row).1 →
          journal.next (journal.next (tables.value key) row) row' =
            journal.next (tables.value key) row') := by
  cases h with
  | cons entity _ hkey hstate hvalue h =>
      cases h with
      | cons entity' _ hkey' hstate' hvalue' h =>
          cases h
          have hsame : journal.key entity' = journal.key entity := by rw [hkey', hkey, hid]
          have hbefore : journal.value row' = journal.next (journal.next
              (tables.value (journal.key entity)) row) row' := by
            rw [hvalue', ← hvalue, ← hstate, hsame, Tables.value, EntityTable.get_set_self]
            rfl
          rw [set_set_of_id_eq hid]
          by_cases heq : key = (journal.id row).1
          · subst heq
            have hrows : rowsOf (tables.log.set row') (journal.id row').1 =
                rowsOf tables.log (journal.id row').1 ++ [row'] :=
              rowsOf_set_of_fresh (fun other hother => hid ▸ hfresh other hother)
            rw [← hid] at hrows
            rw [hrows, chained_append_singleton, ← hpoints, hbefore, hkey]
            exact and_congr_right (fun _ => ⟨fun hnext _ => hnext, fun hnext => hnext rfl⟩)
          · rw [rowsOf_set_of_ne (hid ▸ heq)]
            exact (and_iff_left (fun hkey => absurd hkey heq)).symm

/-! ### Earlier blocks -/

/-- A row of a later block changes no earlier value. -/
theorem valueAt_set_of_lt {log : EntityTable journal.id} {row : R} {key : K} {last : ℕ}
    (hlater : (journal.id row).1 = key → last < journal.block row)
    (hsame : ∀ other ∈ log.rows, journal.id other = journal.id row →
      (journal.id row).1 = key → last < journal.block other) :
    valueAt journal (log.set row) key last = valueAt journal log key last := by
  by_cases h : key = (journal.id row).1
  · subst h
    have hrow : ¬journal.block row ≤ last := Nat.not_le.mpr (hlater rfl)
    rw [valueAt, rowsOf_set_self, List.filter_append, List.filter_singleton,
      decide_eq_false hrow, List.filter_filter]
    simp only [cond_false, List.append_nil]
    rw [valueAt]
    congr 1
    apply List.filter_congr
    intro other hother
    rw [Bool.eq_iff_iff]
    simp only [Bool.and_eq_true, decide_eq_true_eq, and_iff_left_iff_imp]
    intro hle heq
    exact absurd hle (Nat.not_le.mpr (hsame other (mem_rowsOf.mp hother).1 heq rfl))
  · rw [valueAt, rowsOf_set_of_ne h]
    rfl

/-- Rows of later blocks change no earlier value, where rows with one id are of one block. -/
theorem Records.valueAt_eq (h : Records journal tables rows tables') {key : K} {last : ℕ}
    (hlater : ∀ row ∈ rows, (journal.id row).1 = key → last < journal.block row)
    (hsame : ∀ row ∈ rows, ∀ other ∈ tables.log.rows, journal.id other = journal.id row →
      (journal.id row).1 = key → last < journal.block other) :
    valueAt journal tables'.log key last = valueAt journal tables.log key last := by
  induction h with
  | nil => rfl
  | @cons tables rows tables' entity row hkey _ _ _ ih =>
      rw [ih (fun row' hrow' => hlater row' (List.mem_cons_of_mem _ hrow')) ?_]
      · exact valueAt_set_of_lt (hlater row List.mem_cons_self) (hsame row List.mem_cons_self)
      · intro row' hrow' other hother hid hkey'
        rcases EntityTable.mem_rows_set.mp hother with rfl | ⟨hother, -⟩
        · exact hlater other List.mem_cons_self (by rw [hid]; exact hkey')
        · exact hsame row' (List.mem_cons_of_mem _ hrow') other hother hid hkey'

omit [DecidableEq P] in
/-- While no block is later, the log tells the stored value. -/
theorem Points.valueAt_eq (h : Points journal tables) {key : K} {last : ℕ}
    (hblocks : ∀ row ∈ rowsOf tables.log key, journal.block row ≤ last) :
    valueAt journal tables.log key last = tables.value key := by
  rw [valueAt, List.filter_eq_self.mpr (fun row hrow => decide_eq_true (hblocks row hrow)), h]

end

end OlympusMetrics.EventLog
