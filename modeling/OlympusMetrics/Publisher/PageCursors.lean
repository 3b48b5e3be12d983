import OlympusMetrics.Publisher.HasuraSource

/-!
Reads in pages, one request at a time.

A read has a row, or it has still to come to the row's place. This stays so while
pages are received and while rows are added to the table, so no row is missed that
is there before the read comes to its place.
-/

namespace OlympusMetrics.Publisher

open MetricsSource OffsetPages

/-! ### A read in pages -/

/-- A read between two of its requests. -/
structure PageCursor (V : Type) where
  offset : ℕ
  rows : List V
  done : Bool

namespace PageCursor

variable {V : Type}

def start : PageCursor V := ⟨0, [], false⟩

/-- What the loop of `paginate` makes of a page. -/
def receive (cursor : PageCursor V) (pageSize : ℕ) (batch : List V) : PageCursor V :=
  if batch.length < pageSize then { cursor with rows := cursor.rows ++ batch, done := true }
  else { cursor with offset := cursor.offset + pageSize, rows := cursor.rows ++ batch }

theorem rows_receive (cursor : PageCursor V) (pageSize : ℕ) (batch : List V) :
    (cursor.receive pageSize batch).rows = cursor.rows ++ batch := by
  rw [receive]
  split
  · rfl
  · rfl

theorem done_receive {cursor : PageCursor V} (h : cursor.done = false) (pageSize : ℕ)
    (batch : List V) :
    (cursor.receive pageSize batch).done = decide (batch.length < pageSize) := by
  rw [receive]
  split
  · next hshort => exact (decide_eq_true hshort).symm
  · next hfull => exact h.trans (decide_eq_false hfull).symm

section

variable {D I F : Type} [LinearOrder D] [LinearOrder I]

/-- A read over the tables that its requests meet, for at most so many requests. -/
def advance (pageSize : ℕ) (start stop : D) (tables : ℕ → SourceTable D I F) :
    ℕ → ℕ → PageCursor (SourceRow D I F) → PageCursor (SourceRow D I F)
  | 0, _, cursor => cursor
  | fuel + 1, request, cursor =>
      if cursor.done then cursor
      else advance pageSize start stop tables fuel (request + 1)
        (cursor.receive pageSize (queryPage pageSize cursor.offset start stop (tables request)))

theorem advance_of_done {cursor : PageCursor (SourceRow D I F)} (h : cursor.done = true)
    (pageSize : ℕ) (start stop : D) (tables : ℕ → SourceTable D I F) (fuel request : ℕ) :
    advance pageSize start stop tables fuel request cursor = cursor := by
  cases fuel with
  | zero => rfl
  | succ fuel => rw [advance, if_pos h]

/-- `paginate` returns what its read has when it is done. -/
theorem paginateFrom_eq_advance {cursor : PageCursor (SourceRow D I F)} (h : cursor.done = false)
    (pageSize : ℕ) (start stop : D) (tables : ℕ → SourceTable D I F) (fuel request : ℕ) :
    paginateFrom pageSize start stop tables fuel request cursor.offset cursor.rows =
      if (advance pageSize start stop tables fuel request cursor).done then
        some (advance pageSize start stop tables fuel request cursor).rows
      else none := by
  induction fuel generalizing request cursor with
  | zero => simp [paginateFrom, advance, h]
  | succ fuel ih =>
      have hturn : advance pageSize start stop tables (fuel + 1) request cursor =
          advance pageSize start stop tables fuel (request + 1) (cursor.receive pageSize
            (queryPage pageSize cursor.offset start stop (tables request))) := by
        rw [advance, if_neg (by simp [h])]
      rw [hturn, paginateFrom]
      by_cases hshort :
          (queryPage pageSize cursor.offset start stop (tables request)).length < pageSize
      · have hdone : (cursor.receive pageSize
            (queryPage pageSize cursor.offset start stop (tables request))).done = true := by
          rw [done_receive h, decide_eq_true hshort]
        rw [if_pos hshort, advance_of_done hdone, if_pos hdone, rows_receive]
      · have hopen : (cursor.receive pageSize
            (queryPage pageSize cursor.offset start stop (tables request))).done = false := by
          rw [done_receive h, decide_eq_false hshort]
        rw [if_neg hshort, ← ih hopen (request + 1), receive, if_neg hshort]

end

end PageCursor

/-! ### Places in a range -/

section

variable {V : Type} {id : V → String} (date : V → String) (table : EntityTable id)
  (range : DateRange)

/-- What the rows of a range are ordered by. -/
def keysOfRange : List (String ×ₗ String) :=
  (rowsOfRange date table range.start range.stop).map (fun row => toLex (date row, id row))

/-- How many rows of the range come before a row. -/
def placeOf (row : V) : ℕ := rank (toLex (date row, id row)) (keysOfRange date table range)

/-- The answer to the query of a page. -/
def pageRows (limit offset : ℕ) : List V :=
  (queryPage limit offset range.start range.stop (sourceTable date table)).map SourceRow.fields

/-- The read has still to come to the place of a row. -/
def PageCursor.IsAhead {W : Type} (cursor : PageCursor W) (row : V) : Prop :=
  cursor.done = false ∧ cursor.offset ≤ placeOf date table range row

/-- The read has a row, or has still to come to its place. -/
def PageCursor.Covers (cursor : PageCursor V) (row : V) : Prop :=
  row ∈ cursor.rows ∨ cursor.IsAhead date table range row

end

section

variable {V : Type} {id : V → String} {date : V → String} {table table' : EntityTable id}
  {range : DateRange} {limit offset pageSize : ℕ} {row : V} {cursor : PageCursor V}

theorem pageRows_eq :
    pageRows date table range limit offset =
      ((rowsOfRange date table range.start range.stop).drop offset).take limit := by
  rw [pageRows, queryPage, rowsOfRange, List.map_take, List.map_drop]

theorem sorted_keysOfRange : (keysOfRange date table range).Pairwise (· < ·) :=
  List.pairwise_map.mpr sorted_rowsOfRange

/-- A page has the rows whose places it spans. -/
theorem mem_pageRows_iff : row ∈ pageRows date table range limit offset ↔
    row ∈ rowsOfRange date table range.start range.stop ∧
      offset ≤ placeOf date table range row ∧ placeOf date table range row < offset + limit := by
  have hkeys : (pageRows date table range limit offset).map
      (fun row => (toLex (date row, id row) : String ×ₗ String)) =
        page limit offset (keysOfRange date table range) := by
    rw [pageRows_eq, List.map_take, List.map_drop]
    rfl
  have hpage := mem_page_iff (x := toLex (date row, id row))
    (@sorted_keysOfRange V id date table range) limit offset
  constructor
  · intro hrow
    obtain ⟨-, hplace⟩ := hpage.mp (hkeys ▸ List.mem_map_of_mem hrow)
    rw [pageRows_eq] at hrow
    exact ⟨List.mem_of_mem_drop (List.mem_of_mem_take hrow), hplace⟩
  · rintro ⟨hrow, hplace⟩
    have hmem := hpage.mpr ⟨List.mem_map_of_mem hrow, hplace⟩
    rw [← hkeys] at hmem
    obtain ⟨row', hrow', hkey⟩ := List.mem_map.mp hmem
    have hsame : row' = row := by
      have hin := hrow'
      rw [pageRows_eq] at hin
      exact EntityTable.eq_of_mem_of_id_eq
        (mem_rowsOfRange.mp (List.mem_of_mem_drop (List.mem_of_mem_take hin))).1
        (mem_rowsOfRange.mp hrow).1 (Prod.mk.inj (toLex.injective hkey)).2
    exact hsame ▸ hrow'

/-- A page that comes short of its limit is the last one. -/
theorem placeOf_lt_of_short (hrow : row ∈ rowsOfRange date table range.start range.stop)
    (hshort : (pageRows date table range limit offset).length < limit) :
    placeOf date table range row < offset + limit := by
  have hlt : placeOf date table range row < (keysOfRange date table range).length :=
    rank_lt_length (List.mem_map_of_mem hrow)
  rw [keysOfRange, List.length_map] at hlt
  rw [pageRows_eq, List.length_take, List.length_drop] at hshort
  omega

/-- A read that receives a page leaves out no row that it has still to come to. -/
theorem PageCursor.Covers.receive (h : cursor.Covers date table range row)
    (hrow : row ∈ rowsOfRange date table range.start range.stop) :
    (cursor.receive pageSize (pageRows date table range pageSize cursor.offset)).Covers date table
      range row := by
  rcases h with h | ⟨hdone, hplace⟩
  · exact Or.inl (by rw [rows_receive]; exact List.mem_append_left _ h)
  · by_cases hlt : placeOf date table range row < cursor.offset + pageSize
    · refine Or.inl ?_
      rw [rows_receive]
      exact List.mem_append_right _ (mem_pageRows_iff.mpr ⟨hrow, hplace, hlt⟩)
    · have hfull : ¬(pageRows date table range pageSize cursor.offset).length < pageSize :=
        fun hshort => hlt (placeOf_lt_of_short hrow hshort)
      refine Or.inr ?_
      rw [PageCursor.receive, if_neg hfull]
      exact ⟨hdone, not_lt.mp hlt⟩

/-- Rows that are added to a table only raise the places of the others. -/
theorem placeOf_mono (h : table.rows ⊆ table'.rows) (row : V) :
    placeOf date table range row ≤ placeOf date table' range row := by
  refine rank_mono sorted_keysOfRange (fun key hkey => ?_) _
  obtain ⟨kept, hkept, rfl⟩ := List.mem_map.mp hkey
  obtain ⟨hmem, hbounds⟩ := mem_rowsOfRange.mp hkept
  exact List.mem_map_of_mem (mem_rowsOfRange.mpr ⟨h hmem, hbounds⟩)

theorem PageCursor.Covers.grow (h : cursor.Covers date table range row)
    (hsub : table.rows ⊆ table'.rows) : cursor.Covers date table' range row :=
  h.imp_right (fun hahead => ⟨hahead.1, hahead.2.trans (placeOf_mono hsub row)⟩)

theorem PageCursor.Covers.mem (h : cursor.Covers date table range row)
    (hdone : cursor.done = true) : row ∈ cursor.rows := by
  rcases h with h | hahead
  · exact h
  · cases hdone.symm.trans hahead.1

end

end OlympusMetrics.Publisher
