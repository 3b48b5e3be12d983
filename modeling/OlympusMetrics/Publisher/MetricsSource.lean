import OlympusMetrics.Library.EntityTable
import OlympusMetrics.Library.OffsetPages
import Mathlib.Data.Prod.Lex
import Mathlib.Data.List.Count
import Mathlib.Data.String.Basic

/-!
The publisher's paginated reads of a table that the indexer keeps writing.

Dates and ids are of any ordered type: the table's service compares them in one
order for all pages.
-/

namespace OlympusMetrics.Publisher.MetricsSource

open OffsetPages

variable {D I F : Type} [LinearOrder D] [LinearOrder I]

/-- A row with the fields that no query orders or filters by. -/
structure SourceRow (D I F : Type) where
  date : D
  id : I
  fields : F

abbrev SourceTable (D I F : Type) := EntityTable (V := SourceRow D I F) SourceRow.id

/-- What the indexer does to a table between two requests. -/
inductive TableChange (D I F : Type)
  | insert (row : SourceRow D I F)
  | update (id : I) (fields : F)

/-- An id that is taken is not inserted again, and an update keeps the date. -/
def applyChange (table : SourceTable D I F) : TableChange D I F → SourceTable D I F
  | .insert row =>
      match table.get row.id with
      | none => table.set row
      | some _ => table
  | .update id fields =>
      match table.get id with
      | none => table
      | some row => table.set { row with fields := fields }

def applyChanges (table : SourceTable D I F) (changes : List (TableChange D I F)) :
    SourceTable D I F :=
  changes.foldl applyChange table

/-- `order_by: { date: asc, id: asc }`. -/
def SourceRow.key (row : SourceRow D I F) : D ×ₗ I := toLex (row.date, row.id)

/-- The rows of a date range in the order of the query. -/
def selectRange (start stop : D) (table : SourceTable D I F) : List (SourceRow D I F) :=
  (table.rows.filter (fun row => start ≤ row.date ∧ row.date ≤ stop)).insertionSort
    (fun row row' => row.key ≤ row'.key)

/-- The answer to one page query. -/
def queryPage (limit offset : ℕ) (start stop : D) (table : SourceTable D I F) :
    List (SourceRow D I F) :=
  ((selectRange start stop table).drop offset).take limit

/-- The loop of `paginate` over the tables that its requests meet. -/
def paginateFrom (pageSize : ℕ) (start stop : D) (tables : ℕ → SourceTable D I F) :
    ℕ → ℕ → ℕ → List (SourceRow D I F) → Option (List (SourceRow D I F))
  | 0, _, _, _ => none
  | fuel + 1, request, offset, rows =>
      let batch := queryPage pageSize offset start stop (tables request)
      if batch.length < pageSize then some (rows ++ batch)
      else paginateFrom pageSize start stop tables fuel (request + 1) (offset + pageSize)
        (rows ++ batch)

/-- A paginated read: the table at its first request, and what the indexer does after each. -/
structure PagedRead (D I F : Type) where
  pageSize : ℕ
  start : D
  stop : D
  initial : SourceTable D I F
  changes : ℕ → List (TableChange D I F)
  pageSize_pos : 1 ≤ pageSize

namespace PagedRead

/-- The table at each request. -/
def table (r : PagedRead D I F) : ℕ → SourceTable D I F
  | 0 => r.initial
  | k + 1 => applyChanges (r.table k) (r.changes k)

variable (r : PagedRead D I F)

/-- The rows of the range at each request. -/
def rowsAt (k : ℕ) : List (SourceRow D I F) := selectRange r.start r.stop (r.table k)

/-- `paginate`. -/
def paginate (fuel : ℕ) : Option (List (SourceRow D I F)) :=
  paginateFrom r.pageSize r.start r.stop r.table fuel 0 0 []

/-- The read ends with some rows. -/
def Returns (rows : List (SourceRow D I F)) : Prop := ∃ fuel, r.paginate fuel = some rows

end PagedRead

/-! ### What changes leave of a table -/

/-- Every row keeps its id and its date. -/
def KeepsRows (table table' : SourceTable D I F) : Prop :=
  ∀ row ∈ table.rows, ∃ row' ∈ table'.rows, row'.id = row.id ∧ row'.date = row.date

omit [LinearOrder D] [LinearOrder I] in
theorem KeepsRows.refl (table : SourceTable D I F) : KeepsRows table table :=
  fun row hrow => ⟨row, hrow, rfl, rfl⟩

omit [LinearOrder D] [LinearOrder I] in
theorem KeepsRows.trans {table table' table'' : SourceTable D I F} (h : KeepsRows table table')
    (h' : KeepsRows table' table'') : KeepsRows table table'' := by
  intro row hrow
  obtain ⟨row', hrow', hid, hdate⟩ := h row hrow
  obtain ⟨row'', hrow'', hid', hdate'⟩ := h' row' hrow'
  exact ⟨row'', hrow'', hid'.trans hid, hdate'.trans hdate⟩

omit [LinearOrder D] in
theorem keepsRows_applyChange (table : SourceTable D I F) (change : TableChange D I F) :
    KeepsRows table (applyChange table change) := by
  cases change with
  | insert row =>
      simp only [applyChange]
      cases hget : table.get row.id with
      | some _ => exact .refl table
      | none =>
          intro kept hkept
          have hne := EntityTable.get_eq_none_iff.mp hget kept hkept
          exact ⟨kept, EntityTable.mem_rows_set.mpr (Or.inr ⟨hkept, hne⟩), rfl, rfl⟩
  | update id fields =>
      simp only [applyChange]
      cases hget : table.get id with
      | none => exact .refl table
      | some row =>
          obtain ⟨hrow, hid⟩ := EntityTable.get_eq_some_iff.mp hget
          intro kept hkept
          by_cases heq : kept.id = row.id
          · obtain rfl := EntityTable.eq_of_mem_of_id_eq hkept hrow heq
            exact ⟨_, EntityTable.mem_rows_set.mpr (Or.inl rfl), rfl, rfl⟩
          · exact ⟨kept, EntityTable.mem_rows_set.mpr (Or.inr ⟨hkept, heq⟩), rfl, rfl⟩

omit [LinearOrder D] in
theorem keepsRows_applyChanges (table : SourceTable D I F) (changes : List (TableChange D I F)) :
    KeepsRows table (applyChanges table changes) := by
  induction changes generalizing table with
  | nil => exact .refl table
  | cons change changes ih => exact (keepsRows_applyChange table change).trans (ih _)

/-! ### The selected rows -/

section select

variable {start stop : D} {table table' : SourceTable D I F}

theorem mem_selectRange {row : SourceRow D I F} : row ∈ selectRange start stop table ↔
    row ∈ table.rows ∧ start ≤ row.date ∧ row.date ≤ stop := by
  simp [selectRange, (List.perm_insertionSort _ _).mem_iff]

/-- The selected keys are strictly sorted: the rows are sorted and their ids differ. -/
theorem sorted_selectRange :
    ((selectRange start stop table).map SourceRow.key).Pairwise (· < ·) := by
  have hsorted : (selectRange start stop table).Pairwise (fun row row' => row.key ≤ row'.key) :=
    List.pairwise_insertionSort _ _
  have hnodup : ((selectRange start stop table).map SourceRow.id).Nodup := by
    have hperm := (List.perm_insertionSort (fun row row' : SourceRow D I F => row.key ≤ row'.key)
      (table.rows.filter (fun row => start ≤ row.date ∧ row.date ≤ stop))).map SourceRow.id
    exact hperm.nodup_iff.mpr (table.nodup_ids.sublist (List.filter_sublist.map _))
  rw [List.pairwise_map]
  refine (hsorted.and (List.pairwise_map.mp hnodup)).imp (fun {row row'} h => ?_)
  refine lt_of_le_of_ne h.1 (fun heq => h.2 ?_)
  exact (Prod.mk.inj (toLex.injective heq)).2

theorem keys_subset (h : KeepsRows table table') :
    (selectRange start stop table).map SourceRow.key ⊆
      (selectRange start stop table').map SourceRow.key := by
  intro key hkey
  obtain ⟨row, hrow, rfl⟩ := List.mem_map.mp hkey
  obtain ⟨hmem, hstart, hstop⟩ := mem_selectRange.mp hrow
  obtain ⟨row', hmem', hid, hdate⟩ := h row hmem
  refine List.mem_map.mpr ⟨row', mem_selectRange.mpr ⟨hmem', ?_⟩, ?_⟩
  · rw [hdate]
    exact ⟨hstart, hstop⟩
  · rw [SourceRow.key, hid, hdate]
    rfl

theorem map_queryPage (limit offset : ℕ) :
    (queryPage limit offset start stop table).map SourceRow.key =
      page limit offset ((selectRange start stop table).map SourceRow.key) := by
  simp only [queryPage, page, List.map_take, List.map_drop]

end select

namespace PagedRead

variable (r : PagedRead D I F)

/-- The keys of the range at each request. -/
def keysAt (k : ℕ) : List (D ×ₗ I) := (r.rowsAt k).map SourceRow.key

theorem growing : Growing r.keysAt where
  sorted _ := sorted_selectRange
  keeps _ := keys_subset (keepsRows_applyChanges _ _)

omit [LinearOrder D] in
theorem keepsRows_table {j k : ℕ} (h : j ≤ k) : KeepsRows (r.table j) (r.table k) := by
  obtain ⟨rest, rfl⟩ := Nat.exists_eq_add_of_le h
  induction rest with
  | zero => exact .refl _
  | succ rest ih => exact (ih (by omega)).trans (keepsRows_applyChanges _ _)

/-- The rows of the pages from one request on. -/
def pagesFrom (request count : ℕ) : List (SourceRow D I F) :=
  (List.range count).flatMap (fun k =>
    queryPage r.pageSize ((request + k) * r.pageSize) r.start r.stop (r.table (request + k)))

theorem pagesFrom_succ (request count : ℕ) : r.pagesFrom request (count + 1) =
    queryPage r.pageSize (request * r.pageSize) r.start r.stop (r.table request) ++
      r.pagesFrom (request + 1) count := by
  simp only [pagesFrom, List.range_succ_eq_map, List.flatMap_cons, List.flatMap_map, Nat.add_zero]
  congr 1
  apply List.flatMap_congr
  intro k _
  rw [show request + (k + 1) = request + 1 + k by omega]

theorem length_page_lt_iff (k : ℕ) :
    (queryPage r.pageSize (k * r.pageSize) r.start r.stop (r.table k)).length < r.pageSize ↔
      (r.rowsAt k).length < (k + 1) * r.pageSize := by
  have hpos := r.pageSize_pos
  simp only [queryPage, List.length_take, List.length_drop, Nat.succ_mul]
  show min r.pageSize ((r.rowsAt k).length - k * r.pageSize) < r.pageSize ↔ _
  omega

/-- The loop ends at the first page that is not full. -/
theorem paginateFrom_eq (count request : ℕ)
    (hfull : ∀ k < count, (request + k + 1) * r.pageSize ≤ (r.rowsAt (request + k)).length)
    (hlast : (r.rowsAt (request + count)).length < (request + count + 1) * r.pageSize)
    (fuel : ℕ) (rows : List (SourceRow D I F)) :
    paginateFrom r.pageSize r.start r.stop r.table fuel request (request * r.pageSize) rows =
      if count < fuel then some (rows ++ r.pagesFrom request (count + 1)) else none := by
  induction count generalizing request fuel rows with
  | zero =>
      cases fuel with
      | zero => rfl
      | succ fuel =>
          rw [paginateFrom]
          rw [if_pos ((r.length_page_lt_iff request).mpr hlast), if_pos (Nat.succ_pos fuel),
            pagesFrom_succ]
          simp [pagesFrom]
  | succ count ih =>
      cases fuel with
      | zero => rfl
      | succ fuel =>
          have hnot : ¬ (queryPage r.pageSize (request * r.pageSize) r.start r.stop
              (r.table request)).length < r.pageSize := by
            rw [r.length_page_lt_iff]
            exact not_lt.mpr (hfull 0 (Nat.succ_pos count))
          have hoffset : request * r.pageSize + r.pageSize = (request + 1) * r.pageSize :=
            (Nat.succ_mul _ _).symm
          have hshift (k : ℕ) : request + 1 + k = request + (k + 1) := by omega
          rw [paginateFrom]
          rw [if_neg hnot, hoffset, ih (request + 1) ?_ ?_, pagesFrom_succ r request,
            List.append_assoc]
          · simp only [Nat.add_lt_add_iff_right]
          · intro k hk
            rw [hshift]
            exact hfull (k + 1) (by omega)
          · rw [hshift]
            exact hlast

/-- At some request the page is not full. It is so as soon as the indexer stops inserting. -/
def Finishes : Prop := ∃ k, (r.rowsAt k).length < (k + 1) * r.pageSize

theorem finishes_of_bounded {bound : ℕ} (h : ∀ k, (r.rowsAt k).length ≤ bound) : r.Finishes := by
  refine ⟨bound, (h bound).trans_lt ?_⟩
  have hmul := Nat.le_mul_of_pos_right (bound + 1) r.pageSize_pos
  omega

/-- The pages up to a request were full, so that another one follows it. -/
def Continues (k : ℕ) : Prop := ∀ j ≤ k, (j + 1) * r.pageSize ≤ (r.rowsAt j).length

/-- Every row of the range that was there at the first request is returned once, and no row is
returned twice. -/
structure Exact (rows : List (SourceRow D I F)) : Prop where
  once : ∀ row ∈ r.rowsAt 0, (rows.map (·.id)).count row.id = 1
  nodup : (rows.map (·.id)).Nodup

/-- A row that is inserted between two requests has as many rows of the range before it as were
requested so far. -/
def InsertsBehind : Prop :=
  ∀ k, r.Continues k → ∀ row ∈ r.rowsAt (k + 1), row.id ∉ (r.rowsAt k).map (·.id) →
    (k + 1) * r.pageSize ≤ ((r.rowsAt k).filter (fun row' => row'.key < row.key)).length

/-- Of two rows of the range, at any two requests, the ids agree exactly if the keys do. -/
theorem id_eq_iff_key_eq {j k : ℕ} {row row' : SourceRow D I F} (hrow : row ∈ r.rowsAt j)
    (hrow' : row' ∈ r.rowsAt k) : row.id = row'.id ↔ row.key = row'.key := by
  constructor
  · intro hid
    obtain ⟨kept, hkept, hkeptId, hkeptDate⟩ :=
      r.keepsRows_table (le_max_left j k) row (mem_selectRange.mp hrow).1
    obtain ⟨kept', hkept', hkeptId', hkeptDate'⟩ :=
      r.keepsRows_table (le_max_right j k) row' (mem_selectRange.mp hrow').1
    have heq : kept = kept' :=
      EntityTable.eq_of_mem_of_id_eq hkept hkept' (by rw [hkeptId, hkeptId', hid])
    rw [SourceRow.key, SourceRow.key, ← hkeptDate, ← hkeptDate', heq, hid]
  · intro hkey
    exact (Prod.mk.inj (toLex.injective hkey)).2

theorem id_mem_iff_key_mem {j k : ℕ} {row : SourceRow D I F} (hrow : row ∈ r.rowsAt j) :
    row.id ∈ (r.rowsAt k).map (·.id) ↔ row.key ∈ r.keysAt k := by
  simp only [keysAt, List.mem_map]
  constructor
  · rintro ⟨row', hrow', heq⟩
    exact ⟨row', hrow', (r.id_eq_iff_key_eq hrow' hrow).mp heq⟩
  · rintro ⟨row', hrow', heq⟩
    exact ⟨row', hrow', (r.id_eq_iff_key_eq hrow' hrow).mpr heq⟩

variable {r} {last : ℕ}

/-- The last request is the first whose page is not full. -/
structure EndsAt (r : PagedRead D I F) (last : ℕ) : Prop where
  full : ∀ k < last, (k + 1) * r.pageSize ≤ (r.rowsAt k).length
  short : (r.rowsAt last).length < (last + 1) * r.pageSize

theorem Finishes.endsAt (h : r.Finishes) : ∃ last, r.EndsAt last :=
  ⟨Nat.find h, fun _ hk => not_lt.mp (Nat.find_min h hk), Nat.find_spec h⟩

theorem EndsAt.continues_iff (h : r.EndsAt last) {k : ℕ} : r.Continues k ↔ k < last := by
  constructor
  · intro hk
    by_contra hle
    exact absurd h.short (not_lt.mpr (hk last (not_lt.mp hle)))
  · intro hk j hj
    exact h.full j (by omega)

theorem EndsAt.paginate_eq (h : r.EndsAt last) (fuel : ℕ) :
    r.paginate fuel = if last < fuel then some (r.pagesFrom 0 (last + 1)) else none := by
  have hloop := r.paginateFrom_eq last 0 (fun k hk => by simpa using h.full k hk)
    (by simpa using h.short) fuel []
  simpa [paginate] using hloop

theorem EndsAt.returns_iff (h : r.EndsAt last) (rows : List (SourceRow D I F)) :
    r.Returns rows ↔ rows = r.pagesFrom 0 (last + 1) := by
  simp only [Returns, h.paginate_eq]
  constructor
  · rintro ⟨fuel, heq⟩
    split at heq
    · exact (Option.some.inj heq).symm
    · exact nomatch heq
  · rintro rfl
    exact ⟨last + 1, if_pos (Nat.lt_succ_self last)⟩

theorem map_key_pagesFrom (r : PagedRead D I F) (count : ℕ) :
    (r.pagesFrom 0 count).map SourceRow.key = taken r.pageSize r.keysAt count := by
  simp only [pagesFrom, taken, List.map_flatMap, map_queryPage, Nat.zero_add]
  rfl

theorem mem_pagesFrom {count : ℕ} {row : SourceRow D I F} (h : row ∈ r.pagesFrom 0 count) :
    ∃ k, row ∈ r.rowsAt k := by
  obtain ⟨k, -, hrow⟩ := List.mem_flatMap.mp h
  exact ⟨_, List.mem_of_mem_drop (List.mem_of_mem_take hrow)⟩

theorem nodup_ids_iff (r : PagedRead D I F) (count : ℕ) :
    ((r.pagesFrom 0 count).map (·.id)).Nodup ↔ (taken r.pageSize r.keysAt count).Nodup := by
  rw [← map_key_pagesFrom, List.Nodup, List.Nodup, List.pairwise_map, List.pairwise_map]
  constructor
  · intro h
    refine h.imp_of_mem (fun {row row'} hrow hrow' hne heq => ?_)
    obtain ⟨_, hrow⟩ := mem_pagesFrom hrow
    obtain ⟨_, hrow'⟩ := mem_pagesFrom hrow'
    exact hne ((r.id_eq_iff_key_eq hrow hrow').mpr heq)
  · intro h
    refine h.imp_of_mem (fun {row row'} hrow hrow' hne heq => ?_)
    obtain ⟨_, hrow⟩ := mem_pagesFrom hrow
    obtain ⟨_, hrow'⟩ := mem_pagesFrom hrow'
    exact hne ((r.id_eq_iff_key_eq hrow hrow').mp heq)

theorem EndsAt.insertsBehind_iff (h : r.EndsAt last) :
    r.InsertsBehind ↔ AddsBehind r.pageSize r.keysAt last := by
  have hrank (k : ℕ) (row : SourceRow D I F) :
      ((r.rowsAt k).filter (fun row' => row'.key < row.key)).length =
        rank row.key (r.keysAt k) := by
    simp [rank, keysAt, List.filter_map, Function.comp_def]
  simp only [InsertsBehind, AddsBehind, h.continues_iff, hrank]
  constructor
  · intro hbehind k hk key hkey hnew
    obtain ⟨row, hrow, rfl⟩ := List.mem_map.mp hkey
    exact hbehind k hk row hrow (fun hmem => hnew ((r.id_mem_iff_key_mem hrow).mp hmem))
  · intro hbehind k hk row hrow hnew
    exact hbehind k hk row.key (List.mem_map_of_mem hrow)
      (fun hmem => hnew ((r.id_mem_iff_key_mem hrow).mpr hmem))

/-- No row of the first request is missed. -/
theorem EndsAt.id_mem (h : r.EndsAt last) {row : SourceRow D I F} (hrow : row ∈ r.rowsAt 0) :
    row.id ∈ (r.pagesFrom 0 (last + 1)).map (·.id) := by
  have hlast : (r.keysAt last).length < (last + 1) * r.pageSize := by
    simpa [keysAt] using h.short
  have hkey := subset_taken r.growing hlast (List.mem_map_of_mem hrow)
  rw [← map_key_pagesFrom] at hkey
  obtain ⟨row', hrow', heq⟩ := List.mem_map.mp hkey
  obtain ⟨k, hmem⟩ := mem_pagesFrom hrow'
  exact List.mem_map.mpr ⟨row', hrow', (r.id_eq_iff_key_eq hmem hrow).mpr heq⟩

/-- A read that ends is exact precisely if rows are only inserted behind those already requested. -/
theorem paginate_exact_iff (r : PagedRead D I F) (hfinishes : r.Finishes) :
    (∃ rows, r.Returns rows) ∧
      ∀ rows, r.Returns rows → (r.Exact rows ↔ r.InsertsBehind) := by
  obtain ⟨last, hends⟩ := hfinishes.endsAt
  refine ⟨⟨_, (hends.returns_iff _).mpr rfl⟩, fun rows hrows => ?_⟩
  obtain rfl := (hends.returns_iff rows).mp hrows
  have hnodup : (taken r.pageSize r.keysAt (last + 1)).Nodup ↔
      AddsBehind r.pageSize r.keysAt last :=
    nodup_taken_iff r.pageSize_pos r.growing
      (fun k hk => by simpa [keysAt] using hends.full k hk) (by simpa [keysAt] using hends.short)
  rw [hends.insertsBehind_iff, ← hnodup, ← nodup_ids_iff]
  constructor
  · intro hexact
    exact hexact.nodup
  · intro hids
    exact ⟨fun row hrow => List.count_eq_one_of_mem hids (hends.id_mem hrow), hids⟩

/-! ### A row that arrives between two pages -/

def oneDayRow (id : String) : SourceRow String String ℕ := ⟨"2024-01-01", id, 0⟩

/-- One row of a day, pages of one row, and a second row of the day after the first page. -/
def interruptedRead (id : String) : PagedRead String String ℕ where
  pageSize := 1
  start := "2024-01-01"
  stop := "2024-01-31"
  initial := (∅ : SourceTable String String ℕ).set (oneDayRow "m")
  changes := fun k => if k = 0 then [.insert (oneDayRow id)] else []
  pageSize_pos := le_refl 1

theorem interruptedRead_finishes : (interruptedRead "z").Finishes ∧
    ∃ rows, (interruptedRead "z").Returns rows := by
  have hfinishes : (interruptedRead "z").Finishes := ⟨2, by decide +kernel⟩
  exact ⟨hfinishes, (paginate_exact_iff _ hfinishes).1⟩

/-- A row that sorts before the first page pushes the page's row onto the next one. -/
theorem row_returned_twice :
    ((interruptedRead "a").paginate 3).map (fun rows => rows.map (·.id)) = some ["m", "m"] ∧
      ∀ rows, (interruptedRead "a").Returns rows → ¬ (interruptedRead "a").Exact rows := by
  have hrun : ((interruptedRead "a").paginate 3).map (fun rows => rows.map (·.id)) =
      some ["m", "m"] := by
    decide +kernel
  have hfinishes : (interruptedRead "a").Finishes := ⟨2, by decide +kernel⟩
  obtain ⟨last, hends⟩ := hfinishes.endsAt
  obtain ⟨returned, hreturned, hids⟩ := Option.map_eq_some_iff.mp hrun
  refine ⟨hrun, fun rows hrows hexact => ?_⟩
  have heq : rows = returned :=
    ((hends.returns_iff rows).mp hrows).trans ((hends.returns_iff returned).mp ⟨3, hreturned⟩).symm
  have hnodup := hexact.nodup
  rw [heq, hids] at hnodup
  exact absurd hnodup (by decide)

end PagedRead

end OlympusMetrics.Publisher.MetricsSource
