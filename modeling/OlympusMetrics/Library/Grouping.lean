import Mathlib.Data.List.Basic
import Mathlib.Data.List.Induction
import Mathlib.Data.List.Nodup

/-!
Grouping rows by a key, as a loop over an insertion-ordered map does it.

The first row of a key opens its group at the end, and every later one is merged
into the group where it stands.
-/

namespace OlympusMetrics.Grouping

variable {κ β : Type*} [DecidableEq κ] (merge : β → β → β)

/-- Merges a row into the group of its key, or opens one. -/
def addTo (key : κ) (x : β) : List (κ × β) → List (κ × β)
  | [] => [(key, x)]
  | (key', y) :: groups =>
      if key' = key then (key', merge y x) :: groups else (key', y) :: addTo key x groups

/-- The loop over the rows. -/
def groups (rows : List (κ × β)) : List (κ × β) :=
  rows.foldl (fun groups row => addTo merge row.1 row.2 groups) []

/-- What the values of a group are merged to. -/
def merged : List β → Option β
  | [] => none
  | x :: xs => some (xs.foldl merge x)

/-- The values of a key's rows, in their order. -/
def valuesOf (key : κ) (rows : List (κ × β)) : List β :=
  (rows.filter (fun row => row.1 = key)).map (·.2)

@[simp] theorem groups_append_singleton (rows : List (κ × β)) (row : κ × β) :
    groups merge (rows ++ [row]) = addTo merge row.1 row.2 (groups merge rows) := by
  simp [groups]

theorem keys_addTo (key : κ) (x : β) (entries : List (κ × β)) :
    (addTo merge key x entries).map (·.1) =
      if key ∈ entries.map (·.1) then entries.map (·.1) else entries.map (·.1) ++ [key] := by
  induction entries with
  | nil => simp [addTo]
  | cons entry entries ih =>
      obtain ⟨key', y⟩ := entry
      rw [addTo]
      by_cases hkey : key' = key
      · simp [hkey]
      · rw [if_neg hkey, List.map_cons, ih]
        simp only [List.map_cons, List.mem_cons, Ne.symm hkey, false_or]
        split <;> simp

theorem lookup_addTo (key : κ) (x : β) (entries : List (κ × β)) (k : κ) :
    (addTo merge key x entries).lookup k =
      if k = key then some (((entries.lookup key).map (fun y => merge y x)).getD x)
      else entries.lookup k := by
  induction entries with
  | nil =>
      by_cases hk : k = key
      · simp [addTo, hk]
      · simp [addTo, hk]
  | cons entry entries ih =>
      obtain ⟨key', y⟩ := entry
      rw [addTo]
      by_cases hkey : key' = key
      · subst hkey
        by_cases hk : k = key'
        · simp [hk]
        · have hk' : (k == key') = false := by simpa using hk
          simp [hk, List.lookup_cons, hk']
      · rw [if_neg hkey]
        by_cases hk : k = key'
        · have hne : k ≠ key := fun heq => hkey (hk.symm.trans heq)
          simp [hk, hkey]
        · have hkeys : (key == key') = false := by simpa using Ne.symm hkey
          have hk' : (k == key') = false := by simpa using hk
          rw [List.lookup_cons, hk', List.lookup_cons, hkeys, List.lookup_cons, hk']
          exact ih

/-- No key has two groups. -/
theorem nodup_keys_groups (rows : List (κ × β)) : ((groups merge rows).map (·.1)).Nodup := by
  induction rows using List.reverseRecOn with
  | nil => exact List.nodup_nil
  | append_singleton rows row ih =>
      rw [groups_append_singleton, keys_addTo]
      split
      case isTrue => exact ih
      case isFalse hnot =>
        refine List.nodup_append.mpr ⟨ih, List.nodup_singleton _, ?_⟩
        rintro k hk _ hmem rfl
        exact hnot (List.mem_singleton.mp hmem ▸ hk)

theorem merged_append_singleton (values : List β) (x : β) :
    merged merge (values ++ [x]) = some (((merged merge values).map (fun y => merge y x)).getD x) := by
  cases values with
  | nil => rfl
  | cons y values => simp [merged]

/-- The group of a key merges all of the key's rows. -/
theorem lookup_groups (rows : List (κ × β)) (key : κ) :
    (groups merge rows).lookup key = merged merge (valuesOf key rows) := by
  induction rows using List.reverseRecOn with
  | nil => rfl
  | append_singleton rows row ih =>
      rw [groups_append_singleton, lookup_addTo]
      by_cases hkey : row.1 = key
      · have hvalues : valuesOf key (rows ++ [row]) = valuesOf key rows ++ [row.2] := by
          simp [valuesOf, hkey]
        rw [if_pos hkey.symm, hkey, ih, hvalues, merged_append_singleton]
      · have hvalues : valuesOf key (rows ++ [row]) = valuesOf key rows := by
          simp [valuesOf, hkey]
        rw [if_neg (Ne.symm hkey), ih, hvalues]

/-- The groups are the keys' merged values. -/
theorem groups_eq (rows : List (κ × β)) :
    groups merge rows = ((groups merge rows).map (·.1)).filterMap (fun key =>
      (merged merge (valuesOf key rows)).map (fun y => (key, y))) := by
  have hlookup (entries : List (κ × β)) (h : (entries.map (·.1)).Nodup) :
      entries = (entries.map (·.1)).filterMap (fun key =>
        (entries.lookup key).map (fun y => (key, y))) := by
    induction entries with
    | nil => rfl
    | cons entry entries ih =>
        obtain ⟨hnot, hrest⟩ := List.nodup_cons.mp h
        have hsame : (entries.map (·.1)).filterMap (fun key =>
            ((entry :: entries).lookup key).map (fun y => (key, y))) =
              (entries.map (·.1)).filterMap (fun key =>
                (entries.lookup key).map (fun y => (key, y))) := by
          refine List.filterMap_congr (fun key hkey => ?_)
          have hne : (key == entry.1) = false := by
            rw [beq_eq_false_iff_ne]
            rintro rfl
            exact hnot hkey
          rw [List.lookup_cons, hne]
        rw [List.map_cons, List.filterMap_cons, List.lookup_cons, beq_self_eq_true, hsame, ← ih hrest]
        rfl
  have h := hlookup (groups merge rows) (nodup_keys_groups merge rows)
  simpa only [lookup_groups] using h

/-- The keys of the groups are those of the rows. -/
theorem mem_keys_groups {rows : List (κ × β)} {key : κ} :
    key ∈ (groups merge rows).map (·.1) ↔ key ∈ rows.map (·.1) := by
  induction rows using List.reverseRecOn with
  | nil => rfl
  | append_singleton rows row ih =>
      rw [groups_append_singleton, keys_addTo]
      split
      case isTrue h =>
        rw [ih, List.map_append, List.mem_append]
        refine ⟨Or.inl, fun hmem => hmem.elim id (fun hsingle => ?_)⟩
        obtain rfl : key = row.1 := by simpa using hsingle
        exact ih.mp h
      case isFalse h => simp [← ih]

section uses

variable {γ : Type*} (rows : List (κ × β))

theorem filterMap_groups (f : κ → β → Option γ) :
    (groups merge rows).filterMap (fun entry => f entry.1 entry.2) =
      ((groups merge rows).map (·.1)).filterMap (fun key =>
        (merged merge (valuesOf key rows)).bind (f key)) := by
  conv_lhs => rw [groups_eq, List.filterMap_filterMap]
  refine List.filterMap_congr (fun key _ => ?_)
  cases merged merge (valuesOf key rows) with
  | none => rfl
  | some y => rfl

theorem flatMap_groups (f : κ → β → List γ) :
    (groups merge rows).flatMap (fun entry => f entry.1 entry.2) =
      ((groups merge rows).map (·.1)).flatMap (fun key =>
        ((merged merge (valuesOf key rows)).map (f key)).getD []) := by
  have hflat (keys : List κ) :
      (keys.filterMap (fun key => (merged merge (valuesOf key rows)).map (fun y => (key, y)))).flatMap
        (fun entry => f entry.1 entry.2) =
          keys.flatMap (fun key => ((merged merge (valuesOf key rows)).map (f key)).getD []) := by
    induction keys with
    | nil => rfl
    | cons key keys ih =>
        rw [List.filterMap_cons, List.flatMap_cons, ← ih]
        cases merged merge (valuesOf key rows) with
        | none => rfl
        | some y => rfl
  conv_lhs => rw [groups_eq]
  exact hflat _

end uses

omit [DecidableEq κ] in
/-- The pairs of an outer row and a key of its groups, when neither repeats. -/
theorem nodup_flatMap_pairs {α : Type*} {outer : List α} {inner : α → List κ} (houter : outer.Nodup)
    (hinner : ∀ a ∈ outer, (inner a).Nodup) :
    (outer.flatMap (fun a => (inner a).map (fun key => (a, key)))).Nodup := by
  rw [List.nodup_flatMap]
  constructor
  · intro a ha
    exact (hinner a ha).map (fun _ _ h => (Prod.mk.inj h).2)
  · refine houter.imp (fun {a b} hne => ?_)
    intro pair ha hb
    obtain ⟨_, -, rfl⟩ := List.mem_map.mp ha
    obtain ⟨_, -, heq⟩ := List.mem_map.mp hb
    exact hne (Prod.mk.inj heq).1.symm

end OlympusMetrics.Grouping
