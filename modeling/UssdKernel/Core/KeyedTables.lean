import Mathlib

/-!
# Tables with a unique key

A table is a list of rows in insertion order whose keys are pairwise
distinct.  `updateWhere` is an `UPDATE .. WHERE`, `update` one that names a
key, `upsert` an `INSERT .. ON CONFLICT (key) DO UPDATE`: a row with the key of the new one is
merged with it, otherwise the new row is appended.  What a statement does is
said once, by what it does to every `lookup`.
-/

namespace UssdKernel.KeyedTables

/-- A value that no other row has selects its row. -/
theorem filter_eq_singleton {Row Key : Type} [DecidableEq Key]
    {value : Row → Key} {rows : List Row}
    (hnodup : (rows.map value).Nodup) {row : Row} (hrow : row ∈ rows) :
    rows.filter (fun other => value other = value row) = [row] := by
  have hperm : (rows.filter fun other => value other = value row).Perm
      [row] := by
    rw [List.perm_ext_iff_of_nodup (hnodup.of_map.filter _)
      (List.nodup_singleton row)]
    intro other
    rw [List.mem_filter, decide_eq_true_eq, List.mem_singleton]
    constructor
    · intro hother
      exact List.inj_on_of_nodup_map hnodup hother.1 hrow hother.2
    · rintro rfl
      exact ⟨hrow, rfl⟩
  exact List.perm_singleton.mp hperm

structure Table {Row Key : Type} (key : Row → Key) where
  rows : List Row
  keys_nodup : (rows.map key).Nodup
  deriving DecidableEq

namespace Table

variable {Row Key : Type} {key : Row → Key}

def empty : Table key :=
  ⟨[], List.nodup_nil⟩

/-- A row is determined by its key. -/
theorem eq_of_key_eq (table : Table key) {left right : Row}
    (hleft : left ∈ table.rows) (hright : right ∈ table.rows)
    (hkey : key left = key right) : left = right :=
  List.inj_on_of_nodup_map table.keys_nodup hleft hright hkey

variable [DecidableEq Key]

def lookup (table : Table key) (k : Key) : Option Row :=
  table.rows.find? fun row => key row = k

variable {table : Table key} {row : Row}

theorem lookup_eq_some_iff {k : Key} :
    table.lookup k = some row ↔ row ∈ table.rows ∧ key row = k := by
  constructor
  · intro hfound
    exact ⟨List.mem_of_find?_eq_some hfound,
      by simpa using List.find?_some hfound⟩
  · intro hrow
    cases hfound : table.lookup k with
    | none =>
        have hnone := List.find?_eq_none.mp hfound row hrow.1
        simp [hrow.2] at hnone
    | some found =>
        have hkey : key found = k := by simpa using List.find?_some hfound
        rw [table.eq_of_key_eq (List.mem_of_find?_eq_some hfound) hrow.1
          (hkey.trans hrow.2.symm)]

theorem lookup_key (hrow : row ∈ table.rows) :
    table.lookup (key row) = some row :=
  lookup_eq_some_iff.mpr ⟨hrow, rfl⟩

theorem lookup_eq_none_iff {k : Key} :
    table.lookup k = none ↔ k ∉ table.rows.map key := by
  rw [lookup, List.find?_eq_none, List.mem_map]
  simp

theorem filter_key_eq (table : Table key) (k : Key) :
    table.rows.filter (fun row => key row = k) = (table.lookup k).toList := by
  cases hfound : table.lookup k with
  | none =>
      apply List.filter_eq_nil_iff.mpr
      intro row hrow hkey
      refine lookup_eq_none_iff.mp hfound ?_
      rw [← of_decide_eq_true hkey]
      exact List.mem_map_of_mem hrow
  | some found =>
      obtain ⟨hmem, rfl⟩ := lookup_eq_some_iff.mp hfound
      exact filter_eq_singleton table.keys_nodup hmem

/-! ## Update -/

section Update

variable (table) (p : Row → Prop) [DecidablePred p] (k : Key)
  (change : Row → Row) (hchange : ∀ row, key (change row) = key row)

/-- An `UPDATE` of the rows that meet a condition. -/
def updateWhere : Table key where
  rows := table.rows.map fun row => if p row then change row else row
  keys_nodup := by
    have hkeys : key ∘ (fun row => if p row then change row else row) =
        key := by
      funext row
      dsimp only [Function.comp]
      split
      · exact hchange row
      · rfl
    rw [List.map_map, hkeys]
    exact table.keys_nodup

theorem lookup_updateWhere (other : Key) :
    (table.updateWhere p change hchange).lookup other =
      (table.lookup other).map fun row => if p row then change row else row := by
  have hkeys : (fun row => decide (key row = other)) ∘
      (fun row => if p row then change row else row) =
        fun row => decide (key row = other) := by
    funext row
    dsimp only [Function.comp]
    split
    · rw [hchange row]
    · rfl
  rw [lookup, updateWhere, List.find?_map, hkeys, ← lookup]

def update : Table key :=
  table.updateWhere (fun row => key row = k) change hchange

theorem lookup_update (other : Key) :
    (table.update k change hchange).lookup other =
      if other = k then (table.lookup other).map change
      else table.lookup other := by
  rw [update, lookup_updateWhere]
  cases hfound : table.lookup other with
  | none => simp
  | some row =>
      have hkey : key row = other := (lookup_eq_some_iff.mp hfound).2
      by_cases hother : other = k <;> simp [hkey, hother]

end Update

/-! ## Insert or merge -/

section Upsert

variable (table row) (merge : Row → Row)
  (hmerge : ∀ old, key (merge old) = key old)

def upsert : Table key :=
  if hmem : key row ∈ table.rows.map key then
    table.update (key row) merge hmerge
  else
    { rows := table.rows ++ [row]
      keys_nodup := by
        rw [List.map_append, List.map_singleton]
        exact List.nodup_append.mpr ⟨table.keys_nodup,
          List.nodup_singleton _, fun k hk other hother hsame =>
            hmem (List.mem_singleton.mp hother ▸ hsame ▸ hk)⟩ }

theorem rows_upsert_of_none (hnone : table.lookup (key row) = none) :
    (table.upsert row merge hmerge).rows = table.rows ++ [row] := by
  rw [upsert, dif_neg (lookup_eq_none_iff.mp hnone)]

theorem lookup_upsert (other : Key) :
    (table.upsert row merge hmerge).lookup other =
      if other = key row then some ((table.lookup other).elim row merge)
      else table.lookup other := by
  by_cases hmem : key row ∈ table.rows.map key
  · rw [upsert, dif_pos hmem, lookup_update]
    by_cases hother : other = key row
    · obtain ⟨old, hold, hkey⟩ := List.mem_map.mp hmem
      have hfound : table.lookup other = some old :=
        lookup_eq_some_iff.mpr ⟨hold, hkey.trans hother.symm⟩
      rw [if_pos hother, if_pos hother, hfound]
      rfl
    · rw [if_neg hother, if_neg hother]
  · rw [upsert, dif_neg hmem, lookup, List.find?_append, ← lookup]
    by_cases hother : other = key row
    · subst hother
      rw [lookup_eq_none_iff.mpr hmem, if_pos rfl]
      simp
    · have hkey : ¬ decide (key row = other) = true := by
        rw [decide_eq_true_eq]
        exact Ne.symm hother
      rw [if_neg hother, List.find?_singleton, if_neg hkey, Option.or_none]

end Upsert

/-! ## Several updates -/

section UpdateAll

variable {Arg : Type} (change : Arg → Row → Row)
  (hchange : ∀ arg row, key (change arg row) = key row)

/-- Updates one after another, each with its key and its argument. -/
def updateAll (table : Table key) (updates : List (Key × Arg)) : Table key :=
  updates.foldl (fun table update =>
    table.update update.1 (change update.2) (hchange update.2)) table

theorem updateAll_cons (table : Table key) (update : Key × Arg)
    (updates : List (Key × Arg)) :
    table.updateAll change hchange (update :: updates) =
      (table.update update.1 (change update.2)
        (hchange update.2)).updateAll change hchange updates := rfl

variable {updates : List (Key × Arg)} {update : Key × Arg}

theorem lookup_updateAll_of_not_mem (table : Table key) {k : Key}
    (hk : k ∉ updates.map Prod.fst) :
    (table.updateAll change hchange updates).lookup k = table.lookup k := by
  induction updates generalizing table with
  | nil => rfl
  | cons update updates ih =>
      rw [List.map_cons, List.mem_cons, not_or] at hk
      rw [updateAll_cons, ih _ hk.2, lookup_update, if_neg hk.1]

theorem lookup_updateAll_of_mem (table : Table key)
    (hnodup : (updates.map Prod.fst).Nodup) (hupdate : update ∈ updates) :
    (table.updateAll change hchange updates).lookup update.1 =
      (table.lookup update.1).map (change update.2) := by
  induction updates generalizing table with
  | nil => cases hupdate
  | cons first updates ih =>
      rw [List.map_cons, List.nodup_cons] at hnodup
      rw [updateAll_cons]
      rcases List.mem_cons.mp hupdate with rfl | hlater
      · rw [lookup_updateAll_of_not_mem change hchange _ hnodup.1,
          lookup_update, if_pos rfl]
      · have hne : update.1 ≠ first.1 := by
          intro hsame
          exact hnodup.1 (hsame ▸ List.mem_map_of_mem hlater)
        rw [ih _ hnodup.2 hlater, lookup_update, if_neg hne]

variable [DecidableEq Row]

/-- The rows of a table that are no longer there as they were. -/
def changed (before after : Table key) : List Row :=
  before.rows.filter fun row => after.lookup (key row) ≠ some row

theorem mem_changed {before after : Table key} :
    row ∈ before.changed after ↔
      row ∈ before.rows ∧ after.lookup (key row) ≠ some row := by
  rw [changed, List.mem_filter, decide_eq_true_eq]

theorem nodup_changed (before after : Table key) :
    ((before.changed after).map key).Nodup :=
  before.keys_nodup.sublist (List.filter_sublist.map key)

theorem changed_updateAll_subset (table : Table key)
    (updates : List (Key × Arg)) :
    (table.changed (table.updateAll change hchange updates)).map key ⊆
      updates.map Prod.fst := by
  intro k hk
  obtain ⟨row, hrow, rfl⟩ := List.mem_map.mp hk
  obtain ⟨hmem, hdiffers⟩ := mem_changed.mp hrow
  by_contra hupdates
  rw [lookup_updateAll_of_not_mem change hchange table hupdates,
    lookup_key hmem] at hdiffers
  exact hdiffers rfl

theorem mem_changed_updateAll_iff (table : Table key)
    (hnodup : (updates.map Prod.fst).Nodup) (hupdate : update ∈ updates)
    (hrow : row ∈ table.rows) (hkey : key row = update.1) :
    row ∈ table.changed (table.updateAll change hchange updates) ↔
      change update.2 row ≠ row := by
  rw [mem_changed, and_iff_right hrow, hkey,
    lookup_updateAll_of_mem change hchange table hnodup hupdate, ← hkey,
    lookup_key hrow, Option.map_some, ne_eq, Option.some.injEq]

/-- As many rows are changed as there are updates exactly if every update
changes a row of its own. -/
theorem length_changed_updateAll_iff (table : Table key)
    (updates : List (Key × Arg)) :
    (table.changed (table.updateAll change hchange updates)).length =
        updates.length ↔
      (updates.map Prod.fst).Nodup ∧ ∀ update ∈ updates,
        ∃ row ∈ table.rows, key row = update.1 ∧
          change update.2 row ≠ row := by
  have hsubset := changed_updateAll_subset change hchange table updates
  have hnodup := table.nodup_changed (table.updateAll change hchange updates)
  have hsubperm := List.Nodup.subperm hnodup hsubset
  constructor
  · intro hlength
    have hperm : ((table.changed (table.updateAll change hchange
        updates)).map key).Perm (updates.map Prod.fst) := by
      apply hsubperm.perm_of_length_le
      rw [List.length_map, List.length_map, hlength]
    have hupdates := hperm.nodup_iff.mp hnodup
    refine ⟨hupdates, ?_⟩
    intro update hupdate
    obtain ⟨row, hrow, hkey⟩ := List.mem_map.mp
      (hperm.mem_iff.mpr (List.mem_map_of_mem hupdate))
    have hmem := (mem_changed.mp hrow).1
    exact ⟨row, hmem, hkey, (mem_changed_updateAll_iff change hchange table
      hupdates hupdate hmem hkey).mp hrow⟩
  · intro heffective
    obtain ⟨hupdates, hrows⟩ := heffective
    have hsuperset : updates.map Prod.fst ⊆
        (table.changed (table.updateAll change hchange updates)).map key := by
      intro k hk
      obtain ⟨update, hupdate, rfl⟩ := List.mem_map.mp hk
      obtain ⟨row, hrow, hkey, hdiffers⟩ := hrows update hupdate
      rw [← hkey]
      exact List.mem_map_of_mem ((mem_changed_updateAll_iff change hchange
        table hupdates hupdate hrow hkey).mpr hdiffers)
    have hlengths := (hsubperm.antisymm
      (List.Nodup.subperm hupdates hsuperset)).length_eq
    rwa [List.length_map, List.length_map] at hlengths

end UpdateAll

end Table

end UssdKernel.KeyedTables
