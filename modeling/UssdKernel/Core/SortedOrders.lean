import Mathlib

/-!
# Orders of rows sorted by a key

Sorting by a key fixes the order of rows up to the order of rows with equal
keys.  `OrderedBy` describes every list that a query with an `ORDER BY` on the
key may return; a value read from the rows is the same in all of them exactly
if rows with equal keys agree on it.
-/

namespace UssdKernel.SortedOrders

variable {Row Key Value : Type*} [LinearOrder Key] {key : Row → Key}
variable {source left right rows : List Row}

/-- The rows of the source, sorted by the key, with ties in any order. -/
def OrderedBy (key : Row → Key) (source rows : List Row) : Prop :=
  rows.Perm source ∧ rows.Pairwise fun first second => key first ≤ key second

instance [DecidableEq Row] : Decidable (OrderedBy key source rows) :=
  inferInstanceAs (Decidable (_ ∧ _))

variable (key) in
theorem orderedBy_insertionSort (source : List Row) :
    OrderedBy key source
      (source.insertionSort fun first second => key first ≤ key second) := by
  have : Std.Total fun first second : Row => key first ≤ key second :=
    ⟨fun first second => le_total (key first) (key second)⟩
  have : IsTrans Row fun first second => key first ≤ key second :=
    ⟨fun _ _ _ hfirst hsecond => hfirst.trans hsecond⟩
  exact ⟨List.perm_insertionSort _ _, List.pairwise_insertionSort _ _⟩

/-- Rows with equal keys may stand in any order, so a value on which they
agree is read in one order only. -/
theorem OrderedBy.map_eq {value : Row → Value}
    (hties : ∀ first ∈ source, ∀ second ∈ source,
      key first = key second → value first = value second)
    (hleft : OrderedBy key source left)
    (hright : OrderedBy key source right) :
    left.map value = right.map value := by
  -- keys and values together are sorted, and a key occurs with one value
  have hsorted : ∀ rows : List Row,
      rows.Pairwise (fun first second => key first ≤ key second) →
        (rows.map fun row => (key row, value row)).Pairwise
          fun first second => first.1 ≤ second.1 :=
    fun rows hrows => List.pairwise_map.mpr hrows
  have hpairs : left.map (fun row => (key row, value row)) =
      right.map (fun row => (key row, value row)) := by
    refine List.Perm.eq_of_pairwise ?_ (hsorted left hleft.2)
      (hsorted right hright.2) ((hleft.1.trans hright.1.symm).map _)
    intro first second hfirst hsecond hle hge
    obtain ⟨row, hrow, rfl⟩ := List.mem_map.mp hfirst
    obtain ⟨other, hother, rfl⟩ := List.mem_map.mp hsecond
    have hkey : key row = key other := le_antisymm hle hge
    exact Prod.ext hkey (hties row (hleft.1.mem_iff.mp hrow) other
      (hright.1.mem_iff.mp hother) hkey)
  have hvalues := congrArg (List.map Prod.snd) hpairs
  rwa [List.map_map, List.map_map] at hvalues

/-- Without ties there is one order. -/
theorem OrderedBy.eq (hkeys : ∀ first ∈ source, ∀ second ∈ source,
      key first = key second → first = second)
    (hleft : OrderedBy key source left)
    (hright : OrderedBy key source right) : left = right := by
  have hsame : left.map (fun row => row) = right.map fun row => row :=
    hleft.map_eq hkeys hright
  simpa only [List.map_id'] using hsame

/-- Rows with growing keys are the only order of themselves. -/
theorem OrderedBy.eq_of_pairwise_lt
    (hleft : left.Pairwise fun first second => key first < key second)
    (hperm : left.Perm source) (hright : OrderedBy key source right) :
    right = left := by
  have hnodup : (left.map key).Nodup :=
    List.pairwise_map.mpr (hleft.imp ne_of_lt)
  have hinjective : ∀ first ∈ source, ∀ second ∈ source,
      key first = key second → first = second := by
    intro first hfirst second hsecond hsame
    exact List.inj_on_of_nodup_map hnodup (hperm.mem_iff.mpr hfirst)
      (hperm.mem_iff.mpr hsecond) hsame
  exact hright.eq hinjective ⟨hperm, hleft.imp le_of_lt⟩

/-- A row with the least key, and no other row with it, comes first. -/
theorem OrderedBy.head?_eq {row : Row}
    (hrows : OrderedBy key (row :: source) rows)
    (hleast : ∀ other ∈ source, key row < key other) :
    rows.head? = some row := by
  cases rows with
  | nil => exact absurd hrows.1.symm.eq_nil (List.cons_ne_nil _ _)
  | cons first rest =>
      rcases List.mem_cons.mp (hrows.1.mem_iff.mp List.mem_cons_self) with
        heq | hlater
      · rw [heq, List.head?_cons]
      · have hmem : row ∈ first :: rest :=
          hrows.1.mem_iff.mpr List.mem_cons_self
        rcases List.mem_cons.mp hmem with heq | hrest
        · rw [heq, List.head?_cons]
        · exact absurd (hleast first hlater)
            ((List.pairwise_cons.mp hrows.2).1 row hrest).not_gt

/-- If the last row has the least key, and no other row has it, it comes first
when the rows are sorted. -/
theorem head?_insertionSort {rows : List Row}
    (hleast : ∀ last ∈ rows.getLast?, ∀ other ∈ rows.dropLast,
      key last < key other) :
    (rows.insertionSort fun first second => key first ≤ key second).head? =
      rows.getLast? := by
  cases hlast : rows.getLast? with
  | none =>
      rw [List.getLast?_eq_none_iff.mp hlast]
      rfl
  | some last =>
      have hsplit : rows = rows.dropLast ++ [last] :=
        (List.dropLast_append_getLast? last hlast).symm
      have hperm : rows.Perm (last :: rows.dropLast) := by
        nth_rewrite 1 [hsplit]
        exact List.perm_append_singleton last rows.dropLast
      obtain ⟨hsorted, hpairs⟩ := orderedBy_insertionSort key rows
      exact OrderedBy.head?_eq ⟨hsorted.trans hperm, hpairs⟩
        (hleast last hlast)

/-- Of rows with growing keys the last comes first in the opposite order. -/
theorem head?_insertionSort_toDual
    (hrows : rows.Pairwise fun first second => key first < key second) :
    (rows.insertionSort fun first second =>
      OrderDual.toDual (key first) ≤ OrderDual.toDual (key second)).head? =
        rows.getLast? := by
  apply head?_insertionSort
  intro last hlast other hother
  rw [← List.dropLast_append_getLast? last hlast,
    List.pairwise_append] at hrows
  exact hrows.2.2 other hother last (List.mem_singleton_self last)

/-- A property that holds of every row before one that has it selects rows at
the front. -/
theorem filter_isPrefix_of_pairwise {selects : Row → Bool}
    (hrows : rows.Pairwise fun first second =>
      selects second = true → selects first = true) :
    rows.filter selects <+: rows := by
  induction rows with
  | nil => exact List.nil_prefix
  | cons row rows ih =>
      obtain ⟨hfirst, hrest⟩ := List.pairwise_cons.mp hrows
      cases hrow : selects row with
      | true =>
          rw [List.filter_cons_of_pos hrow]
          exact List.cons_prefix_cons.mpr ⟨rfl, ih hrest⟩
      | false =>
          have hnone : rows.filter selects = [] := by
            rw [List.filter_eq_nil_iff]
            intro other hother hselected
            rw [hfirst other hother hselected] at hrow
            cases hrow
          rw [List.filter_cons_of_neg (by simp [hrow]), hnone]
          exact List.nil_prefix

/-- Sorted rows are those below a key that none of them has and those above
it. -/
theorem exists_split_at {pivot : Key}
    (hrows : rows.Pairwise fun first second => key first < key second)
    (hpivot : ∀ row ∈ rows, key row ≠ pivot) :
    ∃ lower upper, rows = lower ++ upper ∧
      (∀ row ∈ lower, key row < pivot) ∧ ∀ row ∈ upper, pivot < key row := by
  induction rows with
  | nil => exact ⟨[], [], rfl, by simp, by simp⟩
  | cons row rows ih =>
      obtain ⟨hfirst, hrest⟩ := List.pairwise_cons.mp hrows
      obtain ⟨hrow, hothers⟩ := List.forall_mem_cons.mp hpivot
      rcases lt_or_gt_of_ne hrow with hbelow | habove
      · obtain ⟨lower, upper, rfl, hlower, hupper⟩ := ih hrest hothers
        exact ⟨row :: lower, upper, rfl,
          List.forall_mem_cons.mpr ⟨hbelow, hlower⟩, hupper⟩
      · exact ⟨[], row :: rows, rfl, by simp, List.forall_mem_cons.mpr
          ⟨habove, fun other hother => habove.trans (hfirst other hother)⟩⟩

theorem perm_split_at (key : Row → Key) (pivot : Key) (source : List Row) :
    (source.filter (key · < pivot) ++ (source.filter (key · = pivot) ++
      source.filter (pivot < key ·))).Perm source := by
  have hupper : (source.filter (key · = pivot) ++
      source.filter (pivot < key ·)).Perm
        (source.filter fun row => !decide (key row < pivot)) := by
    have hperm := List.filter_append_perm (fun row => decide (key row = pivot))
      (source.filter fun row => !decide (key row < pivot))
    rw [List.filter_filter, List.filter_filter] at hperm
    convert hperm using 3 <;> grind
  exact (hupper.append_left _).trans (List.filter_append_perm _ source)

section FirstOfTies

variable [DecidableEq Row]

/-- An order in which the given row is the first one with its key. -/
def firstOfTies (key : Row → Key) (source : List Row) (row : Row) :
    List Row :=
  (source.filter (key · < key row)).insertionSort (key · ≤ key ·) ++
    (row :: (source.filter (key · = key row)).erase row ++
      (source.filter (key row < key ·)).insertionSort (key · ≤ key ·))

theorem orderedBy_firstOfTies {row : Row} (hrow : row ∈ source) :
    OrderedBy key source (firstOfTies key source row) := by
  obtain ⟨hbelow, hbelowSorted⟩ :=
    orderedBy_insertionSort key (source.filter (key · < key row))
  obtain ⟨habove, haboveSorted⟩ :=
    orderedBy_insertionSort key (source.filter (key row < key ·))
  have hties : (row :: (source.filter (key · = key row)).erase row).Perm
      (source.filter (key · = key row)) :=
    (List.perm_cons_erase (List.mem_filter.mpr ⟨hrow, by simp⟩)).symm
  -- the three parts lie below, at and above the key of the row
  have hbelowKey : ∀ other ∈ (source.filter (key · < key row)).insertionSort
      (key · ≤ key ·), key other < key row := by
    intro other hother
    simpa using (List.mem_filter.mp (hbelow.mem_iff.mp hother)).2
  have htiesKey : ∀ other ∈
      row :: (source.filter (key · = key row)).erase row,
        key other = key row := by
    intro other hother
    simpa using (List.mem_filter.mp (hties.mem_iff.mp hother)).2
  have haboveKey : ∀ other ∈ (source.filter (key row < key ·)).insertionSort
      (key · ≤ key ·), key row < key other := by
    intro other hother
    simpa using (List.mem_filter.mp (habove.mem_iff.mp hother)).2
  constructor
  · exact (hbelow.append (hties.append habove)).trans
      (perm_split_at key (key row) source)
  · have htiesSorted : (row ::
        (source.filter (key · = key row)).erase row).Pairwise
          fun first second => key first ≤ key second :=
      List.pairwise_of_forall_mem_list fun first hfirst second hsecond =>
        ((htiesKey first hfirst).trans (htiesKey second hsecond).symm).le
    refine List.pairwise_append.mpr ⟨hbelowSorted,
      List.pairwise_append.mpr ⟨htiesSorted, haboveSorted, ?_⟩, ?_⟩
    · intro first hfirst second hsecond
      exact (htiesKey first hfirst).le.trans (haboveKey second hsecond).le
    · intro first hfirst second hsecond
      apply (hbelowKey first hfirst).le.trans
      rcases List.mem_append.mp hsecond with htie | hlater
      · exact (htiesKey second htie).ge
      · exact (haboveKey second hlater).le

/-- The values read are the same in every order exactly if rows with equal
keys agree. -/
theorem map_eq_iff_ties {value : Row → Value} :
    (∀ left right, OrderedBy key source left → OrderedBy key source right →
        left.map value = right.map value) ↔
      ∀ first ∈ source, ∀ second ∈ source,
        key first = key second → value first = value second := by
  constructor
  · intro hsame first hfirst second hsecond hkey
    have hmaps := hsame _ _ (orderedBy_firstOfTies hfirst)
      (orderedBy_firstOfTies hsecond)
    rw [firstOfTies, firstOfTies, hkey] at hmaps
    simp only [List.map_append, List.map_cons, List.cons_append] at hmaps
    exact (List.cons.inj (List.append_cancel_left hmaps)).1
  · intro hties left right hleft hright
    exact hleft.map_eq hties hright

end FirstOfTies

end UssdKernel.SortedOrders
