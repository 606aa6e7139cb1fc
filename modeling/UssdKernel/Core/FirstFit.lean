import Mathlib

/-!
# First-fit assignment

Every left element, in turn, takes the first right element that fits it among
those that are still free.  Each occurrence on either side is used at most
once.  When both sides hold the same elements, every element takes its own
copy exactly if no two different elements that fit each other change their
order between the two sides.
-/

namespace UssdKernel.FirstFit

variable {Left Right : Type*}

/-- What each left element took, and the right elements nobody took. -/
structure Assignment (Left Right : Type*) where
  choices : List (Left × Option Right)
  rest : List Right

def assign (fits : Left → Right → Bool) :
    List Left → List Right → Assignment Left Right
  | [], rights => ⟨[], rights⟩
  | left :: lefts, rights =>
      let later := assign fits lefts (rights.eraseP (fits left))
      ⟨(left, rights.find? (fits left)) :: later.choices, later.rest⟩

namespace Assignment

/-- The right elements that were taken. -/
def taken (assignment : Assignment Left Right) : List Right :=
  assignment.choices.filterMap Prod.snd

end Assignment

section Assign

variable (fits : Left → Right → Bool)

@[simp]
theorem assign_nil (rights : List Right) :
    assign fits [] rights = ⟨[], rights⟩ := rfl

@[simp]
theorem assign_cons (left : Left) (lefts : List Left) (rights : List Right) :
    assign fits (left :: lefts) rights =
      ⟨(left, rights.find? (fits left)) ::
          (assign fits lefts (rights.eraseP (fits left))).choices,
        (assign fits lefts (rights.eraseP (fits left))).rest⟩ := rfl

theorem choices_fst (lefts : List Left) (rights : List Right) :
    (assign fits lefts rights).choices.map Prod.fst = lefts := by
  induction lefts generalizing rights with
  | nil => rfl
  | cons left lefts ih => simp only [assign_cons, List.map_cons, ih]

variable {rights : List Right} {p : Right → Bool} {right : Right}

theorem eraseP_of_find?_none (hnone : rights.find? p = none) :
    rights.eraseP p = rights := by
  apply List.eraseP_of_forall_not
  intro right hright
  simpa using List.find?_eq_none.mp hnone right hright

/-- Taking an element splits the list at its first fit. -/
theorem exists_split_of_find?_some (hfound : rights.find? p = some right) :
    ∃ before after, rights = before ++ right :: after ∧
      rights.eraseP p = before ++ after ∧ ∀ other ∈ before, p other = false := by
  obtain ⟨hright, before, after, hsplit, hbefore⟩ :=
    List.find?_eq_some_iff_append.mp hfound
  have hfree : ∀ other ∈ before, p other = false := by
    intro other hother
    simpa using hbefore other hother
  refine ⟨before, after, hsplit, ?_, hfree⟩
  have hnot : ∀ other ∈ before, ¬ p other = true := by
    intro other hother
    simp [hfree other hother]
  rw [hsplit, List.eraseP_append_right _ hnot, List.eraseP_cons_of_pos hright]

/-- Every occurrence on the right is taken once or left over. -/
theorem perm_taken_rest (lefts : List Left) (rights : List Right) :
    ((assign fits lefts rights).taken ++
      (assign fits lefts rights).rest).Perm rights := by
  induction lefts generalizing rights with
  | nil => exact List.Perm.refl rights
  | cons left lefts ih =>
      have hlater := ih (rights.eraseP (fits left))
      simp only [Assignment.taken] at hlater ⊢
      rw [assign_cons]
      cases hfound : rights.find? (fits left) with
      | none =>
          rw [eraseP_of_find?_none hfound] at hlater ⊢
          exact hlater
      | some right =>
          obtain ⟨before, after, hsplit, herase, -⟩ :=
            exists_split_of_find?_some hfound
          rw [herase] at hlater ⊢
          rw [hsplit]
          exact (hlater.cons right).trans List.perm_middle.symm

theorem fits_of_mem_choices {lefts : List Left} {left : Left}
    (hchoice : (left, some right) ∈ (assign fits lefts rights).choices) :
    fits left right = true := by
  induction lefts generalizing rights with
  | nil => cases hchoice
  | cons first lefts ih =>
      rw [assign_cons, List.mem_cons, Prod.mk.injEq] at hchoice
      cases hchoice with
      | inl hfirst =>
          rw [hfirst.1]
          exact List.find?_some hfirst.2.symm
      | inr hlater => exact ih hlater

/-- Nothing is taken exactly if nothing fits. -/
theorem taken_eq_nil_iff (lefts : List Left) (rights : List Right) :
    (assign fits lefts rights).taken = [] ↔
      ∀ left ∈ lefts, ∀ right ∈ rights, fits left right = false := by
  induction lefts with
  | nil => simp [Assignment.taken]
  | cons left lefts ih =>
      rw [Assignment.taken, assign_cons, List.forall_mem_cons]
      cases hfound : rights.find? (fits left) with
      | none =>
          have hnone : ∀ right ∈ rights, fits left right = false := by
            intro right hright
            simpa using List.find?_eq_none.mp hfound right hright
          rw [List.filterMap_cons_none rfl, eraseP_of_find?_none hfound,
            and_iff_right hnone]
          exact ih
      | some right =>
          refine iff_of_false (List.cons_ne_nil right _) fun hnone => ?_
          have hfits := List.find?_some hfound
          rw [hnone.1 right (List.mem_of_find?_eq_some hfound)] at hfits
          cases hfits

theorem eraseP_congr {q : Right → Bool}
    (hsame : ∀ right ∈ rights, p right = q right) :
    rights.eraseP p = rights.eraseP q := by
  induction rights with
  | nil => rfl
  | cons right rights ih =>
      obtain ⟨hfirst, hlater⟩ := List.forall_mem_cons.mp hsame
      rw [List.eraseP_cons, List.eraseP_cons, hfirst, ih hlater]

/-- An assignment sees only what the fit depends on. -/
theorem assign_map {Left' Right' : Type*} (fits' : Left' → Right' → Bool)
    (f : Left → Left') (g : Right → Right') {lefts : List Left}
    {rights : List Right}
    (hfits : ∀ left ∈ lefts, ∀ right ∈ rights,
      fits' (f left) (g right) = fits left right) :
    assign fits' (lefts.map f) (rights.map g) =
      ⟨(assign fits lefts rights).choices.map (Prod.map f (Option.map g)),
        (assign fits lefts rights).rest.map g⟩ := by
  induction lefts generalizing rights with
  | nil => rfl
  | cons left lefts ih =>
      obtain ⟨hfirst, hlater⟩ := List.forall_mem_cons.mp hfits
      have hrest : ∀ other ∈ lefts, ∀ right ∈ rights.eraseP (fits left),
          fits' (f other) (g right) = fits other right :=
        fun other hother right hright =>
          hlater other hother right (List.mem_of_mem_eraseP hright)
      have hcomp : ∀ right ∈ rights,
          (fits' (f left) ∘ g) right = fits left right := hfirst
      rw [List.map_cons, assign_cons, List.eraseP_map, List.find?_map,
        List.find?_congr hcomp, eraseP_congr hcomp, ih hrest]
      rfl

end Assign

/-! ## The same elements on both sides -/

section Exact

variable {Key : Type*}

/-- Every element takes its own copy and nothing is left over. -/
def Assignment.Exact (assignment : Assignment Key Key) : Prop :=
  (∀ choice ∈ assignment.choices, choice.2 = some choice.1) ∧
    assignment.rest = []

theorem exact_nil_iff (close : Key → Key → Bool) (rights : List Key) :
    (assign close [] rights).Exact ↔ rights = [] := by
  simp [Assignment.Exact]

theorem exact_cons_iff (close : Key → Key → Bool) (left : Key)
    (lefts rights : List Key) :
    (assign close (left :: lefts) rights).Exact ↔
      rights.find? (close left) = some left ∧
        (assign close lefts (rights.eraseP (close left))).Exact := by
  simp only [Assignment.Exact, assign_cons, List.forall_mem_cons, and_assoc]

variable [DecidableEq Key] {close : Key → Key → Bool}

/-- The occurrences of two elements, in order. -/
def occurrences (first second : Key) (keys : List Key) : List Key :=
  keys.filter fun key => key = first ∨ key = second

theorem occurrences_append (first second : Key)
    (before after : List Key) :
    occurrences first second (before ++ after) =
      occurrences first second before ++ occurrences first second after :=
  List.filter_append before after

variable {first second key : Key}

theorem occurrences_cons_of_mem (hkey : key = first ∨ key = second)
    (keys : List Key) :
    occurrences first second (key :: keys) =
      key :: occurrences first second keys :=
  List.filter_cons_of_pos (by simpa using hkey)

theorem occurrences_cons_of_not_mem (hkey : ¬ (key = first ∨ key = second))
    (keys : List Key) :
    occurrences first second (key :: keys) = occurrences first second keys :=
  List.filter_cons_of_neg (by simpa using hkey)

theorem occurrences_eq_nil {keys : List Key}
    (hkeys : ∀ key ∈ keys, ¬ (key = first ∨ key = second)) :
    occurrences first second keys = [] := by
  rw [occurrences, List.filter_eq_nil_iff]
  intro key hkey
  simpa using hkeys key hkey

/-- Two different elements that fit each other occur in the same order. -/
def SameOrder (close : Key → Key → Bool) (lefts rights : List Key) : Prop :=
  ∀ first second, first ≠ second → close first second = true →
    occurrences first second lefts = occurrences first second rights

variable {lefts : List Key} {before after : List Key}

/-- If another element is taken first, that element and the one it was taken
for have changed their order. -/
theorem not_sameOrder_of_taken {other : Key} (hne : other ≠ key)
    (hclose : close key other = true) (hrefl : close key key = true)
    (hbefore : ∀ earlier ∈ before, close key earlier = false) :
    ¬ SameOrder close (key :: lefts) (before ++ other :: after) := by
  intro hsame
  have hpair := hsame key other hne.symm hclose
  have hnone : occurrences key other before = [] := by
    apply occurrences_eq_nil
    intro earlier hearlier hmem
    have hcloseEarlier : close key earlier = true := by
      rcases hmem with rfl | rfl
      · exact hrefl
      · exact hclose
    rw [hbefore earlier hearlier] at hcloseEarlier
    cases hcloseEarlier
  rw [occurrences_append, hnone, occurrences_cons_of_mem (Or.inl rfl),
    occurrences_cons_of_mem (Or.inr rfl), List.nil_append,
    List.cons.injEq] at hpair
  exact hne hpair.1.symm

section Symmetric

variable (hsymm : ∀ first second,
  close first second = true → close second first = true)
include hsymm

/-- Removing one element that nothing close to it precedes keeps the order
of every close pair. -/
theorem sameOrder_cons_iff (hrefl : close key key = true)
    (hbefore : ∀ other ∈ before, close key other = false) :
    SameOrder close (key :: lefts) (before ++ key :: after) ↔
      SameOrder close lefts (before ++ after) := by
  apply forall₄_congr
  intro first second _ hclose
  rw [occurrences_append, occurrences_append]
  by_cases hkey : key = first ∨ key = second
  · have hnone : occurrences first second before = [] := by
      apply occurrences_eq_nil
      intro other hother hpair
      have hcloseOther : close key other = true := by
        rcases hkey with rfl | rfl <;> rcases hpair with rfl | rfl
        · exact hrefl
        · exact hclose
        · exact hsymm _ _ hclose
        · exact hrefl
      rw [hbefore other hother] at hcloseOther
      cases hcloseOther
    rw [hnone, occurrences_cons_of_mem hkey, occurrences_cons_of_mem hkey,
      List.nil_append, List.nil_append, List.cons.injEq]
    exact and_iff_right rfl
  · rw [occurrences_cons_of_not_mem hkey, occurrences_cons_of_not_mem hkey]

/-- First fit is exact on a permutation precisely if close elements keep
their order. -/
theorem exact_iff_sameOrder {rights : List Key}
    (hrefl : ∀ key ∈ lefts, close key key = true)
    (hperm : lefts.Perm rights) :
    (assign close lefts rights).Exact ↔ SameOrder close lefts rights := by
  induction lefts generalizing rights with
  | nil =>
      obtain rfl := hperm.symm.eq_nil
      rw [exact_nil_iff]
      exact ⟨fun _ _ _ _ _ => rfl, fun _ => rfl⟩
  | cons key lefts ih =>
      have hself := hrefl key List.mem_cons_self
      have hmem : key ∈ rights := hperm.subset List.mem_cons_self
      obtain ⟨found, hfound⟩ : ∃ found, rights.find? (close key) = some found :=
        Option.isSome_iff_exists.mp (List.find?_isSome.mpr ⟨key, hmem, hself⟩)
      obtain ⟨before, after, hsplit, herase, hbefore⟩ :=
        exists_split_of_find?_some hfound
      have hclose : close key found = true := List.find?_some hfound
      rw [exact_cons_iff, hfound, herase]
      by_cases hsame : found = key
      · subst hsame
        have hrest : lefts.Perm (before ++ after) := by
          rw [hsplit] at hperm
          exact (hperm.trans List.perm_middle).cons_inv
        rw [hsplit, sameOrder_cons_iff hsymm hself hbefore,
          ← ih (fun other hother => hrefl other (List.mem_cons_of_mem _ hother))
            hrest]
        exact and_iff_right rfl
      · constructor
        · intro hexact
          exact absurd (Option.some.inj hexact.1) hsame
        · intro horder
          rw [hsplit] at horder
          exact absurd horder
            (not_sameOrder_of_taken hsame hclose hself hbefore)

/-- First fit is exact precisely if every element fits itself, both sides hold
the same elements, and close elements keep their order. -/
theorem exact_iff (lefts rights : List Key) :
    (assign close lefts rights).Exact ↔
      (∀ key ∈ lefts, close key key = true) ∧ lefts.Perm rights ∧
        SameOrder close lefts rights := by
  constructor
  · intro hexact
    have hself : ∀ key ∈ lefts, (key, some key) ∈
        (assign close lefts rights).choices := by
      intro key hkey
      rw [← choices_fst close lefts rights] at hkey
      obtain ⟨choice, hchoice, rfl⟩ := List.mem_map.mp hkey
      rw [← hexact.1 choice hchoice]
      exact hchoice
    have hrefl : ∀ key ∈ lefts, close key key = true :=
      fun key hkey => fits_of_mem_choices close (hself key hkey)
    have htaken : (assign close lefts rights).taken = lefts := by
      rw [Assignment.taken, List.filterMap_congr hexact.1,
        List.filterMap_eq_map', choices_fst]
    have hperm := perm_taken_rest close lefts rights
    rw [htaken, hexact.2, List.append_nil] at hperm
    exact ⟨hrefl, hperm,
      (exact_iff_sameOrder hsymm hrefl hperm).mp hexact⟩
  · rintro ⟨hrefl, hperm, horder⟩
    exact (exact_iff_sameOrder hsymm hrefl hperm).mpr horder

end Symmetric

end Exact

end UssdKernel.FirstFit
