import Mathlib

/-!
# Sums by key

Entries carry a key and a value.  `sumAt` gives for every key the sum of the
values of its entries, as a function of the key: adding entries adds functions,
and a single entry changes the function at its own key only.
-/

namespace UssdKernel.KeyedSums

variable {Entry Key Value : Type*} [DecidableEq Key] [AddCommMonoid Value]
variable {key : Entry → Key} {value : Entry → Value}

/-- The sum of the values of the entries with a key. -/
def sumAt (key : Entry → Key) (value : Entry → Value) (entries : List Entry)
    (which : Key) : Value :=
  ((entries.filter (key · = which)).map value).sum

@[simp]
theorem sumAt_nil : sumAt key value [] = 0 := rfl

theorem sumAt_append (first second : List Entry) :
    sumAt key value (first ++ second) =
      sumAt key value first + sumAt key value second := by
  funext which
  rw [Pi.add_apply, sumAt, List.filter_append, List.map_append,
    List.sum_append]
  rfl

theorem sumAt_singleton (entry : Entry) :
    sumAt key value [entry] = Pi.single (key entry) (value entry) := by
  funext which
  by_cases hkey : key entry = which
  · subst hkey
    rw [Pi.single_eq_same, sumAt, List.filter_singleton]
    simp
  · rw [Pi.single_eq_of_ne (Ne.symm hkey), sumAt, List.filter_singleton]
    simp [hkey]

end UssdKernel.KeyedSums
