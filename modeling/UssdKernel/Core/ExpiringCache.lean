import Mathlib

/-!
# Caches with a time to live

A cache maps a key to a value and the time of its insertion.  A value is
returned as long as less than the time to live has passed since then.  This is
how `moka` documents `time_to_live`, `insert` and `invalidate` for a cache
without a capacity.
-/

namespace UssdKernel

structure ExpiringCache (Key Value : Type*) where
  entries : Key → Option (Value × ℕ)

namespace ExpiringCache

variable {Key Value : Type*}

def empty : ExpiringCache Key Value where
  entries _ := none

def get (cache : ExpiringCache Key Value) (ttl now : ℕ) (key : Key) :
    Option Value :=
  match cache.entries key with
  | some (value, inserted) => if now < inserted + ttl then some value else none
  | none => none

theorem get_empty (ttl now : ℕ) (key : Key) :
    (empty : ExpiringCache Key Value).get ttl now key = none := rfl

variable {cache : ExpiringCache Key Value} {key : Key} {value : Value}

/-- A returned value is an entry that has not expired. -/
theorem get_eq_some {ttl now : ℕ} (hget : cache.get ttl now key = some value) :
    ∃ inserted, cache.entries key = some (value, inserted) ∧
      now < inserted + ttl := by
  unfold get at hget
  split at hget
  · next found inserted hentry =>
    split at hget
    · next hlive =>
      cases hget
      exact ⟨inserted, hentry, hlive⟩
    · cases hget
  · cases hget

variable [DecidableEq Key] {other : Key} {entry : Value × ℕ}

def insert (cache : ExpiringCache Key Value) (now : ℕ) (key : Key)
    (value : Value) : ExpiringCache Key Value where
  entries := Function.update cache.entries key (some (value, now))

def invalidate (cache : ExpiringCache Key Value) (key : Key) :
    ExpiringCache Key Value where
  entries := Function.update cache.entries key none

/-- An entry after an insertion is the inserted one or was there before. -/
theorem entries_insert_eq_some {now : ℕ}
    (hentry : (cache.insert now key value).entries other = some entry) :
    other = key ∧ (value, now) = entry ∨ cache.entries other = some entry := by
  by_cases hkey : other = key
  · subst hkey
    have hself : (cache.insert now other value).entries other =
        some (value, now) := Function.update_self ..
    exact Or.inl ⟨rfl, Option.some.inj (hself.symm.trans hentry)⟩
  · have hother : (cache.insert now key value).entries other =
        cache.entries other := Function.update_of_ne hkey ..
    exact Or.inr (hother.symm.trans hentry)

/-- An entry after an invalidation has another key and was there before. -/
theorem entries_invalidate_eq_some
    (hentry : (cache.invalidate key).entries other = some entry) :
    other ≠ key ∧ cache.entries other = some entry := by
  have hne : other ≠ key := by
    intro hkey
    subst hkey
    have hself : (cache.invalidate other).entries other = none :=
      Function.update_self ..
    rw [hself] at hentry
    cases hentry
  have hother : (cache.invalidate key).entries other = cache.entries other :=
    Function.update_of_ne hne ..
  exact ⟨hne, hother.symm.trans hentry⟩

end ExpiringCache

end UssdKernel
