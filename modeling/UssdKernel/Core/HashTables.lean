import UssdKernel.Core.Data

/-!
# Hash functions given by a table

A finite table of inputs and digests, extended to all inputs by a constant.
Concrete runs are evaluated with tables of real digests.
-/

namespace UssdKernel.HashTables

/-- The 32 bytes of a digest written as a number. -/
def digest (value : ℕ) : Bytes :=
  (List.range 32).map fun i => UInt8.ofNat (value / 256 ^ (31 - i))

/-- The end of a text as a number, a stand-in for a digest of 256 bits. -/
def endOf (data : Bytes) : BitVec 256 :=
  BitVec.ofNat 256 (data.foldl (fun value byte => value * 256 + byte.toNat) 0)

/-- The hash function that agrees with the table. -/
def tableHash (table : List (Bytes × Bytes)) (data : Bytes) : Bytes :=
  ((table.find? (·.1 = data)).map Prod.snd).getD (List.replicate 32 0)

variable {table : List (Bytes × Bytes)}

theorem length_tableHash (htable : ∀ entry ∈ table, entry.2.length = 32)
    (data : Bytes) :
    (tableHash table data).length = 32 := by
  unfold tableHash
  cases hfound : table.find? (·.1 = data) with
  | none => rfl
  | some entry => exact htable entry (List.mem_of_find?_eq_some hfound)

theorem mem_of_mem_keys {input : Bytes} (hinput : input ∈ table.map Prod.fst) :
    (input, tableHash table input) ∈ table := by
  obtain ⟨entry, hentry, rfl⟩ := List.mem_map.mp hinput
  cases hfound : table.find? (·.1 = entry.1) with
  | none => simpa using List.find?_eq_none.mp hfound entry hentry
  | some found =>
      have hkey : found.1 = entry.1 := by
        simpa using List.find?_some hfound
      have hmem := List.mem_of_find?_eq_some hfound
      rwa [tableHash, hfound, ← hkey]

/-- A table without repeated digests has no collision among its inputs. -/
theorem tableHash_inj (hnodup : (table.map Prod.snd).Nodup) {left right : Bytes}
    (hleft : left ∈ table.map Prod.fst) (hright : right ∈ table.map Prod.fst)
    (hsame : tableHash table left = tableHash table right) : left = right := by
  have hpairs := List.inj_on_of_nodup_map hnodup (mem_of_mem_keys hleft)
    (mem_of_mem_keys hright) hsame
  exact (Prod.mk.inj hpairs).1

end UssdKernel.HashTables
