import Mathlib

/-!
# Data of the tables

What several services store and read: identifiers, byte strings, times in
microseconds, and the order in which a server comes upon rows.
-/

namespace UssdKernel

abbrev Uuid := BitVec 128

abbrev Bytes := List UInt8

/-- In microseconds. -/
def hour : ℤ := 60 * 60 * 1000000

/-- The server may come upon rows in any order. -/
structure Scan (Row : Type) where
  order : List Row → List Row
  perm : ∀ rows, (order rows).Perm rows

def Scan.inOrder {Row : Type} : Scan Row :=
  ⟨id, fun _ => List.Perm.refl _⟩

end UssdKernel
