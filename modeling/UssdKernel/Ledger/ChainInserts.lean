import UssdKernel.Core.HashChain
import UssdKernel.Core.HashTables
import UssdKernel.Core.LockedInserts
import UssdKernel.Core.Runs
import UssdKernel.Core.SortedOrders
import UssdKernel.Ledger.Transactions

/-!
# Concurrent inserts into the transaction chain

The trigger `compute_transaction_hash` takes advisory lock 998, reads the hash
of the row with the greatest `chain_sequence` and releases the lock.  The new
row becomes visible to other sessions only when its transaction commits, and
its `chain_sequence` comes from a sequence of which every session caches 100
values.  So two sessions can read the same row, and a row can follow one with
a greater `chain_sequence`.  The chain is linear as long as every read finds no
uncommitted row of another session and only smaller sequence values.
-/

namespace UssdKernel.Ledger

open HashChain LockedInserts OpenTransactions Runs SortedOrders Text

/-- The columns that `record_hash` covers; `data` is the text of the JSON
object with the type, the initiator, the amount, the status and the key. -/
structure RowData where
  transactionUuid : Uuid
  data : String
  committedAt : ℤ
  deriving DecidableEq

structure ChainRow where
  content : RowData
  chainSequence : ℕ
  previousHash : Option String
  recordHash : String
  deriving DecidableEq

/-- `generate_hash` -/
def generateHash (sha256 : Bytes → BitVec 256) (text : String) : String :=
  hexDigits (sha256 (utf8 text))

/-- How the database reads `generate_row_hash`.  The function puts
`v_previous_hash` before the text, a name that it does not declare. -/
structure Hashing where
  sha256 : Bytes → BitVec 256
  timestampText : ℤ → String
  /-- The name means the parameter `p_previous_hash`.  As the source stands it
  does not, and the function raises. -/
  declared : Bool

section Hashing

variable (hashing : Hashing)

/-- The text that `generate_row_hash` hashes for the log, unless it raises. -/
def rowText (content : RowData) (previous : Option String) : Option String :=
  let composite := "core.transaction_log" ++ ":" ++
    uuid content.transactionUuid ++ ":" ++ content.data ++ ":" ++
    hashing.timestampText content.committedAt
  match previous with
  | none => some composite
  | some hash =>
      if hashing.declared then some (hash ++ ":" ++ composite) else none

def generateRowHash (content : RowData) (previous : Option String) :
    Option String :=
  (rowText hashing content previous).map (generateHash hashing.sha256)

end Hashing

/-- `ORDER BY chain_sequence DESC LIMIT 1` -/
def latestHash (rows : List ChainRow) : Option String :=
  (rows.insertionSort fun first second =>
    OrderDual.toDual first.chainSequence ≤
      OrderDual.toDual second.chainSequence).head?.map ChainRow.recordHash

/-! ## Sessions -/

/-- A session draws the default of `chain_sequence`, and the trigger of its
`INSERT` then waits for the lock. -/
structure ChainState (Session : Type*) where
  inserts : State Session (RowData × ℕ) ChainRow
  /-- The next value of `core.global_event_sequence` that no session has. -/
  nextValue : ℕ
  cache : Session → List ℕ

inductive ChainTurn (Session : Type*)
  | insert (session : Session) (content : RowData)
  /-- The trigger of the session goes one step on. -/
  | advance (session : Session)
  | commit (session : Session)
  | abort (session : Session)

section Step

variable {Session : Type*}

def ChainState.initial : ChainState Session where
  inserts := State.initial
  nextValue := 1
  cache := fun _ => []

variable [DecidableEq Session] (hashing : Hashing)

section Moves

variable (state : ChainState Session)

/-- `nextval` on a sequence with `CACHE 100`. -/
def ChainState.nextval (session : Session) :
    ℕ × ChainState Session :=
  match state.cache session with
  | value :: rest =>
      (value, { state with cache := Function.update state.cache session rest })
  | [] =>
      (state.nextValue,
        { state with
          nextValue := state.nextValue + 100
          cache := Function.update state.cache session
            (List.range' (state.nextValue + 1) 99) })

/-- The row that `compute_transaction_hash` makes, unless it raises; its handler
then releases the lock, and the transaction fails. -/
def computeTransactionHash (rows : List ChainRow) (request : RowData × ℕ) :
    Option ChainRow :=
  let previous := latestHash rows
  (generateRowHash hashing request.1 previous).map fun hash =>
    ⟨request.1, request.2, previous, hash⟩

def chainStep :
    ChainTurn Session → ChainState Session
  | .insert session content =>
      if state.inserts.phase session = .idle then
        let (sequence, drawn) := state.nextval session
        { drawn with
          inserts := drawn.inserts.enter session
            (.waiting (content, sequence)) }
      else state
  | .advance session =>
      { state with
        inserts := state.inserts.advance (computeTransactionHash hashing)
          session (state.inserts.phase session) }
  | .commit session =>
      if state.inserts.phase session = .idle then
        { state with inserts := state.inserts.commit session }
      else state
  | .abort session => { state with inserts := state.inserts.abort session }

end Moves

end Step

/-! ## Linear chains -/

/-- No two rows have the same `previous_hash`, and in the order of
`chain_sequence` each one names the row before it. -/
def Linear (rows : List ChainRow) : Prop :=
  (rows.map ChainRow.previousHash).Nodup ∧
    ∀ sorted, OrderedBy ChainRow.chainSequence rows sorted →
      LinkedFrom ChainRow.recordHash ChainRow.previousHash none sorted

/-- The texts that the rows' hashes were taken of. -/
def rowTexts (hashing : Hashing) (rows : List ChainRow) : List String :=
  rows.filterMap fun row => rowText hashing row.content row.previousHash

section Condition

variable {Session : Type*}

/-- The drawn sequence value is greater than all others. -/
def Greatest (rows : List ChainRow) (request : RowData × ℕ) : Prop :=
  ∀ row ∈ rows, row.chainSequence < request.2

/-- A read under the lock finds no uncommitted rows of others, and only smaller
sequence values than the one drawn. -/
def ReadsAlone (state : ChainState Session) : ChainTurn Session → Prop
  | .advance session =>
      (state.inserts.phase session).ReadsAlone Greatest state.inserts.rows
        session
  | _ => True

instance (rows : List ChainRow) (request : RowData × ℕ) :
    Decidable (Greatest rows request) :=
  inferInstanceAs (Decidable (∀ row ∈ rows, row.chainSequence < request.2))

instance [Fintype Session] [DecidableEq Session] (state : ChainState Session) :
    (turn : ChainTurn Session) → Decidable (ReadsAlone state turn)
  | .insert _ _ => isTrue trivial
  | .advance session =>
      inferInstanceAs (Decidable
        ((state.inserts.phase session).ReadsAlone Greatest state.inserts.rows
          session))
  | .commit _ => isTrue trivial
  | .abort _ => isTrue trivial

end Condition

/-! ## Hashed texts -/

section Texts

variable {hashing : Hashing} (digest : BitVec 256)

theorem length_hexDigits :
    (hexDigits digest).toList.length = 64 := by
  simp [hexDigits]

/-- The text of a first row begins with `co`, and `o` is no hex digit. -/
theorem o_not_mem_hexDigits :
    'o' ∉ (hexDigits digest).toList := by
  have hdigits : ∀ value < 16, Char.ofUInt8 (digit value) ≠ 'o' := by decide
  intro hmem
  rw [hexDigits, String.toList_ofList] at hmem
  obtain ⟨place, -, hchar⟩ := List.mem_map.mp hmem
  exact hdigits _ (Nat.mod_lt _ (by decide)) hchar

/-- The value is missing or a digest. -/
def IsDigest (hash : Option String) : Prop :=
  ∀ text ∈ hash, ∃ digest, text = hexDigits digest

theorem composite_ne_prefixed (rest other : String) :
    "core.transaction_log" ++ rest ≠ hexDigits digest ++ other := by
  intro hsame
  have hlist := congrArg String.toList hsame
  rw [String.toList_append, String.toList_append] at hlist
  have htake := congrArg (List.take 2) hlist
  rw [List.take_append_of_le_length (by decide),
    List.take_append_of_le_length (by rw [length_hexDigits]; decide)] at htake
  have hmem : 'o' ∈ (hexDigits digest).toList.take 2 := by
    rw [← htake]
    decide
  exact o_not_mem_hexDigits digest (List.mem_of_mem_take hmem)

/-- Digests have one length. -/
theorem hexDigits_eq_of_append {digest digest' : BitVec 256}
    {rest other : String}
    (hsame : hexDigits digest ++ rest = hexDigits digest' ++ other) :
    hexDigits digest = hexDigits digest' := by
  have hlists := congrArg String.toList hsame
  rw [String.toList_append, String.toList_append] at hlists
  exact String.toList_inj.mp (List.append_inj_left hlists
    ((length_hexDigits digest).trans (length_hexDigits digest').symm))

/-- The text of a row determines the previous hash in it. -/
theorem previous_eq_of_rowText {first second : RowData}
    {previous other : Option String} {text : String}
    (hprevious : IsDigest previous) (hother : IsDigest other)
    (hfirst : rowText hashing first previous = some text)
    (hsecond : rowText hashing second other = some text) :
    previous = other := by
  cases hdeclared : hashing.declared with
  | false =>
      cases previous <;> cases other <;> simp_all [rowText]
  | true =>
      cases previous with
      | none =>
          cases other with
          | none => rfl
          | some hash =>
              obtain ⟨digest, rfl⟩ := hother hash rfl
              simp only [rowText, hdeclared, if_true, Option.some.injEq,
                String.append_assoc] at hfirst hsecond
              exact absurd (hfirst.trans hsecond.symm)
                (composite_ne_prefixed digest _ _)
      | some hash =>
          obtain ⟨digest, rfl⟩ := hprevious hash rfl
          cases other with
          | none =>
              simp only [rowText, hdeclared, if_true, Option.some.injEq,
                String.append_assoc] at hfirst hsecond
              exact absurd (hsecond.trans hfirst.symm)
                (composite_ne_prefixed digest _ _)
          | some hash' =>
              obtain ⟨digest', rfl⟩ := hother hash' rfl
              simp only [rowText, hdeclared, if_true, Option.some.injEq,
                String.append_assoc] at hfirst hsecond
              exact congrArg some
                (hexDigits_eq_of_append (hfirst.trans hsecond.symm))

end Texts

/-! ## Chains that inserts extend -/

section Chains

variable {hashing : Hashing} {rows : List ChainRow} {row : ChainRow}

/-- The hash of the row is that of its text. -/
def Sealed (hashing : Hashing) (row : ChainRow) : Prop :=
  generateRowHash hashing row.content row.previousHash = some row.recordHash

/-- Rows in the order of their insertion: linked, with growing sequence
values. -/
abbrev WellChained (hashing : Hashing) : List ChainRow → Prop :=
  Chained ChainRow.recordHash ChainRow.previousHash ChainRow.chainSequence
    (Sealed hashing)

section Chained

variable (hrows : WellChained hashing rows)
include hrows

/-- The row with the greatest sequence value is the last one. -/
theorem WellChained.latestHash_eq :
    latestHash rows = rows.getLast?.map ChainRow.recordHash := by
  rw [latestHash, head?_insertionSort_toDual hrows.ordered]

theorem WellChained.isDigest_previousHash (hrow : row ∈ rows) :
    IsDigest row.previousHash := by
  intro text htext
  rcases hrows.linked.previous_cases hrow with hnone | ⟨other, hother, hnamed⟩
  · rw [hnone] at htext
    cases htext
  · have hhash := hrows.hashes other (List.mem_of_mem_dropLast hother)
    obtain ⟨source, -, hdigest⟩ := Option.map_eq_some_iff.mp hhash
    rw [hnamed] at htext
    rw [← Option.some.inj htext, ← hdigest]
    exact ⟨_, rfl⟩

/-- Rows with one hash have one previous hash, unless two texts collide. -/
theorem WellChained.previousHash_eq
    (hcollision : ¬ Collision (generateHash hashing.sha256)
      (rowTexts hashing rows))
    {other : ChainRow} (hrow : row ∈ rows) (hother : other ∈ rows)
    (hhash : row.recordHash = other.recordHash) :
    row.previousHash = other.previousHash := by
  obtain ⟨text, htext, hdigest⟩ :=
    Option.map_eq_some_iff.mp (hrows.hashes row hrow)
  obtain ⟨text', htext', hdigest'⟩ :=
    Option.map_eq_some_iff.mp (hrows.hashes other hother)
  have hsame : text = text' := by
    by_contra hne
    exact hcollision ⟨text, List.mem_filterMap.mpr ⟨row, hrow, htext⟩, text',
      List.mem_filterMap.mpr ⟨other, hother, htext'⟩, hne,
      hdigest.trans (hhash.trans hdigest'.symm)⟩
  subst hsame
  exact previous_eq_of_rowText (hrows.isDigest_previousHash hrow)
    (hrows.isDigest_previousHash hother) htext htext'

theorem WellChained.linear_or_collision :
    Linear rows ∨
      Collision (generateHash hashing.sha256) (rowTexts hashing rows) := by
  by_cases hcollision : Collision (generateHash hashing.sha256)
      (rowTexts hashing rows)
  · exact Or.inr hcollision
  · refine Or.inl ⟨hrows.linked.nodup_previous fun left hleft right hright =>
      hrows.previousHash_eq hcollision hleft hright, fun sorted hsorted => ?_⟩
    -- the order of insertion is the only one by the sequence values
    rw [OrderedBy.eq_of_pairwise_lt hrows.ordered (List.Perm.refl rows) hsorted]
    exact hrows.linked

end Chained

end Chains

/-! ## Runs -/

section Runs

variable {Session : Type*} {hashing : Hashing}

def ChainInvariant (hashing : Hashing) (state : ChainState Session) : Prop :=
  LockedInserts.Invariant (WellChained hashing) state.inserts

variable [DecidableEq Session]

theorem inserts_nextval (state : ChainState Session) (session : Session) :
    (state.nextval session).2.inserts = state.inserts := by
  cases hcache : state.cache session with
  | nil | cons value rest => simp only [ChainState.nextval, hcache]

theorem wellChained_computed (rows : List ChainRow) (request : RowData × ℕ)
    (row : ChainRow)
    (hrow : computeTransactionHash hashing rows request = some row)
    (hrows : WellChained hashing rows) (hgreatest : Greatest rows request) :
    WellChained hashing (rows ++ [row]) := by
  obtain ⟨hash, hhash, rfl⟩ := Option.map_eq_some_iff.mp hrow
  exact hrows.concat hrows.latestHash_eq hgreatest hhash

theorem chainInvariant_step (state : ChainState Session)
    (turn : ChainTurn Session) (hstate : ChainInvariant hashing state)
    (halone : ReadsAlone state turn) :
    ChainInvariant hashing (chainStep hashing state turn) := by
  cases turn with
  | insert session content =>
      rw [chainStep]
      by_cases hidle : state.inserts.phase session = .idle
      · rw [if_pos hidle, ChainInvariant]
        dsimp only
        rw [inserts_nextval]
        exact hstate.request _
      · rw [if_neg hidle]
        exact hstate
  | advance session => exact hstate.advance wellChained_computed halone
  | commit session =>
      rw [chainStep]
      by_cases hidle : state.inserts.phase session = .idle
      · rw [if_pos hidle]
        exact hstate.commit hidle
      · rw [if_neg hidle]
        exact hstate
  | abort session => exact hstate.abort

/-- In every interleaving in which each read under the lock is alone, the
committed rows form one chain, or two of their texts have one hash. -/
theorem committed_linear_or_collision (hashing : Hashing)
    (turns : List (ChainTurn Session))
    (hturns : Throughout (chainStep hashing) ReadsAlone turns
      ChainState.initial) :
    let rows := (turns.foldl (chainStep hashing)
      ChainState.initial).inserts.rows.committed
    Linear rows ∨
      Collision (generateHash hashing.sha256) (rowTexts hashing rows) := by
  have hfinal : ChainInvariant hashing
      (turns.foldl (chainStep hashing) ChainState.initial) :=
    foldl_invariant chainInvariant_step (invariant_initial Chained.nil) hturns
  exact hfinal.rows.committed.linear_or_collision

end Runs

namespace ChainInsertSample

def hashing (declared : Bool) : Hashing :=
  ⟨HashTables.endOf, toString, declared⟩

/-- The turns of an `INSERT` up to the release of the lock. -/
def inserted (session : Bool) (id : ℕ) : List (ChainTurn Bool) :=
  [.insert session ⟨BitVec.ofNat 128 id, toString id, id⟩,
    .advance session, .advance session, .advance session]

def committed (declared : Bool) (turns : List (ChainTurn Bool)) :
    List ChainRow :=
  (turns.foldl (chainStep (hashing declared))
    ChainState.initial).inserts.rows.committed

/-- One session after the other. -/
def serial : List (ChainTurn Bool) :=
  inserted false 1 ++ [.commit false] ++ inserted true 2 ++ [.commit true]

theorem committed_linear_or_collision_serial :
    Throughout (chainStep (hashing true)) ReadsAlone serial
        ChainState.initial ∧
      (committed true serial).map ChainRow.chainSequence = [1, 101] ∧
      (Linear (committed true serial) ∨
        Collision (generateHash HashTables.endOf)
          (rowTexts (hashing true) (committed true serial))) := by
  have halone : Throughout (chainStep (hashing true)) ReadsAlone serial
      ChainState.initial := by
    decide +kernel
  exact ⟨halone, by decide +kernel,
    committed_linear_or_collision (hashing true) serial halone⟩

/-- Both sessions read before one of them commits. -/
def overlapping : List (ChainTurn Bool) :=
  inserted false 1 ++ inserted true 2 ++ [.commit false, .commit true]

/-- The first session goes on with its cached sequence values after the second
one has committed; no two transactions overlap. -/
def cached : List (ChainTurn Bool) :=
  serial ++ inserted false 3 ++ [.commit false]

/-- Two committed rows without a previous hash, with `generate_row_hash` as it
stands and as it is meant; and a row with sequence value 2 that names the one
with 101.  No texts collide. -/
theorem chains_not_linear :
    ((committed false overlapping).map ChainRow.previousHash = [none, none] ∧
        ¬ Linear (committed false overlapping)) ∧
      ((committed true overlapping).map ChainRow.previousHash = [none, none] ∧
        ¬ Linear (committed true overlapping)) ∧
      ((committed true cached).map ChainRow.chainSequence = [1, 101, 2] ∧
        ¬ Linear (committed true cached)) ∧
      ¬ Collision (generateHash HashTables.endOf)
        (rowTexts (hashing false) (committed false overlapping)) ∧
      ¬ Collision (generateHash HashTables.endOf)
        (rowTexts (hashing true) (committed true overlapping)) ∧
      ¬ Collision (generateHash HashTables.endOf)
        (rowTexts (hashing true) (committed true cached)) := by
  have hwritten : (committed false overlapping).map ChainRow.previousHash =
      [none, none] := by
    decide +kernel
  have hmeant : (committed true overlapping).map ChainRow.previousHash =
      [none, none] := by
    decide +kernel
  have hrepeated : ¬ ([none, none] : List (Option String)).Nodup := by decide
  refine ⟨⟨hwritten, fun hlinear => hrepeated (hwritten ▸ hlinear.1)⟩,
    ⟨hmeant, fun hlinear => hrepeated (hmeant ▸ hlinear.1)⟩,
    ⟨by decide +kernel, fun hlinear => ?_⟩, ?_, ?_, ?_⟩
  · -- in the order of the sequence the second row does not name the first
    have hbroken : ¬ LinkedFrom ChainRow.recordHash ChainRow.previousHash none
        ((committed true cached).insertionSort
          (·.chainSequence ≤ ·.chainSequence)) := by
      decide +kernel
    exact hbroken (hlinear.2 _
      (orderedBy_insertionSort ChainRow.chainSequence _))
  all_goals
    unfold Collision
    decide +kernel

end ChainInsertSample

end UssdKernel.Ledger
