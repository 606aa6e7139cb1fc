import UssdKernel.Ledger.ChainInserts

/-!
# The audit chain

The trigger `compute_audit_hash` takes advisory lock 999, reads the hash of the
row that is last by `created_at` and `audit_id`, and releases the lock.
`created_at` is the start of the inserting transaction, and the row becomes
visible to other sessions only when that transaction commits.
`verify_audit_chain` goes through the rows of a time window in the order of
`created_at` and `audit_id`, and starts without a previous hash in every window.
-/

namespace UssdKernel.Ledger.AuditTrail

open HashChain LockedInserts OpenTransactions Runs SortedOrders Text

/-! ## Rows -/

inductive AuditCategory
  | dataAccess | dataChange | security | admin | system | compliance
  deriving DecidableEq

def AuditCategory.text : AuditCategory → String
  | .dataAccess => "DATA_ACCESS"
  | .dataChange => "DATA_CHANGE"
  | .security => "SECURITY"
  | .admin => "ADMIN"
  | .system => "SYSTEM"
  | .compliance => "COMPLIANCE"

inductive AuditLevel
  | debug | info | warning | error | critical
  deriving DecidableEq

def AuditLevel.text : AuditLevel → String
  | .debug => "DEBUG"
  | .info => "INFO"
  | .warning => "WARNING"
  | .error => "ERROR"
  | .critical => "CRITICAL"

inductive ActionStatus
  | success | failure | denied | pending
  deriving DecidableEq

def ActionStatus.text : ActionStatus → String
  | .success => "SUCCESS"
  | .failure => "FAILURE"
  | .denied => "DENIED"
  | .pending => "PENDING"

/-- The hashed columns that the inserting statement gives; the data are the
texts of the `JSONB` values. -/
structure AuditContent where
  auditReference : String
  auditCategory : AuditCategory
  auditLevel : AuditLevel
  auditEvent : String
  actorAccountId : Option Uuid
  action : String
  actionStatus : ActionStatus
  tableName : Option String
  recordId : Option String
  oldData : Option String
  newData : Option String
  deriving DecidableEq

/-- A row before its trigger: `audit_id` and `created_at` have their defaults. -/
structure NewAudit where
  auditId : ℤ
  createdAt : ℤ
  content : AuditContent
  deriving DecidableEq

structure AuditRow extends NewAudit where
  previousAuditHash : Option String
  recordHash : String
  deriving DecidableEq

/-- `ORDER BY created_at, audit_id` -/
def NewAudit.place (audit : NewAudit) : ℤ ×ₗ ℤ :=
  toLex (audit.createdAt, audit.auditId)

def AuditRow.place (row : AuditRow) : ℤ ×ₗ ℤ :=
  row.toNewAudit.place

/-! ## The trigger -/

structure AuditHashing where
  sha256 : Bytes → BitVec 256
  /-- The text of the `JSONB` object with the given keys and values. -/
  jsonText : List (String × String) → String
  timestampText : ℤ → String

section Trigger

variable (hashing : AuditHashing)

def auditObject (audit : NewAudit) (previous : Option String) :
    List (String × String) :=
  [("audit_id", toString audit.auditId),
    ("audit_reference", audit.content.auditReference),
    ("audit_category", audit.content.auditCategory.text),
    ("audit_level", audit.content.auditLevel.text),
    ("audit_event", audit.content.auditEvent),
    ("actor_account_id", (audit.content.actorAccountId.map uuid).getD ""),
    ("action", audit.content.action),
    ("action_status", audit.content.actionStatus.text),
    ("table_name", audit.content.tableName.getD ""),
    ("record_id", audit.content.recordId.getD ""),
    ("old_data", audit.content.oldData.getD "\x7b\x7d"),
    ("new_data", audit.content.newData.getD "\x7b\x7d"),
    ("created_at", hashing.timestampText audit.createdAt),
    ("previous_hash", previous.getD "")]

def auditText (audit : NewAudit) (previous : Option String) : String :=
  hashing.jsonText (auditObject hashing audit previous)

/-- `ORDER BY created_at DESC, audit_id DESC LIMIT 1` -/
def lastAuditHash (rows : List AuditRow) : Option String :=
  (rows.insertionSort fun first second =>
    OrderDual.toDual first.place ≤
      OrderDual.toDual second.place).head?.map AuditRow.recordHash

def computeAuditHash (rows : List AuditRow) (audit : NewAudit) : AuditRow :=
  let previous := lastAuditHash rows
  { audit with
    previousAuditHash := previous
    recordHash := generateHash hashing.sha256
      (auditText hashing audit previous) }

end Trigger

/-! ## The verification -/

/-- The row lies in the window; a bound that is `NULL` excludes nothing. -/
def InWindow (start stop : Option ℤ) (row : AuditRow) : Prop :=
  (∀ time ∈ start, time ≤ row.createdAt) ∧ ∀ time ∈ stop, row.createdAt ≤ time

instance (start stop : Option ℤ) (row : AuditRow) :
    Decidable (InWindow start stop row) :=
  inferInstanceAs (Decidable (_ ∧ _))

structure Verification where
  isValid : Bool
  totalRecords : ℕ
  verifiedRecords : ℕ
  brokenAtAuditId : Option ℤ
  deriving DecidableEq

/-- The loop, with `v_previous_hash` and `v_verified`. -/
def checkRows (total : ℕ) : Option String → ℕ → List AuditRow → Verification
  | _, verified, [] => ⟨true, total, verified, none⟩
  | previous, verified, row :: rows =>
      if previous = row.previousAuditHash then
        checkRows total (some row.recordHash) (verified + 1) rows
      else ⟨false, total, verified, some row.auditId⟩

def verifyAuditChain (rows : List AuditRow) (start stop : Option ℤ) :
    Verification :=
  let selected := rows.filter fun row => InWindow start stop row
  checkRows selected.length none 0
    (selected.insertionSort fun first second => first.place ≤ second.place)

/-! ## Sessions -/

structure AuditState (Session : Type*) where
  inserts : State Session NewAudit AuditRow
  /-- The next value of the sequence of `audit_id`. -/
  nextId : ℤ
  /-- The start times of the open transactions. -/
  started : Session → Option ℤ

inductive AuditTurn (Session : Type*)
  | start (session : Session) (now : ℤ)
  | insert (session : Session) (content : AuditContent)
  /-- The trigger of the session goes one step on. -/
  | advance (session : Session)
  | commit (session : Session)
  | abort (session : Session)

section Step

variable {Session : Type*}

def AuditState.initial : AuditState Session where
  inserts := State.initial
  nextId := 1
  started := fun _ => none

variable [DecidableEq Session] (hashing : AuditHashing)

def AuditState.finish (state : AuditState Session) (session : Session)
    (inserts : State Session NewAudit AuditRow) : AuditState Session :=
  { state with
    inserts
    started := Function.update state.started session none }

def AuditState.insert (state : AuditState Session) (session : Session)
    (content : AuditContent) (createdAt : ℤ) : AuditState Session :=
  { state with
    inserts := state.inserts.enter session
      (.waiting ⟨state.nextId, createdAt, content⟩)
    nextId := state.nextId + 1 }

/-- One turn.  A turn that its session cannot take changes nothing. -/
def auditStep (state : AuditState Session) :
    AuditTurn Session → AuditState Session
  | .start session now =>
      if state.started session = none then
        { state with
          started := Function.update state.started session (some now) }
      else state
  | .insert session content =>
      match state.started session with
      | none => state
      | some createdAt =>
          if state.inserts.phase session = .idle then
            state.insert session content createdAt
          else state
  | .advance session =>
      { state with
        inserts := state.inserts.advance
          (fun rows audit => some (computeAuditHash hashing rows audit)) session
          (state.inserts.phase session) }
  | .commit session =>
      if state.inserts.phase session = .idle then
        state.finish session (state.inserts.commit session)
      else state
  | .abort session => state.finish session (state.inserts.abort session)

end Step

section Condition

variable {Session : Type*}

/-- The new row comes after all the rows. -/
def ComesLast (rows : List AuditRow) (audit : NewAudit) : Prop :=
  ∀ row ∈ rows, row.place < audit.place

/-- A read under the lock finds no uncommitted rows of others, and only rows
that its own comes after. -/
def ReadsAlone (state : AuditState Session) : AuditTurn Session → Prop
  | .advance session =>
      (state.inserts.phase session).ReadsAlone ComesLast state.inserts.rows
        session
  | _ => True

instance (rows : List AuditRow) (audit : NewAudit) :
    Decidable (ComesLast rows audit) :=
  inferInstanceAs (Decidable (∀ row ∈ rows, row.place < audit.place))

instance [Fintype Session] [DecidableEq Session] (state : AuditState Session) :
    (turn : AuditTurn Session) → Decidable (ReadsAlone state turn)
  | .start _ _ => isTrue trivial
  | .insert _ _ => isTrue trivial
  | .advance session =>
      inferInstanceAs (Decidable
        ((state.inserts.phase session).ReadsAlone ComesLast state.inserts.rows
          session))
  | .commit _ => isTrue trivial
  | .abort _ => isTrue trivial

end Condition

/-! ## Chains -/

section Chains

variable {hashing : AuditHashing} {rows : List AuditRow} {row : AuditRow}
variable {audit : NewAudit} {start stop : Option ℤ}

/-- Rows in the order of their places, each with its hash and that of the row
before it. -/
abbrev WellChained (hashing : AuditHashing) : List AuditRow → Prop :=
  Chained AuditRow.recordHash AuditRow.previousAuditHash AuditRow.place
    fun row => row.recordHash = generateHash hashing.sha256
      (auditText hashing row.toNewAudit row.previousAuditHash)

theorem WellChained.lastAuditHash_eq (hrows : WellChained hashing rows) :
    lastAuditHash rows = rows.getLast?.map AuditRow.recordHash := by
  rw [lastAuditHash, head?_insertionSort_toDual hrows.ordered]

/-- The trigger extends the chain if its row comes last. -/
theorem WellChained.concat (rows : List AuditRow) (audit : NewAudit)
    (hrows : WellChained hashing rows) (hlast : ComesLast rows audit) :
    WellChained hashing (rows ++ [computeAuditHash hashing rows audit]) :=
  Chained.concat hrows hrows.lastAuditHash_eq hlast rfl

theorem isValid_checkRows_iff (total verified : ℕ) (previous : Option String)
    (rows : List AuditRow) :
    (checkRows total previous verified rows).isValid = true ↔
      LinkedFrom AuditRow.recordHash AuditRow.previousAuditHash previous
        rows := by
  induction rows generalizing previous verified with
  | nil => exact iff_of_true rfl trivial
  | cons row rows ih =>
      rw [checkRows, LinkedFrom]
      by_cases hlink : previous = row.previousAuditHash
      · rw [if_pos hlink, ih, and_iff_right hlink.symm]
      · rw [if_neg hlink]
        exact iff_of_false Bool.false_ne_true fun hlinked =>
          hlink hlinked.1.symm

/-- Rows in the order of their places are read in that order. -/
theorem verifyAuditChain_of_ordered
    (hordered : rows.Pairwise fun first second => first.place < second.place)
    (start stop : Option ℤ) :
    verifyAuditChain rows start stop =
      checkRows (rows.filter fun row => InWindow start stop row).length none 0
        (rows.filter fun row => InWindow start stop row) := by
  have hsorted : (rows.filter fun row => InWindow start stop row).Pairwise
      fun first second => first.place ≤ second.place :=
    (hordered.filter _).imp le_of_lt
  rw [verifyAuditChain, hsorted.insertionSort_eq]

theorem AuditRow.createdAt_le {first second : AuditRow}
    (hplace : first.place < second.place) :
    first.createdAt ≤ second.createdAt := by
  rcases Prod.Lex.lt_iff.mp hplace with hearlier | ⟨hsame, -⟩
  · exact le_of_lt hearlier
  · exact le_of_eq hsame

/-- A window with the first row holds the rows up to its end. -/
theorem filter_inWindow_isPrefix
    (hordered : (row :: rows).Pairwise fun first second =>
      first.place < second.place) (hrow : InWindow start stop row) :
    (row :: rows).filter (fun row => InWindow start stop row) <+:
      row :: rows := by
  apply filter_isPrefix_of_pairwise
  have hfirst := (List.pairwise_cons.mp hordered).1
  refine hordered.imp_of_mem fun {first second} hmem _ hplace => ?_
  rw [decide_eq_true_eq, decide_eq_true_eq]
  intro hsecond
  have hlower : row.createdAt ≤ first.createdAt := by
    rcases List.mem_cons.mp hmem with rfl | hrest
    · exact le_refl _
    · exact AuditRow.createdAt_le (hfirst first hrest)
  exact ⟨fun time htime => (hrow.1 time htime).trans hlower,
    fun time htime =>
      (AuditRow.createdAt_le hplace).trans (hsecond.2 time htime)⟩

/-- Only the first row has no previous hash. -/
theorem WellChained.previous_ne_none
    (hrows : WellChained hashing (row :: rows)) {other : AuditRow}
    (hother : other ∈ rows) : other.previousAuditHash ≠ none := by
  rcases hrows.linked.2.previous_cases hother with hfirst | ⟨before, -, hnamed⟩
  · rw [hfirst]
    exact Option.some_ne_none _
  · rw [hnamed]
    exact Option.some_ne_none _

/-- The window selects no row or the first of all. -/
def StartsWithFirst (rows : List AuditRow) (start stop : Option ℤ) : Prop :=
  (∀ row ∈ rows, ¬ InWindow start stop row) ∨
    ∃ first ∈ rows, InWindow start stop first ∧
      ∀ row ∈ rows, first.place ≤ row.place

theorem WellChained.inWindow_of_startsWithFirst
    (hrows : WellChained hashing (row :: rows))
    (hwindow : StartsWithFirst (row :: rows) start stop)
    (hselected : (row :: rows).filter (fun row => InWindow start stop row) ≠
      []) :
    InWindow start stop row := by
  rcases hwindow with hnone | ⟨first, hfirst, hinside, hleast⟩
  · exact absurd (List.filter_eq_nil_iff.mpr fun other hother hinside =>
      hnone other hother (of_decide_eq_true hinside)) hselected
  · rcases List.mem_cons.mp hfirst with rfl | hrest
    · exact hinside
    · exact absurd (hleast row List.mem_cons_self)
        ((List.pairwise_cons.mp hrows.ordered).1 first hrest).not_ge

/-- A window that starts behind the first row does not verify. -/
theorem WellChained.linkedFrom_filter_iff (hrows : WellChained hashing rows)
    (start stop : Option ℤ) :
    LinkedFrom AuditRow.recordHash AuditRow.previousAuditHash none
        (rows.filter fun row => InWindow start stop row) ↔
      StartsWithFirst rows start stop := by
  cases rows with
  | nil =>
      exact iff_of_true trivial (.inl fun _ hrow => absurd hrow List.not_mem_nil)
  | cons row rows =>
      by_cases hrow : InWindow start stop row
      · refine iff_of_true ?_ (.inr ⟨row, List.mem_cons_self, hrow, ?_⟩)
        · obtain ⟨rest, hrest⟩ := filter_inWindow_isPrefix hrows.ordered hrow
          have hlinked := hrows.linked
          rw [← hrest] at hlinked
          exact hlinked.of_append
        · intro other hother
          rcases List.mem_cons.mp hother with rfl | hrest
          · exact le_refl _
          · exact ((List.pairwise_cons.mp hrows.ordered).1 other hrest).le
      · rw [List.filter_cons_of_neg (by simpa using hrow)]
        cases hselected : rows.filter fun row => InWindow start stop row with
        | nil =>
            refine iff_of_true trivial (.inl fun other hother hinside => ?_)
            rcases List.mem_cons.mp hother with rfl | hrest
            · exact hrow hinside
            · exact List.filter_eq_nil_iff.mp hselected other hrest
                (decide_eq_true hinside)
        | cons first rest =>
            have hfirst : first ∈ rows := List.mem_of_mem_filter
              (hselected ▸ List.mem_cons_self : first ∈ rows.filter _)
            refine iff_of_false (fun hlinked => ?_) fun hwindow => ?_
            · exact hrows.previous_ne_none hfirst hlinked.1
            · refine hrow (hrows.inWindow_of_startsWithFirst hwindow ?_)
              rw [List.filter_cons_of_neg (by simpa using hrow), hselected]
              exact List.cons_ne_nil _ _

theorem WellChained.isValid_verifyAuditChain_iff
    (hrows : WellChained hashing rows) (start stop : Option ℤ) :
    (verifyAuditChain rows start stop).isValid = true ↔
      StartsWithFirst rows start stop := by
  rw [verifyAuditChain_of_ordered hrows.ordered, isValid_checkRows_iff,
    hrows.linkedFrom_filter_iff]

theorem filter_inWindow_none (rows : List AuditRow) :
    rows.filter (fun row => InWindow none none row) = rows := by
  apply List.filter_eq_self.mpr
  intro row _
  exact decide_eq_true
    ⟨fun time htime => absurd htime (Option.not_mem_none time),
      fun time htime => absurd htime (Option.not_mem_none time)⟩

theorem WellChained.isValid_verifyAuditChain (hrows : WellChained hashing rows) :
    (verifyAuditChain rows none none).isValid = true := by
  rw [verifyAuditChain_of_ordered hrows.ordered, isValid_checkRows_iff,
    filter_inWindow_none]
  exact hrows.linked

end Chains

/-! ## Runs -/

section Runs

variable {Session : Type*} [DecidableEq Session] {hashing : AuditHashing}

/-- What holds of the inserts while every read is alone. -/
def AuditInvariant (hashing : AuditHashing) (state : AuditState Session) :
    Prop :=
  LockedInserts.Invariant (WellChained hashing) state.inserts

theorem auditInvariant_step (state : AuditState Session)
    (turn : AuditTurn Session) (hstate : AuditInvariant hashing state)
    (halone : ReadsAlone state turn) :
    AuditInvariant hashing (auditStep hashing state turn) := by
  cases turn with
  | start session now =>
      rw [auditStep]
      by_cases hstarted : state.started session = none
      · rw [if_pos hstarted]
        exact hstate
      · rw [if_neg hstarted]
        exact hstate
  | insert session content =>
      cases hstarted : state.started session with
      | none =>
          simp only [auditStep, hstarted]
          exact hstate
      | some createdAt =>
          simp only [auditStep, hstarted]
          by_cases hidle : state.inserts.phase session = .idle
          · rw [if_pos hidle]
            exact hstate.request _
          · rw [if_neg hidle]
            exact hstate
  | advance session =>
      have hproduce : ∀ rows audit row,
          some (computeAuditHash hashing rows audit) = some row →
            WellChained hashing rows → ComesLast rows audit →
              WellChained hashing (rows ++ [row]) := by
        intro rows audit row hrow hrows hlast
        rw [← Option.some.inj hrow]
        exact WellChained.concat rows audit hrows hlast
      exact hstate.advance hproduce halone
  | commit session =>
      rw [auditStep]
      by_cases hidle : state.inserts.phase session = .idle
      · rw [if_pos hidle]
        exact Invariant.commit hstate hidle
      · rw [if_neg hidle]
        exact hstate
  | abort session => exact Invariant.abort hstate

/-- In every interleaving in which each read under the lock is alone, the whole
chain verifies, and a window exactly if it selects no row or the first. -/
theorem audit_windows_valid_iff (hashing : AuditHashing)
    (turns : List (AuditTurn Session))
    (hturns : Throughout (auditStep hashing) ReadsAlone turns
      AuditState.initial) :
    let rows := (turns.foldl (auditStep hashing)
      AuditState.initial).inserts.rows.committed
    (verifyAuditChain rows none none).isValid = true ∧
      ∀ start stop, (verifyAuditChain rows start stop).isValid = true ↔
        StartsWithFirst rows start stop := by
  have hinitial : AuditInvariant hashing
      (AuditState.initial : AuditState Session) :=
    invariant_initial Chained.nil
  have hfinal : AuditInvariant hashing
      (turns.foldl (auditStep hashing) AuditState.initial) :=
    foldl_invariant auditInvariant_step hinitial hturns
  have hrows := hfinal.rows.committed
  exact ⟨hrows.isValid_verifyAuditChain, hrows.isValid_verifyAuditChain_iff⟩

end Runs

namespace Sample

/-- The bytes as digits. -/
def sha256 (data : Bytes) : BitVec 256 :=
  BitVec.ofNat 256 (data.foldl (fun value byte => value * 257 + byte.toNat) 0)

/-- A value with a mark before each character and one at its end. -/
def marked (value : String) : List Char :=
  value.toList.flatMap (fun char => ['=', char]) ++ [';']

/-- A stand-in for the JSON text, with all values in their order. -/
def jsonText (object : List (String × String)) : String :=
  String.ofList (object.flatMap fun pair => marked pair.2)

def hashing : AuditHashing := ⟨sha256, jsonText, toString⟩

def content (event : String) : AuditContent where
  auditReference := "AUTO"
  auditCategory := .security
  auditLevel := .info
  auditEvent := event
  actorAccountId := none
  action := "LOGIN"
  actionStatus := .success
  tableName := none
  recordId := none
  oldData := none
  newData := none

/-- The turns of an `INSERT` up to the release of the lock. -/
def inserted (session : Bool) : List (AuditTurn Bool) :=
  [.insert session (content "login"), .advance session, .advance session,
    .advance session]

def committed (turns : List (AuditTurn Bool)) : List AuditRow :=
  (turns.foldl (auditStep hashing) AuditState.initial).inserts.rows.committed

/-- One transaction after the other. -/
def serial : List (AuditTurn Bool) :=
  [.start false 1] ++ inserted false ++ [.commit false, .start true 2] ++
    inserted true ++ [.commit true]

theorem audit_windows_valid_iff_serial :
    Throughout (auditStep hashing) ReadsAlone serial AuditState.initial ∧
      (committed serial).map (·.auditId) = [1, 2] ∧
      (verifyAuditChain (committed serial) none none).isValid = true ∧
      ∀ start stop,
        (verifyAuditChain (committed serial) start stop).isValid = true ↔
          StartsWithFirst (committed serial) start stop := by
  have halone : Throughout (auditStep hashing) ReadsAlone serial
      AuditState.initial := by
    decide +kernel
  exact ⟨halone, by decide +kernel,
    audit_windows_valid_iff hashing serial halone⟩

/-- Both sessions read before one of them commits. -/
def overlapping : List (AuditTurn Bool) :=
  [.start false 1, .start true 2] ++ inserted false ++ inserted true ++
    [.commit false, .commit true]

/-- The transaction that started first inserts after the other has committed. -/
def overtaken : List (AuditTurn Bool) :=
  [.start false 1, .start true 2] ++ inserted true ++ [.commit true] ++
    inserted false ++ [.commit false]

/-- The two rows of overlapping transactions do not verify, nor do those of
transactions that insert one after the other but not in the order of their start
times.  Of one transaction after the other the whole chain verifies, and a
window with the second row alone does not. -/
theorem audit_chains_not_valid :
    verifyAuditChain (committed overlapping) none none =
        ⟨false, 2, 1, some 2⟩ ∧
      verifyAuditChain (committed overtaken) none none =
        ⟨false, 2, 0, some 2⟩ ∧
      verifyAuditChain (committed serial) none none = ⟨true, 2, 2, none⟩ ∧
      verifyAuditChain (committed serial) (some 2) none =
        ⟨false, 1, 0, some 2⟩ := by
  refine ⟨?_, ?_, ?_, ?_⟩ <;> decide +kernel

end Sample

end UssdKernel.Ledger.AuditTrail
