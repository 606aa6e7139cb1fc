import UssdKernel.Audit.Handler

/-!
# Signatures of concurrent batch computations

Several calls of `compute_daily_batch` for one date run next to each other and
next to appended events.  A call that meets another call's row overwrites its
hash but keeps its id, and signatures are written by id, so that a row can end
with another call's signature.  The row and the progress of the calls form a
small protocol of their own; the calls follow it as long as no call overwrites
a hash with another one.
-/

namespace UssdKernel.AuditHandler

open UssdKernel.Batches
open UssdKernel.Interleaving
open UssdKernel.KeyedTables
open UssdKernel.Merkle
open UssdKernel.Programs

/-! ## The protocol -/

/-- How far a call has come: it has found no row, it holds the id and the hash
of a record, it has signed the hash, or it has stored the signature.  Another
service is only ever appending. -/
inductive Phase
  | appending
  | fresh
  | missing
  | held (batchId : Uuid) (batchHash : Bytes)
  | signed (batchId : Uuid) (batchHash signature : Bytes)
  | stored (batchId : Uuid) (batchHash : Bytes)
  deriving DecidableEq

/-- The id under which a call stores its signature. -/
def Phase.batchId : Phase → Option Uuid
  | appending => none
  | fresh => none
  | missing => none
  | held batchId _ => some batchId
  | signed batchId _ _ => some batchId
  | stored batchId _ => some batchId

/-- The call has looked for the row. -/
def Phase.looked : Phase → Bool
  | appending => false
  | fresh => false
  | _ => true

theorem Phase.looked_of_batchId {phase : Phase} {batchId : Uuid}
    (hphase : phase.batchId = some batchId) : phase.looked = true := by
  cases phase with
  | appending => cases hphase
  | fresh => cases hphase
  | _ => rfl

/-- What one operation of a call does to the row of the date and to the
progress of the call, if a row is only overwritten with its own hash. -/
inductive Effect (sign : Bytes → Except AuditError Bytes) :
    Option BatchRow → Phase → Option BatchRow → Phase → Prop
  | idle (row : Option BatchRow) (phase : Phase) : Effect sign row phase row phase
  | found (row : BatchRow) :
      Effect sign (some row) .fresh (some row)
        (.held row.record.batchId row.record.batchHash)
  | missed : Effect sign none .fresh none .missing
  | inserted (record : BatchHashRecord) :
      Effect sign none .missing (some (BatchRow.unsigned record))
        (.held record.batchId record.batchHash)
  | merged (row : BatchRow) (record : BatchHashRecord)
      (hhash : row.record.batchHash = record.batchHash) :
      Effect sign (some row) .missing (some (row.replaced record))
        (.held record.batchId record.batchHash)
  | signs (row : Option BatchRow) (batchId : Uuid)
      (batchHash signature : Bytes)
      (hsign : sign batchHash = .ok signature) :
      Effect sign row (.held batchId batchHash) row
        (.signed batchId batchHash signature)
  | stores (row : Option BatchRow) (batchId : Uuid)
      (batchHash signature : Bytes) (keyId : String) (now : Timestamp) :
      Effect sign row (.signed batchId batchHash signature)
        (row.map fun row => if row.record.batchId = batchId
          then row.signed signature keyId now else row)
        (.stored batchId batchHash)

section Protocol

variable {Id : Type} (verify : Bytes → Bytes → Bool)

section Rows

variable (state : Option BatchRow)

def HasHash (batchHash : Bytes) : Prop :=
  state.map (·.record.batchHash) = some batchHash

/-- If the row has the id, it has a signature over its own hash. -/
def SignedAs (batchId : Uuid) : Prop :=
  ∀ row, state = some row → row.record.batchId = batchId →
    ∃ signature, row.signature = some signature ∧
      verify row.record.batchHash signature = true

/-- A call signs the hash of the stored row, and when it has stored its
signature the row with its id is signed. -/
def Phase.Sound : Phase → Prop
  | appending => True
  | fresh => True
  | missing => True
  | held _ batchHash => HasHash state batchHash
  | signed _ batchHash signature =>
      HasHash state batchHash ∧ verify batchHash signature = true
  | stored batchId batchHash =>
      HasHash state batchHash ∧ SignedAs verify state batchId

/-- Once a call has looked for the row, some call stores its signature under
the id of the row. -/
structure SignsOwnHash (phases : Id → Phase) :
    Prop where
  sound : ∀ i, (phases i).Sound verify state
  owner : ∀ row, state = some row → (∀ i, (phases i).looked = false) ∨
    ∃ i, (phases i).batchId = some row.record.batchId

end Rows

variable {verify} {sign : Bytes → Except AuditError Bytes}
variable {row : BatchRow} {state after : Option BatchRow} {phase : Phase}
variable {phases : Id → Phase}

theorem Phase.sound_of_not_looked (hphase : phase.looked = false)
    (state : Option BatchRow) : phase.Sound verify state := by
  cases phase with
  | appending | fresh => trivial
  | _ => cases hphase

theorem signsOwnHash_of_not_looked (state : Option BatchRow)
    (hphases : ∀ i, (phases i).looked = false) :
    SignsOwnHash verify state phases where
  sound := fun i => Phase.sound_of_not_looked (hphases i) state
  owner := fun _ _ => Or.inl hphases

/-- A change of the row that keeps its hash and every signature over it. -/
theorem Phase.Sound.mono (hsound : phase.Sound verify state)
    (hhash : ∀ batchHash, HasHash state batchHash → HasHash after batchHash)
    (hsigned : ∀ batchId, SignedAs verify state batchId →
      SignedAs verify after batchId) :
    phase.Sound verify after := by
  cases phase with
  | appending | fresh | missing => trivial
  | held batchId batchHash => exact hhash batchHash hsound
  | signed batchId batchHash signature =>
      exact ⟨hhash batchHash hsound.1, hsound.2⟩
  | stored batchId batchHash =>
      exact ⟨hhash batchHash hsound.1, hsigned batchId hsound.2⟩

/-- Without a row no call holds a record. -/
theorem Phase.Sound.of_none (hsound : phase.Sound verify none)
    (after : Option BatchRow) : phase.Sound verify after := by
  cases phase with
  | appending | fresh | missing => trivial
  | held batchId batchHash => cases hsound
  | signed batchId batchHash signature => cases hsound.1
  | stored batchId batchHash => cases hsound.1

variable [DecidableEq Id] {mover : Id} {batchId : Uuid}
  {batchHash signature : Bytes}

/-- One call moves on, and the others stay sound. -/
theorem sound_update (hmover : phase.Sound verify after)
    (hothers : ∀ i, (phases i).Sound verify after) (i : Id) :
    (Function.update phases mover phase i).Sound verify after := by
  rw [Function.update_apply]
  split_ifs
  · exact hmover
  · exact hothers i

theorem SignsOwnHash.found (hsigns : SignsOwnHash verify (some row) phases) :
    SignsOwnHash verify (some row) (Function.update phases mover
      (.held row.record.batchId row.record.batchHash)) where
  sound := sound_update rfl hsigns.sound
  owner := by
    intro stored hstored
    cases hstored
    exact Or.inr ⟨mover, by rw [Function.update_self, Phase.batchId]⟩

theorem SignsOwnHash.missed (hsigns : SignsOwnHash verify none phases) :
    SignsOwnHash verify none (Function.update phases mover .missing) where
  sound := sound_update trivial hsigns.sound
  owner := by
    intro stored hstored
    cases hstored

theorem SignsOwnHash.inserted (hsigns : SignsOwnHash verify none phases)
    (record : BatchHashRecord) :
    SignsOwnHash verify (some (BatchRow.unsigned record))
      (Function.update phases mover
        (.held record.batchId record.batchHash)) where
  sound := sound_update rfl fun i => (hsigns.sound i).of_none _
  owner := by
    intro stored hstored
    cases hstored
    exact Or.inr ⟨mover, by
      rw [Function.update_self, Phase.batchId]
      rfl⟩

theorem SignsOwnHash.merged (hsigns : SignsOwnHash verify (some row) phases)
    (hmover : phases mover = .missing) {record : BatchHashRecord}
    (hhash : row.record.batchHash = record.batchHash) :
    SignsOwnHash verify (some (row.replaced record))
      (Function.update phases mover
        (.held record.batchId record.batchHash)) where
  sound := by
    apply sound_update
    · exact rfl
    · intro i
      apply (hsigns.sound i).mono
      · intro batchHash hrow
        rw [HasHash, Option.map_some, hhash] at hrow
        exact hrow
      · intro batchId hsigned stored hstored hid
        cases hstored
        obtain ⟨signature, hsignature, hverify⟩ := hsigned row rfl hid
        rw [hhash] at hverify
        exact ⟨signature, hsignature, hverify⟩
  owner := by
    intro stored hstored
    cases hstored
    rcases hsigns.owner row rfl with hnone | ⟨i, howner⟩
    · have hlooked := hnone mover
      rw [hmover] at hlooked
      cases hlooked
    · have hne : i ≠ mover := by
        intro hsame
        rw [hsame, hmover] at howner
        cases howner
      refine Or.inr ⟨i, ?_⟩
      rw [Function.update_of_ne hne]
      exact howner

section Signs

variable (hsigns : SignsOwnHash verify state phases)

include hsigns

/-- A call that keeps its id keeps the owner of the row. -/
theorem SignsOwnHash.owner_update
    (hmover : (phases mover).batchId = some batchId)
    (hphase : phase.batchId = some batchId) (hrow : state = some row) :
    ∃ i, (Function.update phases mover phase i).batchId =
      some row.record.batchId := by
  rcases hsigns.owner row hrow with hnone | ⟨i, howner⟩
  · cases (Phase.looked_of_batchId hmover).symm.trans (hnone mover)
  · refine ⟨i, ?_⟩
    rw [Function.update_apply]
    split_ifs with hsame
    · rw [hsame, hmover] at howner
      rw [hphase, howner]
    · exact howner

theorem SignsOwnHash.signs (hmover : phases mover = .held batchId batchHash)
    (hverify : verify batchHash signature = true) :
    SignsOwnHash verify state (Function.update phases mover
      (.signed batchId batchHash signature)) where
  sound := by
    have hsound := hsigns.sound mover
    rw [hmover] at hsound
    exact sound_update ⟨hsound, hverify⟩ hsigns.sound
  owner := by
    intro row hrow
    right
    exact hsigns.owner_update (congrArg Phase.batchId hmover) rfl hrow

theorem SignsOwnHash.stores
    (hmover : phases mover = .signed batchId batchHash signature)
    (keyId : String) (now : Timestamp) :
    SignsOwnHash verify
      (state.map fun row => if row.record.batchId = batchId
        then row.signed signature keyId now else row)
      (Function.update phases mover (.stored batchId batchHash)) := by
  have hsound := hsigns.sound mover
  rw [hmover] at hsound
  obtain ⟨hhash, hverify⟩ := hsound
  cases state with
  | none => cases hhash
  | some row =>
      have hrowHash : row.record.batchHash = batchHash := Option.some.inj hhash
      rw [Option.map_some]
      split_ifs with hid
      · -- the row is this call's own
        have hsigned : ∀ other, SignedAs verify
            (some (row.signed signature keyId now)) other := by
          intro other stored hstored _
          cases hstored
          refine ⟨signature, rfl, ?_⟩
          rw [← hrowHash] at hverify
          exact hverify
        constructor
        · apply sound_update
          · exact ⟨hhash, hsigned batchId⟩
          · intro i
            exact (hsigns.sound i).mono (fun _ hrow => hrow)
              fun other _ => hsigned other
        · intro stored hstored
          have howner : ∃ i, (Function.update phases mover
              (.stored batchId batchHash) i).batchId =
                some row.record.batchId :=
            hsigns.owner_update (congrArg Phase.batchId hmover) rfl rfl
          cases hstored
          exact Or.inr howner
      · have hsigned : SignedAs verify (some row) batchId := by
          intro stored hstored hstoredId
          cases hstored
          exact absurd hstoredId hid
        constructor
        · exact sound_update ⟨hhash, hsigned⟩ hsigns.sound
        · intro stored hstored
          right
          exact hsigns.owner_update (congrArg Phase.batchId hmover) rfl hstored

end Signs

/-- Every effect of a call keeps the protocol's invariant. -/
theorem SignsOwnHash.step
    (hsign : ∀ message signature, sign message = .ok signature →
      verify message signature = true)
    (hsigns : SignsOwnHash verify state phases)
    (heffect : Effect sign state (phases mover) after phase) :
    SignsOwnHash verify after (Function.update phases mover phase) := by
  generalize hmover : phases mover = before at heffect
  cases heffect with
  | idle =>
      rw [← hmover, Function.update_eq_self]
      exact hsigns
  | found row => exact hsigns.found
  | missed => exact hsigns.missed
  | inserted record => exact hsigns.inserted record
  | merged row record hhash => exact hsigns.merged hmover hhash
  | signs _ batchId batchHash signature hsigned =>
      exact hsigns.signs hmover (hsign batchHash signature hsigned)
  | stores _ batchId batchHash signature keyId now =>
      exact hsigns.stores hmover keyId now

end Protocol

/-! ## The calls follow the protocol -/

section Calls

variable {sha256 : Bytes → Bytes} {backend : SigningBackend} {date : ℤ}
  {record : BatchHashRecord}

/-- What a call for the date does in each phase. -/
def mayPerform (date : ℤ) : Phase → Op → Prop
  | .fresh, .selectBatch other => other = date
  | .missing, .fetchEventsForRange _ _ => True
  | .missing, .selectPrevious _ => True
  | .missing, .newUuid => True
  | .missing, .now => True
  | .missing, .upsertBatch record => record.batchDate = date
  | .held _ batchHash, .sign message => message = batchHash
  | .signed batchId _ signature, .updateBatchSignature other written _ =>
      other = batchId ∧ written = signature
  | .appending, .appendEvent _ => True
  | _, _ => False

def nextPhase : Phase → (op : Op) → op.Res → Phase
  | .fresh, .selectBatch _, .ok (some record) =>
      .held record.batchId record.batchHash
  | .fresh, .selectBatch _, .ok none => .missing
  | .missing, .upsertBatch record, .ok _ =>
      .held record.batchId record.batchHash
  | .held batchId batchHash, .sign _, .ok signed =>
      .signed batchId batchHash signed.1
  | .signed batchId batchHash _, .updateBatchSignature _ _ _, .ok _ =>
      .stored batchId batchHash
  | phase, _, _ => phase

def batchContract (date : ℤ) : Prog.Contract Op Op.Res Phase where
  allowed := mayPerform date
  observe := nextPhase

theorem lookup_upserted (db : AuditDb) (hdate : record.batchDate = date) :
    (db.upserted record).batches.lookup date =
      some ((db.batches.lookup date).elim (BatchRow.unsigned record)
        (BatchRow.replaced record)) := by
  have hkey : date = (BatchRow.unsigned record).batchDate := hdate.symm
  rw [AuditDb.upserted, Table.lookup_upsert, if_pos hkey]

variable (sha256 backend) (choice : Choice) (db : AuditDb)

/-- An operation has an effect of the protocol on the row of the day. -/
def HasEffect (date : ℤ) (phase : Phase) (op : Op) : Prop :=
  Effect backend.sign (db.batches.lookup date) phase
    ((op.respond sha256 backend choice db).2.batches.lookup date)
    (nextPhase phase op (op.respond sha256 backend choice db).1)

theorem effect_selectBatch (date : ℤ) :
    HasEffect sha256 backend choice db date .fresh (.selectBatch date) := by
  rw [HasEffect, Op.respond]
  rcases answer_cases choice ((db.batches.lookup date).map BatchRow.record)
    with ⟨message, hanswer⟩ | hanswer
  · rw [hanswer]
    exact .idle _ _
  · rw [hanswer]
    dsimp only
    cases db.batches.lookup date with
    | none => exact .missed
    | some row => exact .found row

theorem effect_upsertBatch (hdate : record.batchDate = date)
    (hkeeps : ∀ row, db.batches.lookup date = some row →
      row.record.batchHash = record.batchHash) :
    HasEffect sha256 backend choice db date .missing
      (.upsertBatch record) := by
  rw [HasEffect]
  rcases respond_upsertBatch sha256 backend choice record db with
    ⟨message, hupsert⟩ | hupsert
  · rw [hupsert]
    exact .idle _ _
  · rw [hupsert]
    dsimp only
    rw [lookup_upserted db hdate]
    cases hlookup : db.batches.lookup date with
    | none => exact .inserted record
    | some row => exact .merged row record (hkeeps row hlookup)

theorem effect_sign (batchId : Uuid) (batchHash : Bytes) :
    HasEffect sha256 backend choice db date (.held batchId batchHash)
      (.sign batchHash) := by
  rw [HasEffect, Op.respond]
  cases hsign : backend.sign batchHash with
  | error error => exact .idle _ _
  | ok signature => exact .signs _ batchId batchHash signature hsign

theorem effect_updateBatchSignature (batchId : Uuid)
    (batchHash signature : Bytes) (keyId : String) :
    HasEffect sha256 backend choice db date
      (.signed batchId batchHash signature)
      (.updateBatchSignature batchId signature keyId) := by
  rw [HasEffect, Op.respond]
  rcases write_cases choice db (db.signed batchId signature keyId choice.now)
    with ⟨message, hwrite⟩ | hwrite
  · rw [hwrite]
    exact .idle _ _
  · rw [hwrite]
    dsimp only
    rw [AuditDb.signed, Table.lookup_updateWhere]
    exact .stores _ batchId batchHash signature keyId choice.now

/-- An operation that a call may perform has an effect of the protocol. -/
theorem effect_respond {op : Op} {phase : Phase}
    (hallowed : mayPerform date phase op)
    (hkeeps : ∀ record row, op = .upsertBatch record →
      db.batches.lookup date = some row →
        row.record.batchHash = record.batchHash) :
    HasEffect sha256 backend choice db date phase op := by
  cases phase with
  | fresh =>
      cases op with
      | selectBatch other =>
          cases hallowed
          exact effect_selectBatch sha256 backend choice db _
      | _ => cases hallowed
  | appending =>
      cases op with
      | appendEvent row =>
          rw [HasEffect, Op.respond]
          rcases write_cases choice db
            { db with eventStore := db.eventStore ++ [row] } with
            ⟨message, hwrite⟩ | hwrite
          · rw [hwrite]
            exact .idle _ _
          · rw [hwrite]
            exact .idle _ _
      | _ => cases hallowed
  | missing =>
      cases op with
      | upsertBatch record =>
          exact effect_upsertBatch sha256 backend choice db hallowed
            fun row => hkeeps record row rfl
      | fetchEventsForRange start stop | selectPrevious other | newUuid | now =>
          exact .idle _ _
      | _ => cases hallowed
  | held batchId batchHash =>
      cases op with
      | sign message =>
          cases hallowed
          exact effect_sign sha256 backend choice db batchId batchHash
      | _ => cases hallowed
  | signed batchId batchHash signature =>
      cases op with
      | updateBatchSignature other written keyId =>
          obtain ⟨rfl, rfl⟩ := hallowed
          exact effect_updateBatchSignature sha256 backend choice db other
            batchHash written keyId
      | _ => cases hallowed
  | stored batchId batchHash => cases op <;> cases hallowed

end Calls

section Contracts

variable (sha256 : Bytes → Bytes) (date : ℤ)

/-- A call that ends well holds the record it returns. -/
def ReturnsHeld (phase : Phase) (result : Except AuditError BatchHashRecord) :
    Prop :=
  ∀ record, result = .ok record →
    phase = .held record.batchId record.batchHash

theorem meets_computeBatchHash :
    (computeBatchHash sha256 date).Meets (batchContract date) ReturnsHeld
      .missing := by
  rw [computeBatchHash]
  refine Prog.meets_call_bind.mpr ⟨trivial, ?_⟩
  intro events
  cases events with
  | error message =>
      intro record hrecord
      cases hrecord
  | ok events =>
      refine Prog.meets_call_bind.mpr ⟨trivial, ?_⟩
      intro previous
      cases previous with
      | error message =>
          intro record hrecord
          cases hrecord
      | ok previous =>
          refine Prog.meets_call_bind.mpr ⟨trivial, ?_⟩
          intro batchId
          refine Prog.meets_call_bind.mpr ⟨trivial, ?_⟩
          intro computedAt
          refine Prog.meets_call_bind.mpr ⟨rfl, ?_⟩
          intro upserted
          cases upserted with
          | error message =>
              intro record hrecord
              cases hrecord
          | ok value =>
              intro record hrecord
              cases hrecord
              rfl

theorem meets_getOrComputeBatchHash :
    (getOrComputeBatchHash sha256 date).Meets (batchContract date) ReturnsHeld
      .fresh := by
  rw [getOrComputeBatchHash]
  refine Prog.meets_call_bind.mpr ⟨rfl, ?_⟩
  intro existing
  cases existing with
  | error message =>
      intro record hrecord
      cases hrecord
  | ok existing =>
      cases existing with
      | none => exact meets_computeBatchHash sha256 date
      | some found =>
          intro record hrecord
          cases hrecord
          rfl

theorem meets_signBatch (record : BatchHashRecord) :
    (signBatch record).Meets (batchContract date)
      (fun phase result => result.isOk = true →
        phase = .stored record.batchId record.batchHash)
      (.held record.batchId record.batchHash) := by
  rw [signBatch, Prog.meets_bind, signBatchHash]
  refine Prog.meets_call_bind.mpr ⟨rfl, ?_⟩
  intro signed
  cases signed with
  | error error =>
      intro hok
      cases hok
  | ok signed =>
      refine Prog.meets_call_bind.mpr ⟨⟨rfl, rfl⟩, ?_⟩
      intro updated
      cases updated with
      | error message =>
          intro hok
          cases hok
      | ok value =>
          intro _
          rfl

theorem meets_computeDailyBatch :
    (computeDailyBatch sha256 date).Meets (batchContract date)
      (fun phase result => result.isOk = true →
        ∃ batchId batchHash, phase = .stored batchId batchHash) .fresh := by
  rw [computeDailyBatch, Prog.meets_bind]
  apply (meets_getOrComputeBatchHash sha256 date).mono
  intro phase result hheld
  cases result with
  | error error =>
      intro hok
      cases hok
  | ok record =>
      dsimp only
      rw [hheld record rfl]
      apply (meets_signBatch date record).mono
      intro later result hstored hok
      exact ⟨_, _, hstored hok⟩

/-- An append of another service. -/
def appendEvent (row : StoredEvent) : Task Unit := do
  orRaise (← Prog.call (Op.appendEvent row))

end Contracts

/-! ## Every interleaving -/

section Pool

variable {ι κ : Type} [DecidableEq ι] [DecidableEq κ]
variable {sha256 : Bytes → Bytes} {backend : SigningBackend} {date : ℤ}
variable {verify : Bytes → Bytes → Bool}

abbrev BatchPool (ι κ : Type) :=
  Pool (ι ⊕ κ) Op Op.Res AuditError Unit AuditDb Phase

/-- Calls of `compute_daily_batch` for one date, and appended events. -/
def batchPool (sha256 : Bytes → Bytes) (date : ℤ) (events : κ → StoredEvent)
    (db : AuditDb) : BatchPool ι κ where
  state := db
  notes := Sum.elim (fun _ => .fresh) fun _ => .appending
  threads := Sum.elim (fun _ => (computeDailyBatch sha256 date).void)
    fun k => appendEvent (events k)

/-- A call that has returned `Ok` has stored its signature. -/
def StoredWhenOk : ι ⊕ κ → Phase → Except AuditError Unit → Prop
  | .inl _, phase, result => result.isOk = true →
      ∃ batchId batchHash, phase = .stored batchId batchHash
  | .inr _, _, _ => True

omit [DecidableEq ι] [DecidableEq κ] in
theorem allMeet_batchPool (events : κ → StoredEvent) (db : AuditDb) :
    (batchPool sha256 date events db : BatchPool ι κ).AllMeet
      (batchContract date) StoredWhenOk := by
  intro id
  cases id with
  | inl i =>
      apply Prog.meets_void_iff.mpr
      apply (meets_computeDailyBatch sha256 date).mono
      intro phase result hstored hok
      cases result with
      | error error => cases hok
      | ok record => exact hstored rfl
  | inr k =>
      refine Prog.meets_call_bind.mpr ⟨trivial, ?_⟩
      intro response
      cases response <;> trivial

/-- The record that an operation upserts. -/
def upsertOf : Op → Option BatchHashRecord
  | .upsertBatch record => some record
  | _ => none

/-- An upsert that meets a row of the date writes the hash of that row. -/
def KeepsHash (date : ℤ) (pool : BatchPool ι κ) (turn : (ι ⊕ κ) × Choice) :
    Prop :=
  ∀ record ∈ (pool.threads turn.1).operation.bind upsertOf,
    ∀ row ∈ pool.state.batches.lookup date,
      row.record.batchHash = record.batchHash

instance {pool : BatchPool ι κ} {turn : (ι ⊕ κ) × Choice} :
    Decidable (KeepsHash date pool turn) :=
  inferInstanceAs (Decidable (∀ record ∈ _, ∀ row ∈ _, _))

theorem signsOwnHash_step
    (hsign : ∀ message signature, backend.sign message = .ok signature →
      verify message signature = true)
    {pool : BatchPool ι κ} {turn : (ι ⊕ κ) × Choice}
    (hmeet : pool.AllMeet (batchContract date) StoredWhenOk)
    (hsigns : SignsOwnHash verify (pool.state.batches.lookup date) pool.notes)
    (hturn : KeepsHash date pool turn) :
    SignsOwnHash verify
      ((pool.step (Op.respond sha256 backend) (batchContract date)
        turn).state.batches.lookup date)
      (pool.step (Op.respond sha256 backend) (batchContract date)
        turn).notes := by
  cases hthread : pool.threads turn.1 with
  | done result =>
      rw [Pool.step_of_done hthread]
      exact hsigns
  | perform op next =>
      have hkeeps : ∀ record row, op = .upsertBatch record →
          pool.state.batches.lookup date = some row →
            row.record.batchHash = record.batchHash := by
        intro record row hop hrow
        subst hop
        refine hturn record ?_ row hrow
        rw [hthread]
        rfl
      rw [Pool.step_of_perform hthread]
      exact hsigns.step hsign (effect_respond sha256 backend turn.2 pool.state
        (hmeet.allowed hthread) hkeeps)

theorem nextPhase_appending (op : Op) (response : op.Res) :
    nextPhase .appending op response = .appending := by
  cases op <;> rfl

/-- The appends of other services say nothing of the row. -/
theorem appending_step {pool : BatchPool ι κ} (turn : (ι ⊕ κ) × Choice)
    (hnotes : ∀ k, pool.notes (.inr k) = .appending) (k : κ) :
    (pool.step (Op.respond sha256 backend) (batchContract date) turn).notes
      (.inr k) = .appending := by
  cases hthread : pool.threads turn.1 with
  | done result =>
      rw [Pool.step_of_done hthread]
      exact hnotes k
  | perform op next =>
      rw [Pool.step_of_perform hthread]
      dsimp only
      rw [Function.update_apply]
      split_ifs with hturn
      · rw [← hturn, hnotes k]
        exact nextPhase_appending op
          (op.respond sha256 backend turn.2 pool.state).1
      · exact hnotes k

theorem signsOwnHash_run
    (hsign : ∀ message signature, backend.sign message = .ok signature →
      verify message signature = true)
    (events : κ → StoredEvent) (db : AuditDb)
    {schedule : List ((ι ⊕ κ) × Choice)}
    (hschedule : Pool.Admissible (Op.respond sha256 backend)
      (batchContract date) (KeepsHash date) schedule
      (batchPool sha256 date events db))
    {reached : BatchPool ι κ}
    (hreached : (batchPool sha256 date events db).run
      (Op.respond sha256 backend) (batchContract date) schedule = reached) :
    reached.AllMeet (batchContract date) StoredWhenOk ∧
      SignsOwnHash verify (reached.state.batches.lookup date) reached.notes ∧
        ∀ k, reached.notes (.inr k) = .appending := by
  rw [← hreached]
  exact Pool.run_invariant
    (fun pool : BatchPool ι κ =>
      pool.AllMeet (batchContract date) StoredWhenOk ∧
        SignsOwnHash verify (pool.state.batches.lookup date) pool.notes ∧
          ∀ k, pool.notes (.inr k) = .appending)
    (fun pool turn hpool hturn =>
      ⟨hpool.1.step turn, signsOwnHash_step hsign hpool.1 hpool.2.1 hturn,
        appending_step turn hpool.2.2⟩)
    ⟨allMeet_batchPool events db,
      signsOwnHash_of_not_looked _ (Sum.rec (fun _ => rfl) fun _ => rfl),
      fun _ => rfl⟩ hschedule

omit [DecidableEq ι] [DecidableEq κ] in
/-- Once all calls have stored, the one that holds the id of the row has
signed it. -/
theorem SignsOwnHash.signed_of_stored [Nonempty ι] {stored : Option BatchRow}
    {notes : ι ⊕ κ → Phase} (hsigns : SignsOwnHash verify stored notes)
    (hothers : ∀ k, notes (.inr k) = .appending)
    (hstored : ∀ i, ∃ batchId batchHash,
      notes (.inl i) = .stored batchId batchHash) :
    ∃ row signature, stored = some row ∧ row.signature = some signature ∧
      verify row.record.batchHash signature = true := by
  obtain ⟨i⟩ := ‹Nonempty ι›
  obtain ⟨batchId, batchHash, hphase⟩ := hstored i
  have hsound := hsigns.sound (.inl i)
  rw [hphase] at hsound
  cases hrow : stored with
  | none =>
      rw [hrow] at hsound
      cases hsound.1
  | some row =>
      rcases hsigns.owner row hrow with hnone | ⟨owner, howner⟩
      · have hlooked := hnone (.inl i)
        rw [hphase] at hlooked
        cases hlooked
      · cases owner with
        | inr k =>
            rw [hothers k] at howner
            cases howner
        | inl j =>
            obtain ⟨ownerId, ownerHash, hownerPhase⟩ := hstored j
            have hownerSound := hsigns.sound (.inl j)
            rw [hownerPhase] at hownerSound howner
            obtain ⟨signature, hsignature, hverify⟩ :=
              hownerSound.2 row hrow (Option.some.inj howner).symm
            exact ⟨row, signature, rfl, hsignature, hverify⟩

/-- In every interleaving in which a row is only overwritten with its own
hash, the row is signed over its own hash once all calls have returned
`Ok`. -/
theorem signature_over_own_hash [Nonempty ι]
    (hsign : ∀ message signature, backend.sign message = .ok signature →
      verify message signature = true)
    (events : κ → StoredEvent) (db : AuditDb)
    {schedule : List ((ι ⊕ κ) × Choice)}
    (hschedule : Pool.Admissible (Op.respond sha256 backend)
      (batchContract date) (KeepsHash date) schedule
      (batchPool sha256 date events db))
    (hended : ∀ i : ι, (((batchPool sha256 date events db).run
      (Op.respond sha256 backend) (batchContract date) schedule).threads
        (.inl i)).result = some (.ok ())) :
    ∃ row signature, ((batchPool sha256 date events db : BatchPool ι κ).run
        (Op.respond sha256 backend) (batchContract date)
        schedule).state.batches.lookup date = some row ∧
      row.signature = some signature ∧
        verify row.record.batchHash signature = true := by
  obtain ⟨hmeet, hsigns, hothers⟩ :=
    signsOwnHash_run hsign events db hschedule rfl
  exact hsigns.signed_of_stored hothers fun i =>
    hmeet.post (Prog.eq_done_of_result (hended i)) rfl

end Pool

namespace Samples

/-- Agrees with the verification on the batch hashes that are signed. -/
def verify (message signature : Bytes) : Bool :=
  signatures.lookup message = some signature

theorem verify_of_sign (message signature : Bytes)
    (hsign : backend.sign message = .ok signature) :
    verify message signature = true := by
  simp only [backend] at hsign
  rw [verify, decide_eq_true_eq]
  cases hlookup : signatures.lookup message with
  | none =>
      rw [hlookup] at hsign
      cases hsign
  | some found =>
      rw [hlookup] at hsign
      cases hsign
      rfl

/-- Two sessions have ended on the day; a third one ends while two calls
run. -/
def twoClosings : AuditDb where
  eventStore := [Batches.Samples.closingEvent 1 "completed",
    Batches.Samples.closingEvent 2 "cancelled"]
  batches := Table.empty

def thirdClosing (_ : Unit) : StoredEvent :=
  Batches.Samples.closingEvent 3 "timeout"

def turns (call : Bool) (count : ℕ) : List ((Bool ⊕ Unit) × Choice) :=
  List.replicate count (.inl call, working (if call then 2 else 1) 0)

def append : (Bool ⊕ Unit) × Choice :=
  (.inr (), working 3 0)

/-- One call runs to its end, the event arrives, and the other call finds the
row. -/
def oneAfterTheOther : List ((Bool ⊕ Unit) × Choice) :=
  turns false 8 ++ [append] ++ turns true 3

/-- Both calls find no row, and the event arrives between their reads. -/
def bothCompute : List ((Bool ⊕ Unit) × Choice) :=
  turns false 5 ++ turns true 1 ++ [append] ++ turns true 4 ++
    turns false 1 ++ turns true 1 ++ turns false 2 ++ turns true 2

def afterCalls (schedule : List ((Bool ⊕ Unit) × Choice)) :
    BatchPool Bool Unit :=
  (batchPool sha256 20000 thirdClosing twoClosings).run
    (Op.respond sha256 backend) (batchContract 20000) schedule

end Samples

theorem signature_over_own_hash_one_after_the_other :
    (∀ call : Bool, ((Samples.afterCalls Samples.oneAfterTheOther).threads
        (.inl call)).result = some (.ok ())) ∧
      ∃ row signature, (Samples.afterCalls
          Samples.oneAfterTheOther).state.batches.lookup 20000 = some row ∧
        row.signature = some signature ∧
          Samples.verify row.record.batchHash signature = true := by
  have hended : ∀ call : Bool, ((Samples.afterCalls
      Samples.oneAfterTheOther).threads (.inl call)).result =
        some (.ok ()) := by
    decide +kernel
  exact ⟨hended, signature_over_own_hash Samples.verify_of_sign
    Samples.thirdClosing Samples.twoClosings (by decide +kernel) hended⟩

/-- Two calls that both compute the batch return `Ok` and leave the second
call's hash with the first call's signature. -/
theorem overwritten_hash_keeps_signature :
    (∀ call : Bool, ((Samples.afterCalls Samples.bothCompute).threads
        (.inl call)).result = some (.ok ())) ∧
      ((Samples.afterCalls Samples.bothCompute).state.batches.lookup
          20000).map (·.record.batchHash) =
        some (Text.hex Batches.Samples.closingsRoot) ∧
      ((Samples.afterCalls Samples.bothCompute).state.batches.lookup
          20000).map (·.signature) =
        some (Samples.signatures.lookup
          (Text.hex Batches.Samples.closingsLeft)) ∧
      ((Samples.afterCalls Samples.bothCompute).state.batches.lookup
          20000).map (fun row =>
            row.signature.map (Samples.verify row.record.batchHash)) =
        some (some false) := by
  exact ⟨by decide +kernel, by decide +kernel, by decide +kernel,
    by decide +kernel⟩

end UssdKernel.AuditHandler
