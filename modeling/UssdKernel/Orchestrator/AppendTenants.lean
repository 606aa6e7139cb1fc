import UssdKernel.Core.Purging
import UssdKernel.Orchestrator.AppendOutcome

/-!
# Appends of several tenants

Idempotency keys are looked up and stored without the tenant that sent them.
Two histories of `AppendEvent` requests that differ only in requests of other
tenants on other aggregates therefore give a tenant the same outcomes as long
as no accepted one of these requests takes a key that a later request, common
to both, carries.
-/

namespace UssdKernel.AppendTenants

open EventStore SessionHistory AppendOutcome Purging

/-- An `AppendEvent` request with what happens around it. -/
structure Request where
  env : CallEnv
  command : AppendEventCommand

section Histories

variable (sha256 : Bytes → Bytes) (marshal : Payload → Except String Bytes)
  (tenant : Uuid) (owns : Uuid → Bool)

def serve (db : Database) (request : Request) : Database :=
  (handleAlone sha256 marshal request.env request.command db).2

/-- The version the request is accepted with, or its error. -/
def outcome (db : Database) (request : Request) : Except AppendError ℤ :=
  (handleAlone sha256 marshal request.env request.command db).1.map
    StoredEventRecord.version

def ofTenant (request : Request) : Bool :=
  request.command.tenantId = tenant

/-- A request of the tenant, or one on the tenant's aggregates. -/
def common (request : Request) : Bool :=
  ofTenant tenant request || owns request.command.aggregateId

/-- An accepted request that is not common takes no key of a later common
one. -/
def LeavesKeys (db : Database) (request : Request) (later : List Request) :
    Prop :=
  common tenant owns request = false →
    Accepts marshal request.env request.command db →
      ∀ other ∈ later, common tenant owns other = true →
        other.command.idempotencyKey = request.command.idempotencyKey →
          request.command.idempotencyKey = ""

/-- The stores agree on what the later common requests read. -/
structure Agree (later : List Request) (first second : Database) : Prop where
  types : first.transactionTypes = second.transactionTypes
  keys : ∀ other ∈ later, common tenant owns other = true →
    other.command.idempotencyKey ≠ "" →
      (other.command.idempotencyKey ∈ keys first ↔
        other.command.idempotencyKey ∈ keys second)
  versions : ∀ aggregateId, owns aggregateId = true →
    versions first aggregateId = versions second aggregateId

variable {sha256 marshal tenant owns} {request : Request}
  {later : List Request} {first second : Database}

theorem outcome_eq_verdict (db : Database) (request : Request) :
    outcome sha256 marshal db request =
      verdict marshal request.env request.command db := by
  rcases handleAlone_cases sha256 marshal request.env request.command db with
    ⟨error, hverdict, hanswer⟩ | ⟨row, after, hanswer, hverdict, -⟩
  · rw [outcome, hanswer, hverdict]
    rfl
  · rw [outcome, hanswer, hverdict]
    rfl

variable (sha256) in
/-- What an accepted request leaves for the requests after it. -/
theorem serve_of_accepts {db : Database}
    (haccepts : Accepts marshal request.env request.command db) :
    ∃ row, Appended request.command row db
      (serve sha256 marshal db request) := by
  obtain ⟨row, after, hanswer, happended⟩ :=
    handleAlone_of_accepts sha256 haccepts
  refine ⟨row, ?_⟩
  rw [serve, hanswer]
  exact happended

theorem serve_of_not_accepts {db : Database}
    (haccepts : ¬ Accepts marshal request.env request.command db) :
    serve sha256 marshal db request = db := by
  obtain ⟨error, hanswer⟩ := handleAlone_of_not_accepts sha256 haccepts
  rw [serve, hanswer]

section Agree

variable (hagree : Agree tenant owns (request :: later) first second)

include hagree

theorem Agree.tail :
    Agree tenant owns later first second where
  types := hagree.types
  keys other hother := hagree.keys other (List.mem_cons_of_mem _ hother)
  versions := hagree.versions

/-- A request that is not common changes nothing that later common requests
read. -/
theorem Agree.removed (hcommon : common tenant owns request = false)
    (hleaves : LeavesKeys marshal tenant owns first request later) :
    Agree tenant owns later (serve sha256 marshal first request) second := by
  by_cases haccepts : Accepts marshal request.env request.command first
  · obtain ⟨row, happended⟩ := serve_of_accepts sha256 haccepts
    have howns : owns request.command.aggregateId = false :=
      (Bool.or_eq_false_iff.mp hcommon).2
    refine ⟨happended.types.trans hagree.types, fun other hother hshared hkey =>
      ?_, fun aggregateId haggregate => ?_⟩
    · rw [happended.keys, List.mem_append, mem_newKeys_iff hkey,
        or_iff_left fun heq => hkey (heq.symm.trans
          (hleaves hcommon haccepts other hother hshared heq.symm))]
      exact hagree.tail.keys other hother hshared hkey
    · rw [happended.versions_eq, if_neg, List.append_nil]
      · exact hagree.versions aggregateId haggregate
      · rintro rfl
        rw [howns] at haggregate
        cases haggregate
  · rw [serve_of_not_accepts haccepts]
    exact hagree.tail

/-- A common request has the same outcome on both stores and keeps their
agreement. -/
theorem Agree.kept (hcommon : common tenant owns request = true)
    (howns : ofTenant tenant request = true →
      owns request.command.aggregateId = true) :
    outcome sha256 marshal first request =
        outcome sha256 marshal second request ∧
      Agree tenant owns later (serve sha256 marshal first request)
        (serve sha256 marshal second request) := by
  have haggregate : owns request.command.aggregateId = true := by
    rcases Bool.or_eq_true_iff.mp hcommon with htenant | howned
    · exact howns htenant
    · exact howned
  have hversions := hagree.versions _ haggregate
  have hlatest : latestVersion first request.command.aggregateId =
      latestVersion second request.command.aggregateId := by
    rw [latestVersion, hversions, ← latestVersion]
  have hverdict : verdict marshal request.env request.command first =
      verdict marshal request.env request.command second :=
    verdict_congr (hagree.keys request List.mem_cons_self hcommon) hlatest
      hagree.types
  refine ⟨by rw [outcome_eq_verdict, outcome_eq_verdict, hverdict], ?_⟩
  by_cases haccepts : Accepts marshal request.env request.command first
  · have hsecond : Accepts marshal request.env request.command second := by
      have hok := verdict_eq_ok_iff.mpr ⟨haccepts, rfl⟩
      rw [hverdict] at hok
      exact (verdict_eq_ok_iff.mp hok).1
    obtain ⟨row, happended⟩ := serve_of_accepts sha256 haccepts
    obtain ⟨other, hother⟩ := serve_of_accepts sha256 hsecond
    refine ⟨?_, fun next hnext hshared hkey => ?_, fun aggregateId howned => ?_⟩
    · rw [happended.types, hother.types, hagree.types]
    · rw [happended.keys, hother.keys, List.mem_append, List.mem_append,
        hagree.tail.keys next hnext hshared hkey]
    · have hsame := hagree.versions aggregateId howned
      rw [happended.versions_eq, hother.versions_eq, hsame,
        latestVersion, latestVersion, hsame]
  · have hsecond : ¬ Accepts marshal request.env request.command second := by
      intro hsecond
      have hok := verdict_eq_ok_iff.mpr ⟨hsecond, rfl⟩
      rw [← hverdict] at hok
      exact haccepts (verdict_eq_ok_iff.mp hok).1
    rw [serve_of_not_accepts haccepts, serve_of_not_accepts hsecond]
    exact hagree.tail

end Agree

/-- Two histories that differ only in requests of other tenants on other
aggregates give the tenant the same outcomes, if no accepted one of these
requests takes the key of a later common request. -/
theorem tenant_outcomes_eq {history other : List Request} {db : Database}
    (howns : ∀ request ∈ history, ofTenant tenant request = true →
      owns request.command.aggregateId = true)
    (hcommon : history.filter (common tenant owns) =
      other.filter (common tenant owns))
    (hhistory : Along (serve sha256 marshal) (LeavesKeys marshal tenant owns)
      history db)
    (hother : Along (serve sha256 marshal) (LeavesKeys marshal tenant owns)
      other db) :
    outputs (serve sha256 marshal) (outcome sha256 marshal) (ofTenant tenant)
        history db =
      outputs (serve sha256 marshal) (outcome sha256 marshal) (ofTenant tenant)
        other db := by
  have hownsOther : ∀ request ∈ other, ofTenant tenant request = true →
      owns request.command.aggregateId = true := by
    intro request hrequest htenant
    have hmem : request ∈ other.filter (common tenant owns) :=
      List.mem_filter.mpr ⟨hrequest, Bool.or_eq_true_iff.mpr (Or.inl htenant)⟩
    rw [← hcommon] at hmem
    exact howns request (List.mem_of_mem_filter hmem) htenant
  have hunwinding : Unwinding (serve sha256 marshal) (outcome sha256 marshal)
      (ofTenant tenant) (common tenant owns)
      (fun db request later => (ofTenant tenant request = true →
        owns request.command.aggregateId = true) ∧
          LeavesKeys marshal tenant owns db request later)
      (Agree tenant owns) :=
    { observed_kept := fun _ htenant =>
        Bool.or_eq_true_iff.mpr (Or.inl htenant)
      removed := fun hremoved hcondition hagree =>
        hagree.removed hremoved hcondition.2
      kept := fun hkept hcondition hagree =>
        ⟨fun _ => (hagree.kept hkept hcondition.1).1,
          (hagree.kept hkept hcondition.1).2⟩ }
  exact hunwinding.outputs_eq hcommon (hhistory.and_forall howns)
    (hother.and_forall hownsOther)
    fun _ => ⟨rfl, fun _ _ _ _ => Iff.rfl, fun _ _ => rfl⟩

end Histories

namespace Samples

open EventStore.Samples (marshal midnight empty)

/-- The real digests of the texts hashed in the histories. -/
def sha256 : Bytes → Bytes := HashTables.tableHash
  (EventStore.Samples.hashes ++
    [(Text.utf8 "order-1", HashTables.digest
      0x0bafe22156d2698c143b86040446d366ead863ba600d5c924f3d15c786ef4057),
    (Text.utf8 "order-2", HashTables.digest
      0x3d5e3106cd72ba03fededf6dbb9fc3367edcebe453e90db236ea763aa228bee3)])

/-- A request to end a session, with an idempotency key. -/
def request (tenantId aggregateId : Uuid) (key : String) : Request where
  env := SessionHistory.Samples.calls (midnight + 1000000000) 1
  command :=
    { sessionEnded aggregateId tenantId "timeout" with idempotencyKey := key }

/-- Aggregate 9 is that of tenant 5. -/
def owns (aggregateId : Uuid) : Bool := aggregateId = 9

/-- The outcomes of tenant 5's requests in a history. -/
def outcomes (history : List Request) : List (Except AppendError ℤ) :=
  outputs (serve sha256 marshal) (outcome sha256 marshal) (ofTenant 5) history
    empty

end Samples

theorem tenant_outcomes_eq_other_key :
    Samples.outcomes
        [Samples.request 6 8 "order-2", Samples.request 5 9 "order-1"] =
      Samples.outcomes [Samples.request 5 9 "order-1"] := by
  have howns : ∀ request ∈
      [Samples.request 6 8 "order-2", Samples.request 5 9 "order-1"],
      ofTenant 5 request = true →
        Samples.owns request.command.aggregateId = true := by
    decide
  have hother : LeavesKeys EventStore.Samples.marshal 5 Samples.owns
      EventStore.Samples.empty (Samples.request 6 8 "order-2")
      [Samples.request 5 9 "order-1"] := by
    intro _ _ other hmem _ hkey
    rw [List.mem_singleton.mp hmem] at hkey
    exact absurd hkey (by decide)
  have hown : ∀ db, LeavesKeys EventStore.Samples.marshal 5 Samples.owns db
      (Samples.request 5 9 "order-1") [] := by
    intro db hcommon
    cases hcommon
  exact tenant_outcomes_eq howns rfl ⟨hother, hown _, trivial⟩
    ⟨hown _, trivial⟩

/-- A request of another tenant on another aggregate takes the key, and the
tenant's own request becomes a duplicate. -/
theorem foreign_key_makes_duplicate :
    Samples.outcomes
        [Samples.request 6 8 "order-1", Samples.request 5 9 "order-1"] =
      [.error .duplicateEvent] ∧
    Samples.outcomes [Samples.request 5 9 "order-1"] = [.ok 1] := by
  decide +kernel

end UssdKernel.AppendTenants
