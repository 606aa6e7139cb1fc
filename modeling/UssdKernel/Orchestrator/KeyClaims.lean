import UssdKernel.Orchestrator.AppendTenants
import UssdKernel.Orchestrator.TxStatements

/-!
# Claiming idempotency keys

In every interleaving of calls of `Handle`, and with any statements failing, a
key is stored exactly if one committed event carries it, and at most one of
the calls with a key adds an event.
-/

namespace UssdKernel.KeyClaims

open Programs Interleaving EventStore SessionHistory AppendOutcome

/-! ## Keys and events -/

/-- The committed events that carry the key. -/
def carrying (db : Database) (key : String) : List EventRow :=
  db.events.filter fun row => row.metadata.idempotencyKey = some key

/-- A key is stored exactly if one event carries it, and no second one
does. -/
structure KeysMatch (db : Database) : Prop where
  atMostOnce : ∀ key, key ≠ "" → (carrying db key).length ≤ 1
  present : ∀ key, key ≠ "" →
    (key ∈ keys db ↔ (carrying db key).length = 1)

theorem nullString_eq_some_iff {text key : String} (hkey : key ≠ "") :
    nullString text = some key ↔ text = key := by
  rw [nullString]
  split
  · next hempty =>
    refine iff_of_false (by simp) fun heq => hkey ?_
    rw [← heq, hempty]
  · exact Option.some_inj

/-- A transaction with a free key adds the key together with its event. -/
theorem KeysMatch.merge {db : Database} {tx : Tx} {row : EventRow}
    {rows : List IdempotencyRow} {command : AppendEventCommand}
    (hmatch : KeysMatch db) (hholds : tx.Holds [row] rows)
    (hrows : rows.map IdempotencyRow.idempotencyKey = newKeys command)
    (hrow : row.metadata.idempotencyKey = nullString command.idempotencyKey)
    (hconflicts : conflicts db tx = false) :
    KeysMatch (KeyClaims.merge db tx) := by
  have hkeys : ∀ key, key ≠ "" → (key ∈ keys (KeyClaims.merge db tx) ↔
      key ∈ keys db ∨ command.idempotencyKey = key) := by
    intro key hkey
    rw [keys, KeyClaims.merge, List.map_append, hholds.newKeys_eq, hrows,
      List.mem_append, mem_newKeys_iff hkey, ← keys]
  have hcarrying : ∀ key, key ≠ "" →
      (carrying (KeyClaims.merge db tx) key).length =
        (carrying db key).length +
          if command.idempotencyKey = key then 1 else 0 := by
    intro key hkey
    rw [carrying, KeyClaims.merge, hholds.newEvents_eq, List.filter_append,
      List.length_append, ← carrying, List.filter_singleton]
    simp only [hrow, nullString_eq_some_iff hkey]
    by_cases hown : command.idempotencyKey = key <;> simp [hown]
  have hfree : ∀ key, key ≠ "" → command.idempotencyKey = key →
      (carrying db key).length = 0 := by
    intro key hkey hown
    have hmem : key ∈ tx.newKeys.map IdempotencyRow.idempotencyKey := by
      rw [hholds.newKeys_eq, hrows]
      exact (mem_newKeys_iff hkey).mpr hown
    obtain ⟨claimed, hclaimed, rfl⟩ := List.mem_map.mp hmem
    rw [conflicts, Bool.or_eq_false_iff, List.any_eq_false] at hconflicts
    have hnone := hconflicts.1 claimed hclaimed
    rw [keyStored_iff, hmatch.present _ hkey] at hnone
    have hle := hmatch.atMostOnce _ hkey
    omega
  constructor
  · intro key hkey
    rw [hcarrying key hkey]
    split
    · next hown => rw [hfree key hkey hown]
    · exact hmatch.atMostOnce key hkey
  · intro key hkey
    rw [hcarrying key hkey, hkeys key hkey]
    split
    · next hown =>
      rw [hfree key hkey hown]
      exact iff_of_true (Or.inr hown) rfl
    · next hother =>
      rw [or_iff_left hother, add_zero]
      exact hmatch.present key hkey

/-! ## Calls in parallel -/

section Pool

variable {ι : Type} [DecidableEq ι]

/-- The events that a call has committed. -/
def committedBy (log : List (ι × EventRow)) (call : ι) : List EventRow :=
  (log.filter fun entry => entry.1 = call).map Prod.snd

abbrev CallPool (ι : Type) :=
  Pool ι (Statement ι) Statement.Res AppendError AppendEventResult (Server ι)
    (ι × Stage)

section Commands

variable (commands : ι → AppendEventCommand)

/-- Calls of `Handle` with the given commands. -/
def callPool (db : Database) :
    CallPool ι where
  state := { db, transactions := fun _ => none, log := [] }
  notes call := (call, .reading)
  threads call := handle call (commands call)

/-- Every key and its event go together, and only one call with a key adds an
event; a call that has added none does not succeed. -/
structure ClaimedOnce (initial : Database) (pool : CallPool ι) : Prop where
  events : pool.state.db.events =
    initial.events ++ pool.state.log.map Prod.snd
  keys : KeysMatch pool.state.db
  single : ∀ call, (committedBy pool.state.log call).length ≤ 1
  once : ∀ first second, (commands first).idempotencyKey ≠ "" →
    (commands first).idempotencyKey = (commands second).idempotencyKey →
      committedBy pool.state.log first ≠ [] →
        committedBy pool.state.log second ≠ [] → first = second
  failed : ∀ call result, (pool.threads call).result = some result →
    committedBy pool.state.log call = [] → ∃ error, result = .error error

structure Sound (initial : Database) (pool : CallPool ι) : Prop where
  meet : pool.AllMeet (callContract commands) fun _ => Told
  ids : ∀ call, (pool.notes call).1 = call
  stages : ∀ call, Matches (commands call) (pool.notes call).2
    (pool.state.transactions call)
  keys : KeysMatch pool.state.db
  events : pool.state.db.events =
    initial.events ++ pool.state.log.map Prod.snd
  logged : ∀ entry ∈ pool.state.log, entry.2.metadata.idempotencyKey =
    nullString (commands entry.1).idempotencyKey
  single : ∀ call, (committedBy pool.state.log call).length ≤ 1
  finished : ∀ call, committedBy pool.state.log call ≠ [] →
    ∃ reported, (pool.notes call).2 = .finished reported
  told : ∀ call, (pool.notes call).2 = .finished true →
    committedBy pool.state.log call ≠ []

end Commands

variable {sha256 : Bytes → Bytes} {marshal : Payload → Except String Bytes}
  {commands : ι → AppendEventCommand} {initial : Database}
  {pool : CallPool ι}

theorem sound_callPool (hinitial : KeysMatch initial) :
    Sound commands initial (callPool commands initial) where
  meet call := meets_handle call
  ids _ := rfl
  stages _ := trivial
  keys := hinitial
  events := (List.append_nil _).symm
  logged _ hentry := by cases hentry
  single _ := by simp [callPool, committedBy]
  finished _ hcommitted := absurd rfl hcommitted
  told _ htold := by cases htold

theorem committedBy_append_singleton (log : List (ι × EventRow))
    (owner call : ι) (row : EventRow) :
    committedBy (log ++ [(owner, row)]) call =
      committedBy log call ++ if owner = call then [row] else [] := by
  rw [committedBy, List.filter_append, List.map_append, ← committedBy,
    List.filter_singleton]
  by_cases howner : owner = call <;> simp [howner]

variable {turn : ι × Turn} {statement : Statement ι}

section SoundStep

variable (hsound : Sound commands initial pool)
include hsound

variable {after : CallPool ι}
  (hmeet : after.AllMeet (callContract commands) fun _ => Told)
  (hothers : ∀ call, call ≠ turn.1 → after.notes call = pool.notes call)
  (hstages : ∀ call, (after.notes call).1 = call ∧
    Matches (commands call) (after.notes call).2
      (after.state.transactions call))

section Performing

variable {next : statement.Res → Task ι AppendEventResult}
  (hthread : pool.threads turn.1 = .perform statement next)
  (hself : after.notes turn.1 = (callContract commands).observe
    (pool.notes turn.1) statement
    (statement.respond sha256 marshal turn.2 pool.state).1)
include hothers hthread hself

/-- What a turn of a call does to its own note and to its transaction. -/
theorem Sound.step_stages
    (hstate : after.state =
      (statement.respond sha256 marshal turn.2 pool.state).2) (call : ι) :
    (after.notes call).1 = call ∧
      Matches (commands call) (after.notes call).2
        (after.state.transactions call) := by
  have hallowed := hsound.meet.allowed hthread
  have hnote : pool.notes turn.1 = (turn.1, (pool.notes turn.1).2) :=
    Prod.ext (hsound.ids turn.1) rfl
  by_cases hcall : call = turn.1
  · subst hcall
    rw [hself, hstate]
    refine ⟨(observe_fst _ _ _).trans (hsound.ids turn.1), ?_⟩
    rw [hnote] at hallowed ⊢
    exact respond_matches hallowed (hsound.stages turn.1)
  · rw [hothers call hcall, hstate, respond_transactions_of_ne]
    · exact ⟨hsound.ids call, hsound.stages call⟩
    · rw [hnote] at hallowed
      intro hsame
      rcases call_of_allowed hallowed with hnone | hown
      · cases hnone.symm.trans hsame
      · exact hcall (Option.some.inj (hsame.symm.trans hown))

/-- A finished call stays finished over a turn. -/
theorem Sound.finished_step {call : ι} {reported : Bool}
    (hfinished : (pool.notes call).2 = .finished reported) :
    (after.notes call).2 = .finished reported := by
  by_cases hcall : call = turn.1
  · subst hcall
    have hnote : pool.notes turn.1 = (turn.1, .finished reported) :=
      Prod.ext (hsound.ids turn.1) hfinished
    have hallowed := hsound.meet.allowed hthread
    rw [hnote] at hallowed
    rw [hself, hnote]
    exact observe_of_finished hallowed _
  · rw [hothers call hcall]
    exact hfinished

include hmeet hstages in
/-- A turn without an applied commit. -/
theorem Sound.step_quiet
    (hdb : after.state.db = pool.state.db)
    (hlog : after.state.log = pool.state.log)
    (hfailed : ∀ call, statement = .commit call → ∃ message,
      ((Statement.commit call).respond sha256 marshal turn.2 pool.state).1 =
        .error message) :
    Sound commands initial after := by
  refine
    { meet := hmeet
      ids := fun call => (hstages call).1
      stages := fun call => (hstages call).2
      keys := hdb ▸ hsound.keys
      events := by rw [hdb, hlog, hsound.events]
      logged := hlog ▸ hsound.logged
      single := hlog ▸ hsound.single
      finished := fun call hcommitted => ?_
      told := fun call htold => ?_ }
  · rw [hlog] at hcommitted
    obtain ⟨reported, hreported⟩ := hsound.finished call hcommitted
    exact ⟨reported, hsound.finished_step hothers hthread hself hreported⟩
  · rw [hlog]
    by_cases hcall : call = turn.1
    · subst hcall
      rw [hself] at htold
      rcases commit_of_observe htold with hbefore | ⟨owner, rfl, hok⟩
      · exact hsound.told turn.1 hbefore
      · obtain ⟨message, hmessage⟩ := hfailed owner rfl
        cases hmessage.symm.trans hok
    · rw [hothers call hcall] at htold
      exact hsound.told call htold

end Performing

include hmeet hothers hstages in
/-- A turn in which a commit is applied. -/
theorem Sound.step_commit {owner : ι} {tx : Tx}
    {next : (Statement.commit owner).Res → Task ι AppendEventResult}
    (hthread : pool.threads turn.1 = .perform (.commit owner) next)
    (hself : after.notes turn.1 = (callContract commands).observe
      (pool.notes turn.1) (.commit owner)
      ((Statement.commit owner).respond sha256 marshal turn.2 pool.state).1)
    (htx : pool.state.transactions owner = some tx)
    (hconflicts : conflicts pool.state.db tx = false)
    (hdb : after.state.db = merge pool.state.db tx)
    (hlog : after.state.log =
      pool.state.log ++ tx.newEvents.map fun row => (owner, row)) :
    Sound commands initial after := by
  obtain ⟨howner, hstage⟩ := hsound.meet.allowed hthread
  rw [hsound.ids] at howner
  subst howner
  have hmatches := hsound.stages turn.1
  rw [hstage] at hmatches
  obtain ⟨other, row, rows, hother, hholds, hrows, hrow⟩ := hmatches
  obtain rfl : tx = other := Option.some.inj (htx.symm.trans hother)
  rw [hholds.newEvents_eq, List.map_singleton] at hlog
  -- the call has committed nothing before, as it was not finished
  have hnothing : committedBy pool.state.log turn.1 = [] := by
    by_contra hcommitted
    obtain ⟨reported, hreported⟩ := hsound.finished turn.1 hcommitted
    rw [hstage] at hreported
    cases hreported
  have hcommittedBy : ∀ call, committedBy after.state.log call =
      committedBy pool.state.log call ++
        if turn.1 = call then [row] else [] := by
    intro call
    rw [hlog, committedBy_append_singleton]
  refine
    { meet := hmeet
      ids := fun call => (hstages call).1
      stages := fun call => (hstages call).2
      keys := by
        rw [hdb]
        exact hsound.keys.merge hholds hrows hrow hconflicts
      events := by
        rw [hdb, hlog, merge, hholds.newEvents_eq, hsound.events,
          List.map_append, List.append_assoc]
        rfl
      logged := fun entry hentry => ?_
      single := fun call => ?_
      finished := fun call hcommitted => ?_
      told := fun call htold => ?_ }
  · rw [hlog] at hentry
    rcases List.mem_append.mp hentry with hbefore | hnew
    · exact hsound.logged entry hbefore
    · rw [List.mem_singleton.mp hnew]
      exact hrow
  · rw [hcommittedBy]
    split
    · next hcall =>
      rw [← hcall, hnothing]
      exact le_refl 1
    · rw [List.append_nil]
      exact hsound.single call
  · rw [hcommittedBy] at hcommitted
    by_cases hcall : turn.1 = call
    · subst hcall
      rw [hself]
      cases ((Statement.commit turn.1).respond sha256 marshal turn.2
          pool.state).1 with
      | error message => exact ⟨false, rfl⟩
      | ok _ => exact ⟨true, rfl⟩
    · rw [if_neg hcall, List.append_nil] at hcommitted
      obtain ⟨reported, hreported⟩ := hsound.finished call hcommitted
      exact ⟨reported, hsound.finished_step hothers hthread hself hreported⟩
  · rw [hcommittedBy]
    by_cases hcall : turn.1 = call
    · rw [if_pos hcall]
      exact List.append_ne_nil_of_right_ne_nil _ (List.cons_ne_nil _ _)
    · rw [hothers call (Ne.symm hcall)] at htold
      rw [if_neg hcall, List.append_nil]
      exact hsound.told call htold

theorem Sound.step (turn : ι × Turn) :
    Sound commands initial (pool.step (Statement.respond sha256 marshal)
      (callContract commands) turn) := by
  refine Pool.step_cases (fun after => after.AllMeet (callContract commands)
      (fun _ => Told) → Sound commands initial after) (fun _ => hsound)
    (fun statement next hthread after hstate hself hothers hmeet => ?_)
    (hsound.meet.step turn)
  have hstages : ∀ call, (after.notes call).1 = call ∧ _ :=
    hsound.step_stages hothers hthread hself hstate
  have hcases : ((statement.respond sha256 marshal turn.2
      pool.state).2.db = pool.state.db ∧ _) ∨ _ :=
    respond_cases turn.2 statement pool.state
  rw [← hstate] at hcases
  rcases hcases with ⟨hdb, hlog, hfailed⟩ |
    ⟨owner, tx, rfl, htx, hconflicts, hdb, hlog⟩
  · exact hsound.step_quiet hmeet hothers hstages hthread hself hdb hlog hfailed
  · exact hsound.step_commit hmeet hothers hstages hthread hself htx hconflicts
      hdb hlog

/-- The committed event of a call carries its key. -/
theorem Sound.exists_entry {call : ι}
    (hkey : (commands call).idempotencyKey ≠ "")
    (hcommitted : committedBy pool.state.log call ≠ []) :
    ∃ row, (call, row) ∈ pool.state.log.filter fun entry =>
      entry.2.metadata.idempotencyKey =
        some (commands call).idempotencyKey := by
  obtain ⟨row, hrow⟩ := List.exists_mem_of_ne_nil _ hcommitted
  obtain ⟨⟨owner, stored⟩, hentry, rfl⟩ := List.mem_map.mp hrow
  obtain ⟨hmem, howner⟩ := List.mem_filter.mp hentry
  obtain rfl : owner = call := of_decide_eq_true howner
  refine ⟨stored, List.mem_filter.mpr ⟨hmem, decide_eq_true ?_⟩⟩
  rw [hsound.logged _ hmem]
  exact (nullString_eq_some_iff hkey).mpr rfl

/-- Two calls with one key do not both commit an event. -/
theorem Sound.eq_of_committed {first second : ι}
    (hkey : (commands first).idempotencyKey ≠ "")
    (hsame : (commands first).idempotencyKey =
      (commands second).idempotencyKey)
    (hfirst : committedBy pool.state.log first ≠ [])
    (hsecond : committedBy pool.state.log second ≠ []) : first = second := by
  obtain ⟨row, hrow⟩ := hsound.exists_entry hkey hfirst
  obtain ⟨other, hother⟩ := hsound.exists_entry (hsame ▸ hkey) hsecond
  rw [← hsame] at hother
  have hle := hsound.keys.atMostOnce _ hkey
  rw [carrying, hsound.events, List.filter_append, List.length_append,
    List.filter_map, List.length_map] at hle
  have hentries : (pool.state.log.filter fun entry =>
      entry.2.metadata.idempotencyKey =
        some (commands first).idempotencyKey).length ≤ 1 :=
    le_trans (Nat.le_add_left _ _) hle
  obtain ⟨entry, hentry⟩ := List.length_eq_one_iff.mp
    (le_antisymm hentries (List.length_pos_of_mem hrow))
  rw [hentry, List.mem_singleton] at hrow hother
  exact congrArg Prod.fst (hrow.trans hother.symm)

end SoundStep

/-- In every interleaving of calls, with any statements failing, every key is
stored exactly if one committed event carries it, at most one call adds an
event for a key, and every call that adds none ends with an error. -/
theorem keys_claimed_once (hinitial : KeysMatch initial)
    (schedule : List (ι × Turn)) :
    ClaimedOnce commands initial ((callPool commands initial).run
      (Statement.respond sha256 marshal) (callContract commands)
        schedule) := by
  have hsound : Sound commands initial ((callPool commands initial).run
      (Statement.respond sha256 marshal) (callContract commands) schedule) :=
    Pool.run_invariant (Sound commands initial)
      (fun pool turn hpool _ => hpool.step turn) (sound_callPool hinitial)
      Pool.admissible_true
  exact
    { events := hsound.events
      keys := hsound.keys
      single := hsound.single
      once := fun first second hkey hsame hfirst hsecond =>
        hsound.eq_of_committed hkey hsame hfirst hsecond
      failed := fun call result hresult hnone => by
        have hthread := Prog.eq_done_of_result hresult
        have htold := hsound.meet.post hthread
        cases result with
        | error error => exact ⟨error, rfl⟩
        | ok value =>
            exact absurd hnone (hsound.told call (htold value rfl)) }

end Pool

namespace Samples

open EventStore.Samples (marshal midnight empty)
open AppendTenants.Samples (sha256)

/-- Two calls with one idempotency key, on different aggregates. -/
def commands (call : Bool) : AppendEventCommand :=
  { sessionEnded (if call then 9 else 8) 5 "timeout" with
    idempotencyKey := "order-1" }

def working (call : Bool) : Bool × Turn :=
  (call, { failure := none
           applied := false
           occurredAt := midnight + 1000000000
           env := EventStore.Samples.env 1 })

/-- Both calls check the key, read the version, begin, claim the key and
append before either commits. -/
def interleaved : List (Bool × Turn) :=
  (List.range 7).flatMap fun _ => [working true, working false]

/-- The two calls after the turns. -/
def claimed : CallPool Bool :=
  (callPool commands empty).run (Statement.respond sha256 marshal)
    (callContract commands) interleaved

/-- What a call has answered: its version, or its error. -/
def answer (call : Bool) : Option (Except AppendError ℤ) :=
  (claimed.threads call).result.map fun result =>
    result.map StoredEventRecord.version

end Samples

theorem keysMatch_empty : KeysMatch EventStore.Samples.empty where
  atMostOnce _ _ := Nat.zero_le 1
  present _ _ := by simp [keys, carrying, EventStore.Samples.empty]

/-- Both calls claim the key, and the second commit fails. -/
theorem keys_claimed_once_interleaved :
    ClaimedOnce Samples.commands EventStore.Samples.empty Samples.claimed ∧
      Samples.answer true = some (.ok 1) ∧
        Samples.answer false = some (.error (.other
          "pq: could not serialize access due to concurrent update")) :=
  ⟨keys_claimed_once keysMatch_empty Samples.interleaved, by decide +kernel,
    by decide +kernel⟩

end UssdKernel.KeyClaims
