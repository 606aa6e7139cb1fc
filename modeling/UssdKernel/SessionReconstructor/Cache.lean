import UssdKernel.Core.ExpiringCache
import UssdKernel.SessionReconstructor.Integrity

/-!
# Cached reconstructions

`reconstruct_session` answers from a cache whose key is the session and the
tenant and whose entries live for 180 seconds.  Other services append events
without telling the cache.  Every answer is what a replay without cache gives,
taken at the time of the call or of an earlier call that is not older than the
time to live.
-/

namespace UssdKernel.SessionReconstructor

structure CachedSession where
  state : SessionState
  eventCount : ℕ
  integrityHash : Bytes
  lastActivity : Option Time
  deriving DecidableEq

structure ReconstructSessionResult where
  sessionId : Uuid
  state : SessionState
  eventCount : ℕ
  integrityHash : Bytes
  lastActivity : Option Time
  currentVersion : ℤ
  deriving DecidableEq

/-- The answer from the cache. -/
def CachedSession.result (sessionId : Uuid) (cached : CachedSession) :
    ReconstructSessionResult where
  sessionId := sessionId
  state := cached.state
  eventCount := cached.eventCount
  integrityHash := cached.integrityHash
  lastActivity := cached.lastActivity
  currentVersion := cached.eventCount

/-- What an answer leaves in the cache. -/
def ReconstructSessionResult.cached (result : ReconstructSessionResult) :
    CachedSession where
  state := result.state
  eventCount := result.eventCount
  integrityHash := result.integrityHash
  lastActivity := result.lastActivity

/-- 180 seconds in nanoseconds. -/
def timeToLive : ℕ := 180 * 1000000000

/-- The events stored by the orchestrator, the cache, and the clock. -/
structure Service (Value : Type) where
  stored : List (DbEvent Value)
  cache : ExpiringCache (Uuid × Uuid) CachedSession
  now : ℕ

variable {Value : Type} {textField : Value → String → Option String}

section Reconstruct

variable (textField)

/-- The part of `reconstruct_session` after a miss. -/
def replay (failure : Option String) (stored : List (DbEvent Value))
    (sessionId : Uuid) (maxEvents : ℤ) :
    Except DomainError ReconstructSessionResult :=
  match fetchEvents failure stored sessionId maxEvents with
  | .error message => .error (.internal message)
  | .ok events =>
      if events.isEmpty then .error .sessionNotFound
      else
        match foldSessionState textField events with
        | .error error => .error error
        | .ok state =>
            .ok
              { sessionId
                state
                eventCount := events.length
                integrityHash :=
                  (events.getLast?.map DbEvent.recordHash).getD []
                lastActivity := events.getLast?.map DbEvent.occurredAt
                currentVersion := (events.getLast?.map DbEvent.version).getD 0 }

def reconstructSession (failure : Option String) (service : Service Value)
    (sessionId tenantId : Uuid) (maxEvents : ℤ) :
    Except DomainError ReconstructSessionResult × Service Value :=
  match service.cache.get timeToLive service.now (sessionId, tenantId) with
  | some cached => (.ok (cached.result sessionId), service)
  | none =>
      match replay textField failure service.stored sessionId maxEvents with
      | .error error => (.error error, service)
      | .ok result =>
          (.ok result, { service with
            cache := service.cache.insert service.now (sessionId, tenantId)
              result.cached })

/-- What the call returns with an empty cache. -/
def uncached (service : Service Value) (sessionId tenantId : Uuid)
    (maxEvents : ℤ) : Except DomainError ReconstructSessionResult :=
  (reconstructSession textField none { service with cache := .empty } sessionId
    tenantId maxEvents).1

/-- What can happen to the service: the orchestrator appends an event, a
session is reconstructed, an entry is invalidated, time passes. -/
inductive Step (Value : Type)
  | append (event : DbEvent Value)
  | reconstruct (sessionId tenantId : Uuid) (maxEvents : ℤ)
      (failure : Option String)
  | invalidate (sessionId tenantId : Uuid)
  | advance (nanoseconds : ℕ)

def step (service : Service Value) : Step Value → Service Value
  | .append event => { service with stored := service.stored ++ [event] }
  | .reconstruct sessionId tenantId maxEvents failure =>
      (reconstructSession textField failure service sessionId tenantId
        maxEvents).2
  | .invalidate sessionId tenantId =>
      { service with cache := service.cache.invalidate (sessionId, tenantId) }
  | .advance nanoseconds => { service with now := service.now + nanoseconds }

def run (service : Service Value) (history : List (Step Value)) :
    Service Value :=
  history.foldl (step textField) service

end Reconstruct

section Replay

/-- A fold that succeeds has seen consecutive versions. -/
theorem getLast?_version_of_foldLoop {expected : ℤ} {state final : SessionState}
    {events : List (DbEvent Value)}
    (hfold : foldLoop textField expected state events = .ok final)
    (hevents : events ≠ []) :
    events.getLast?.map DbEvent.version =
      some (expected + events.length - 1) := by
  have hlength : 0 < events.length := List.length_pos_iff.mpr hevents
  have hlast : events[events.length - 1]? = some events[events.length - 1] :=
    List.getElem?_eq_getElem (by omega)
  rw [List.getLast?_eq_getElem?, hlast, Option.map_some,
    ((foldLoop_eq_ok_iff.mp hfold).1 _ _ hlast).1]
  congr 1
  omega

section Replay

variable {failure : Option String} {stored : List (DbEvent Value)}
  {sessionId : Uuid} {maxEvents : ℤ} {result : ReconstructSessionResult}
  (hreplay : replay textField failure stored sessionId maxEvents = .ok result)

include hreplay

/-- The events behind an answer of a replay. -/
theorem exists_of_replay_eq_ok :
    failure = none ∧ ∃ events, events ≠ [] ∧
      foldSessionState textField events = .ok result.state ∧
        result.sessionId = sessionId ∧ result.eventCount = events.length ∧
          result.currentVersion =
            (events.getLast?.map DbEvent.version).getD 0 := by
  unfold replay at hreplay
  split at hreplay
  · cases hreplay
  · next events hfetch =>
    have hfailure : failure = none := by
      cases failure with
      | none => rfl
      | some message => cases hfetch
    split at hreplay
    · cases hreplay
    · next hsome =>
      split at hreplay
      · cases hreplay
      · next state hfold =>
        cases hreplay
        exact ⟨hfailure, events, by simpa using hsome, hfold, rfl, rfl, rfl⟩

/-- An answer is what the cache returns for it later: the last version of the
replayed events is their number. -/
theorem result_cached_of_replay : result.cached.result sessionId = result := by
  obtain ⟨-, events, hsome, hfold, hsession, hcount, hversion⟩ :=
    exists_of_replay_eq_ok hreplay
  have hloop : foldLoop textField 1 [] events = .ok result.state := by
    rwa [foldSessionState, if_neg (by simpa using hsome)] at hfold
  rw [getLast?_version_of_foldLoop hloop hsome, Option.getD_some] at hversion
  have hnumber : (result.eventCount : ℤ) = result.currentVersion := by
    rw [hcount, hversion]
    ring
  calc result.cached.result sessionId
      = { result with
          sessionId := sessionId
          currentVersion := result.eventCount } := rfl
    _ = result := by rw [hnumber, ← hsession]

end Replay

theorem uncached_eq_replay (service : Service Value) (sessionId tenantId : Uuid)
    (maxEvents : ℤ) :
    uncached textField service sessionId tenantId maxEvents =
      replay textField none service.stored sessionId maxEvents := by
  unfold uncached reconstructSession
  rw [ExpiringCache.get_empty]
  dsimp only
  split
  · next error hreplay => exact hreplay.symm
  · next result hreplay => exact hreplay.symm

end Replay

/-! ## Where an answer comes from -/

section History

variable {initial : Service Value}

theorem run_concat (history : List (Step Value)) (next : Step Value) :
    run textField initial (history ++ [next]) =
      step textField (run textField initial history) next := by
  rw [run, List.foldl_append]
  rfl

/-- A call at some point of the history has put this entry into the cache, and
it has not been invalidated since. -/
def Filled (textField : Value → String → Option String)
    (initial : Service Value) (history : List (Step Value))
    (sessionId tenantId : Uuid) (cached : CachedSession) (inserted : ℕ) :
    Prop :=
  ∃ earlier later maxEvents failure,
    history = earlier ++ .reconstruct sessionId tenantId maxEvents failure ::
        later ∧
      uncached textField (run textField initial earlier) sessionId tenantId
          maxEvents = .ok (cached.result sessionId) ∧
        inserted = (run textField initial earlier).now ∧
          .invalidate sessionId tenantId ∉ later

variable {history : List (Step Value)} {sessionId tenantId : Uuid}
  {cached : CachedSession}

theorem Filled.concat {inserted : ℕ}
    (hfilled : Filled textField initial history sessionId tenantId cached
      inserted) {next : Step Value}
    (hnext : next ≠ .invalidate sessionId tenantId) :
    Filled textField initial (history ++ [next]) sessionId tenantId cached
      inserted := by
  obtain ⟨earlier, later, maxEvents, failure, rfl, hanswer, hinserted, hkept⟩ :=
    hfilled
  refine ⟨earlier, later ++ [next], maxEvents, failure, ?_, hanswer, hinserted,
    ?_⟩
  · rw [List.append_assoc, List.cons_append]
  · rw [List.mem_append, List.mem_singleton]
    exact not_or.mpr ⟨hkept, hnext.symm⟩

/-- What a call does to the cache. -/
theorem cache_of_reconstructSession (failure : Option String)
    (service : Service Value) (sessionId tenantId : Uuid) (maxEvents : ℤ) :
    let after := (reconstructSession textField failure service sessionId
      tenantId maxEvents).2
    after.cache = service.cache ∨ ∃ result,
      uncached textField service sessionId tenantId maxEvents = .ok result ∧
        after.cache = service.cache.insert service.now (sessionId, tenantId)
          result.cached := by
  dsimp only [reconstructSession]
  cases service.cache.get timeToLive service.now (sessionId, tenantId) with
  | some cached => exact Or.inl rfl
  | none =>
      dsimp only
      cases hreplay : replay textField failure service.stored sessionId
          maxEvents with
      | error error => exact Or.inl rfl
      | ok result =>
          obtain ⟨rfl, -⟩ := exists_of_replay_eq_ok hreplay
          refine Or.inr ⟨result, ?_, rfl⟩
          rw [uncached_eq_replay, hreplay]

/-- A call that replays fills the cache with its own answer. -/
theorem filled_concat_reconstruct {maxEvents : ℤ} {failure : Option String}
    {result : ReconstructSessionResult}
    (hresult : uncached textField (run textField initial history) sessionId
      tenantId maxEvents = .ok result) :
    Filled textField initial
      (history ++ [.reconstruct sessionId tenantId maxEvents failure])
      sessionId tenantId result.cached (run textField initial history).now := by
  refine ⟨history, [], maxEvents, failure, rfl, ?_, rfl, List.not_mem_nil⟩
  rw [hresult]
  rw [uncached_eq_replay] at hresult
  rw [result_cached_of_replay hresult]

/-- Every entry of the cache was put there by a call. -/
theorem filled_of_entry (hempty : initial.cache = .empty) {inserted : ℕ}
    (hentry : (run textField initial history).cache.entries
      (sessionId, tenantId) = some (cached, inserted)) :
    Filled textField initial history sessionId tenantId cached inserted := by
  induction history using List.reverseRecOn with
  | nil =>
      rw [show (run textField initial []).cache = .empty from hempty] at hentry
      cases hentry
  | append_singleton history next ih =>
      rw [run_concat] at hentry
      cases next with
      | append event => exact (ih hentry).concat nofun
      | advance nanoseconds => exact (ih hentry).concat nofun
      | invalidate otherSession otherTenant =>
          obtain ⟨hkey, hbefore⟩ :=
            ExpiringCache.entries_invalidate_eq_some hentry
          apply (ih hbefore).concat
          intro hsame
          cases hsame
          exact hkey rfl
      | reconstruct otherSession otherTenant maxEvents failure =>
          have hafter : (reconstructSession textField failure
              (run textField initial history) otherSession otherTenant
              maxEvents).2.cache.entries (sessionId, tenantId) =
                some (cached, inserted) := hentry
          rcases cache_of_reconstructSession failure
            (run textField initial history) otherSession otherTenant
            maxEvents with hcache | ⟨result, hresult, hcache⟩
          · rw [hcache] at hafter
            exact (ih hafter).concat nofun
          · rw [hcache] at hafter
            rcases ExpiringCache.entries_insert_eq_some hafter with
              ⟨hkey, hinserted⟩ | hbefore
            · cases hkey
              cases hinserted
              exact filled_concat_reconstruct hresult
            · exact (ih hbefore).concat nofun

/-- Every answer is what a call for the same session and tenant returns with an
empty cache: this call, or an earlier one made less than the time to live
before, without an invalidation since. -/
theorem answer_of_recent_call (hempty : initial.cache = .empty)
    (history : List (Step Value)) {failure : Option String}
    {sessionId tenantId : Uuid} {maxEvents : ℤ}
    {result : ReconstructSessionResult}
    (hresult : (reconstructSession textField failure
      (run textField initial history) sessionId tenantId maxEvents).1 =
        .ok result) :
    ∃ earlier later replayed, history = earlier ++ later ∧
      uncached textField (run textField initial earlier) sessionId tenantId
          replayed = .ok result ∧
        (later = [] ∧ replayed = maxEvents ∨
            ∃ failed, later.head? =
              some (.reconstruct sessionId tenantId replayed failed)) ∧
          .invalidate sessionId tenantId ∉ later ∧
            (run textField initial history).now <
              (run textField initial earlier).now + timeToLive := by
  cases hget : (run textField initial history).cache.get timeToLive
      (run textField initial history).now (sessionId, tenantId) with
  | some cached =>
      simp only [reconstructSession, hget] at hresult
      cases hresult
      obtain ⟨inserted, hentry, hlive⟩ := ExpiringCache.get_eq_some hget
      obtain ⟨earlier, later, replayed, failed, hhistory, hanswer, hinserted,
        hkept⟩ := filled_of_entry hempty hentry
      rw [hinserted] at hlive
      refine ⟨earlier, _, replayed, hhistory, hanswer, Or.inr ⟨failed, rfl⟩, ?_,
        hlive⟩
      rw [List.mem_cons]
      exact not_or.mpr ⟨nofun, hkept⟩
  | none =>
      cases hreplay : replay textField failure
          (run textField initial history).stored sessionId maxEvents with
      | error error =>
          simp only [reconstructSession, hget, hreplay] at hresult
          cases hresult
      | ok answer =>
          simp only [reconstructSession, hget, hreplay] at hresult
          cases hresult
          obtain ⟨rfl, -⟩ := exists_of_replay_eq_ok hreplay
          refine ⟨history, [], maxEvents, (List.append_nil history).symm, ?_,
            Or.inl ⟨rfl, rfl⟩, List.not_mem_nil, ?_⟩
          · rw [uncached_eq_replay, hreplay]
          · exact Nat.lt_add_of_pos_right (by decide)

end History

namespace Samples

/-- The string fields of the payloads of the runs. -/
def payloadField (payload key : String) : Option String :=
  if payload = "\x7b\"phone_number\":\"+263771234567\"\x7d" ∧
      key = "phone_number" then some "+263771234567"
  else if payload = "\x7b\"reason\":\"timeout\"\x7d" ∧ key = "reason" then
    some "timeout"
  else if payload = "\x7b\"menu_id\":\"pay\"\x7d" ∧ key = "menu_id" then
    some "pay"
  else none

def idle : Service String where
  stored := []
  cache := .empty
  now := 0

def navigated : DbEvent String :=
  { ended 2 with
    eventType := "MenuNavigated"
    payload := "\x7b\"menu_id\":\"pay\"\x7d" }

/-- Session 9 is created and read, and a minute later a menu is opened. -/
def navigatedAfterRead : List (Step String) :=
  [.append (created none), .reconstruct 9 5 100 none, .advance 60000000000,
    .append navigated]

/-- The first event of session 9 is read alone. -/
def readOne : List (Step String) :=
  [.append (created none), .append navigated, .reconstruct 9 5 1 none]

/-- The answer to a call with room for 100 events after the history. -/
def answer (history : List (Step String)) :
    Except DomainError ReconstructSessionResult :=
  (reconstructSession payloadField none (run payloadField idle history) 9 5
    100).1

/-- The session without the menu. -/
def active : ReconstructSessionResult where
  sessionId := 9
  state := [("phone_number", "+263771234567"), ("status", "active")]
  eventCount := 1
  integrityHash := createdHash
  lastActivity := some midnight
  currentVersion := 1

end Samples

theorem answer_of_recent_call_navigated :
    ∃ earlier later replayed, Samples.navigatedAfterRead = earlier ++ later ∧
      uncached Samples.payloadField
          (run Samples.payloadField Samples.idle earlier) 9 5 replayed =
            .ok Samples.active ∧
        (later = [] ∧ replayed = 100 ∨
            ∃ failed, later.head? = some (.reconstruct 9 5 replayed failed)) ∧
          .invalidate 9 5 ∉ later ∧
            (run Samples.payloadField Samples.idle
                Samples.navigatedAfterRead).now <
              (run Samples.payloadField Samples.idle earlier).now +
                timeToLive := by
  have hanswer : Samples.answer Samples.navigatedAfterRead =
      .ok Samples.active := by
    decide +kernel
  exact answer_of_recent_call rfl Samples.navigatedAfterRead hanswer

/-- A cached answer misses an event that was appended since, and a call gets
the answer to one with a smaller limit. -/
theorem cached_answer_differs :
    Samples.answer Samples.navigatedAfterRead = .ok Samples.active ∧
      uncached Samples.payloadField
          (run Samples.payloadField Samples.idle Samples.navigatedAfterRead) 9 5
          100 ≠ .ok Samples.active ∧
        Samples.answer Samples.readOne = .ok Samples.active ∧
          uncached Samples.payloadField
            (run Samples.payloadField Samples.idle Samples.readOne) 9 5 100 ≠
              .ok Samples.active := by
  decide +kernel

end UssdKernel.SessionReconstructor
