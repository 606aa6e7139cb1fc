import UssdKernel.Core.Data
import UssdKernel.Core.Results

/-!
# Events and state of a session

The rows that the session reconstructor reads and the fold that turns them
into the session's state.  Payloads are of any type `Value`; `textField` stands
for reading a string field of a JSON payload.  Texts that are hashed or
compared are kept as their bytes.
-/

namespace UssdKernel.SessionReconstructor

/-- Nanoseconds since the Unix epoch. -/
abbrev Time := ℤ

/-- A row read by `fetch_events`. -/
structure DbEvent (Value : Type) where
  eventType : String
  version : ℤ
  payload : Value
  sessionId : Uuid
  recordHash : Bytes
  previousHash : Option Bytes
  occurredAt : Time
  deriving DecidableEq

inductive DomainError
  | sessionNotFound
  | eventSequenceGap (expected found : ℤ)
  | hashMismatch (version : ℤ)
  | invalidEventType (eventType : String)
  | internal (message : String)
  deriving DecidableEq

/-- `SELECT … WHERE session_id ORDER BY version LIMIT`; the database may fail,
and a negative limit is an error of its own. -/
def fetchEvents {Value : Type} (failure : Option String)
    (stored : List (DbEvent Value)) (sessionId : Uuid) (limit : ℤ) :
    Except String (List (DbEvent Value)) :=
  match failure with
  | some message => .error message
  | none =>
      if limit < 0 then .error "LIMIT must not be negative"
      else .ok (((stored.filter (·.sessionId = sessionId)).insertionSort
        fun first second => first.version ≤ second.version).take limit.toNat)

/-- The `HashMap` of a session: one entry for every key. -/
abbrev SessionState := List (String × String)

namespace SessionState

def insert (state : SessionState) (key value : String) : SessionState :=
  (key, value) :: state.filter (·.1 ≠ key)

/-- The insertion under `if let Some`. -/
def insertSome (state : SessionState) (key : String) :
    Option String → SessionState
  | some value => state.insert key value
  | none => state

end SessionState

variable {Value : Type} {textField : Value → String → Option String}

section Fold

variable (textField)

/-- The body of the loop of `fold_session_state` after the version check. -/
def applyEvent (state : SessionState) (event : DbEvent Value) :
    Except DomainError SessionState :=
  let text := textField event.payload
  match event.eventType with
  | "SessionCreated" =>
      .ok (((state.insert "status" "active").insertSome "phone_number"
        (text "phone_number")).insertSome "tenant_id" (text "tenant_id"))
  | "MenuNavigated" =>
      .ok (state.insertSome "current_menu" (text "menu_id"))
  | "InputReceived" => .ok (state.insertSome "last_input" (text "input"))
  | "PaymentInitiated" =>
      .ok (((state.insert "payment_status" "initiated").insertSome "amount"
        (text "amount")).insertSome "currency" (text "currency"))
  | "PaymentConfirmed" =>
      .ok ((state.insert "payment_status" "confirmed").insertSome
        "payment_reference" (text "reference_id"))
  | "SessionEnded" =>
      .ok ((state.insert "status" "ended").insertSome "end_reason"
        (text "reason"))
  | other => .error (.invalidEventType other)

def foldLoop (expectedVersion : ℤ) (state : SessionState) :
    List (DbEvent Value) → Except DomainError SessionState
  | [] => .ok state
  | event :: events =>
      if event.version ≠ expectedVersion then
        .error (.eventSequenceGap expectedVersion event.version)
      else do
        let next ← applyEvent textField state event
        foldLoop (expectedVersion + 1) next events

def foldSessionState (events : List (DbEvent Value)) :
    Except DomainError SessionState :=
  if events.isEmpty then .error .sessionNotFound
  else foldLoop textField 1 [] events

end Fold

/-! ## Which events fold -/

section Folds

variable {event : DbEvent Value} {expected : ℤ} {events : List (DbEvent Value)}
  {state : SessionState}

/-- The event types that the fold knows. -/
def knownTypes : List String :=
  ["SessionCreated", "MenuNavigated", "InputReceived", "PaymentInitiated",
    "PaymentConfirmed", "SessionEnded"]

/-- The fold reports neither a gap in the versions nor an unknown type. -/
def Folds (textField : Value → String → Option String)
    (events : List (DbEvent Value)) : Prop :=
  (∀ expected found, foldSessionState textField events ≠
      .error (.eventSequenceGap expected found)) ∧
    ∀ eventType, foldSessionState textField events ≠
      .error (.invalidEventType eventType)

theorem applyEvent_of_notMem (state : SessionState)
    (htype : event.eventType ∉ knownTypes) :
    applyEvent textField state event =
      .error (.invalidEventType event.eventType) := by
  unfold applyEvent
  dsimp only
  split
  all_goals first
    | rfl
    | (next hname => rw [hname] at htype; exact absurd (by decide) htype)

/-- What an event writes, in this order. -/
def writes (textField : Value → String → Option String)
    (event : DbEvent Value) : List (String × String) :=
  let text key field := ((textField event.payload field).map (key, ·)).toList
  match event.eventType with
  | "SessionCreated" =>
      ("status", "active") ::
        (text "phone_number" "phone_number" ++ text "tenant_id" "tenant_id")
  | "MenuNavigated" => text "current_menu" "menu_id"
  | "InputReceived" => text "last_input" "input"
  | "PaymentInitiated" =>
      ("payment_status", "initiated") ::
        (text "amount" "amount" ++ text "currency" "currency")
  | "PaymentConfirmed" =>
      ("payment_status", "confirmed") ::
        text "payment_reference" "reference_id"
  | "SessionEnded" => ("status", "ended") :: text "end_reason" "reason"
  | _ => []

/-- The versions count up from the expected one, and the types are known. -/
def Consecutive (expected : ℤ) (events : List (DbEvent Value)) : Prop :=
  ∀ (i : ℕ) event, events[i]? = some event →
    event.version = expected + i ∧ event.eventType ∈ knownTypes

theorem consecutive_nil (expected : ℤ) :
    Consecutive expected ([] : List (DbEvent Value)) := by
  simp [Consecutive]

theorem consecutive_cons :
    Consecutive expected (event :: events) ↔
      (event.version = expected ∧ event.eventType ∈ knownTypes) ∧
        Consecutive (expected + 1) events := by
  constructor
  · intro hevents
    refine ⟨by simpa using hevents 0 event rfl, fun i later hlater => ?_⟩
    have hnext := hevents (i + 1) later hlater
    rwa [Nat.cast_succ, add_comm (i : ℤ), ← add_assoc] at hnext
  · rintro ⟨hevent, hevents⟩ (_ | i) later hlater
    · cases hlater
      simpa using hevent
    · rw [Nat.cast_succ, add_comm (i : ℤ), ← add_assoc]
      exact hevents i later hlater

theorem lookup_insert (state : SessionState) (key value other : String) :
    (state.insert key value).lookup other =
      ((key, value) :: state).lookup other := by
  have hfilter (hother : (other == key) = false) :
      (state.filter (·.1 ≠ key)).lookup other = state.lookup other := by
    induction state with
    | nil => rfl
    | cons entry state ih =>
        by_cases hentry : entry.1 = key
        · rw [List.filter_cons_of_neg (by simpa using hentry), ih,
            List.lookup_cons, hentry, hother]
        · rw [List.filter_cons_of_pos (by simpa using hentry),
            List.lookup_cons, List.lookup_cons, ih]
  rw [SessionState.insert, List.lookup_cons, List.lookup_cons]
  cases hother : other == key with
  | true => rfl
  | false => exact hfilter hother

/-- The insertions of the given entries, one after the other. -/
def insertAll (state : SessionState) (entries : List (String × String)) :
    SessionState :=
  entries.foldl (fun state entry => state.insert entry.1 entry.2) state

theorem lookup_insertAll (state : SessionState)
    (entries : List (String × String)) (key : String) :
    (insertAll state entries).lookup key =
      (entries.reverse.lookup key).or (state.lookup key) := by
  induction entries generalizing state with
  | nil => rfl
  | cons entry entries ih =>
      calc (insertAll (state.insert entry.1 entry.2) entries).lookup key
          = (entries.reverse.lookup key).or (([entry] ++ state).lookup key) := by
            rw [ih, lookup_insert]
            rfl
        _ = ((entry :: entries).reverse.lookup key).or (state.lookup key) := by
            rw [List.lookup_append, ← Option.or_assoc, ← List.lookup_append,
              List.reverse_cons]

theorem applyEvent_of_mem (state : SessionState)
    (htype : event.eventType ∈ knownTypes) :
    applyEvent textField state event =
      .ok (insertAll state (writes textField event)) := by
  have hsome (state : SessionState) (key : String) (value : Option String) :
      state.insertSome key value =
        insertAll state (value.map (key, ·)).toList := by
    cases value <;> rfl
  simp only [knownTypes, List.mem_cons, List.not_mem_nil, or_false] at htype
  unfold applyEvent writes
  rcases htype with htype | htype | htype | htype | htype | htype <;>
    simp only [htype, hsome, insertAll, List.foldl_cons, List.foldl_append]

theorem foldLoop_cons (expected : ℤ) (state : SessionState)
    (event : DbEvent Value) (events : List (DbEvent Value)) :
    foldLoop textField expected state (event :: events) =
      if event.version = expected then
        if event.eventType ∈ knownTypes then
          foldLoop textField (expected + 1)
            (insertAll state (writes textField event)) events
        else .error (.invalidEventType event.eventType)
      else .error (.eventSequenceGap expected event.version) := by
  rw [foldLoop, ite_not]
  congr 1
  split_ifs with htype
  · rw [applyEvent_of_mem state htype]
    rfl
  · rw [applyEvent_of_notMem state htype]
    rfl

theorem foldLoop_eq_ok_iff {state final : SessionState} :
    foldLoop textField expected state events = .ok final ↔
      Consecutive expected events ∧
        final = insertAll state (events.flatMap (writes textField)) := by
  induction events generalizing expected state with
  | nil =>
      rw [and_iff_right (consecutive_nil expected), foldLoop, Except.ok.injEq,
        eq_comm]
      rfl
  | cons event events ih =>
      rw [foldLoop_cons, consecutive_cons, List.flatMap_cons]
      split_ifs with hversion htype
      · rw [and_assoc, and_iff_right ⟨hversion, htype⟩, ih, insertAll,
          insertAll, insertAll, List.foldl_append]
      · exact iff_of_false (fun hfold => by cases hfold)
          fun hevents => htype hevents.1.1.2
      · exact iff_of_false (fun hfold => by cases hfold)
          fun hevents => hversion hevents.1.1.1

/-- The error is about the first event with another version than the next or
with an unknown type, and the version is looked at first. -/
def FirstOffence (expected : ℤ) (events : List (DbEvent Value))
    (error : DomainError) : Prop :=
  ∃ before event after, events = before ++ event :: after ∧
    Consecutive expected before ∧
      (event.version ≠ expected + before.length ∧
          error = .eventSequenceGap (expected + before.length) event.version ∨
        event.version = expected + before.length ∧
          event.eventType ∉ knownTypes ∧
            error = .invalidEventType event.eventType)

theorem foldLoop_eq_error {error : DomainError}
    (hfold : foldLoop textField expected state events = .error error) :
    FirstOffence expected events error := by
  induction events generalizing expected state with
  | nil => cases hfold
  | cons event events ih =>
      rw [foldLoop_cons] at hfold
      split_ifs at hfold with hversion htype
      · obtain ⟨before, later, after, rfl, hbefore, herror⟩ := ih hfold
        refine ⟨event :: before, later, after, rfl,
          consecutive_cons.mpr ⟨⟨hversion, htype⟩, hbefore⟩, ?_⟩
        rwa [List.length_cons, Nat.cast_succ, add_comm (before.length : ℤ),
          ← add_assoc]
      · cases hfold
        exact ⟨[], event, events, rfl, consecutive_nil expected,
          .inr ⟨by simpa using hversion, htype, rfl⟩⟩
      · cases hfold
        exact ⟨[], event, events, rfl, consecutive_nil expected,
          .inl ⟨by simpa using hversion, by simp⟩⟩

theorem foldLoop_ok_iff :
    (∃ final, foldLoop textField expected state events = .ok final) ↔
      Consecutive expected events := by
  simp only [foldLoop_eq_ok_iff, exists_and_left, exists_eq, and_true]

theorem foldSessionState_of_ne_nil (hevents : events ≠ []) :
    foldSessionState textField events = foldLoop textField 1 [] events := by
  rw [foldSessionState, if_neg (by simpa using hevents)]

/-- The fold succeeds exactly for one or more events with the versions 1, 2, …
and known types.  A key then holds what was written to it last.  An error is
about the first event that is not so. -/
theorem foldSessionState_result (textField : Value → String → Option String)
    (events : List (DbEvent Value)) :
    ((∃ state, foldSessionState textField events = .ok state) ↔
        events ≠ [] ∧ Consecutive 1 events) ∧
      (∀ state, foldSessionState textField events = .ok state → ∀ key,
        state.lookup key =
          (events.flatMap (writes textField)).reverse.lookup key) ∧
      ∀ error, foldSessionState textField events = .error error →
        events = [] ∧ error = .sessionNotFound ∨
          FirstOffence 1 events error := by
  by_cases hevents : events = []
  · subst hevents
    refine ⟨⟨?_, fun hsome => absurd rfl hsome.1⟩, ?_, ?_⟩
    · rintro ⟨state, hfold⟩
      cases hfold
    · intro state hfold
      cases hfold
    · intro error hfold
      cases hfold
      exact .inl ⟨rfl, rfl⟩
  · rw [foldSessionState_of_ne_nil hevents, foldLoop_ok_iff]
    refine ⟨(and_iff_right hevents).symm, fun state hfold key => ?_,
      fun error hfold => .inr (foldLoop_eq_error hfold)⟩
    rw [(foldLoop_eq_ok_iff.mp hfold).2, lookup_insertAll]
    exact Option.or_none

theorem folds_iff_consecutive :
    Folds textField events ↔ Consecutive 1 events := by
  by_cases hevents : events = []
  · subst hevents
    exact iff_of_true ⟨fun _ _ => nofun, fun _ => nofun⟩ (consecutive_nil 1)
  · rw [Folds, foldSessionState_of_ne_nil hevents, ← foldLoop_ok_iff]
    constructor
    · rintro ⟨hgap, htype⟩
      cases hfold : foldLoop textField 1 [] events with
      | ok state => exact ⟨state, rfl⟩
      | error error =>
          obtain ⟨_, event, _, -, -, ⟨-, rfl⟩ | ⟨-, -, rfl⟩⟩ :=
            foldLoop_eq_error hfold
          · exact absurd hfold (hgap _ _)
          · exact absurd hfold (htype _)
    · rintro ⟨state, hfold⟩
      rw [hfold]
      exact ⟨fun _ _ => nofun, fun _ => nofun⟩

/-- Events that all have version 1 fold exactly if there is at most one, of a
known type. -/
theorem folds_iff_of_version_eq_one
    (hversions : ∀ event ∈ events, event.version = 1) :
    Folds textField events ↔
      events.length ≤ 1 ∧ ∀ event ∈ events, event.eventType ∈ knownTypes := by
  rw [folds_iff_consecutive]
  constructor
  · intro hevents
    constructor
    · by_contra hlength
      have hsecond := hevents 1 _ (List.getElem?_eq_getElem (by omega))
      rw [hversions _ (List.getElem_mem _)] at hsecond
      exact absurd hsecond.1 (by decide)
    · intro event hevent
      obtain ⟨i, hi⟩ := List.mem_iff_getElem?.mp hevent
      exact (hevents i event hi).2
  · rintro ⟨hlength, htypes⟩ i event hevent
    obtain ⟨hi, -⟩ := List.getElem?_eq_some_iff.mp hevent
    have hzero : i = 0 := by omega
    have hmem : event ∈ events := List.mem_of_getElem? hevent
    rw [hzero, hversions event hmem]
    exact ⟨rfl, htypes event hmem⟩

end Folds

end UssdKernel.SessionReconstructor
