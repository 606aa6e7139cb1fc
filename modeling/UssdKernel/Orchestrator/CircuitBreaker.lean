import UssdKernel.Orchestrator.SagaEngine

/-!
# The circuit breaker

One breaker stands before the payment engine.  It opens at the fifth failure
without a success in between, and after 30 seconds it lets a request through
whose result closes it or opens it again.

`Sees` compares a breaker with one that has not been told of some of the
failures: as long as these do not open it, both allow the same requests.
`Counts` says what state the failures since the last success leave.
`History` keeps a breaker beside what it has been told.  `SharedBreaker` takes
the critical sections of concurrent calls one by one.
-/

namespace UssdKernel.CircuitBreakers

open Orchestrator (Time)
open Runs (Throughout)

inductive BreakerState
  | stateClosed
  | stateOpen
  | stateHalfOpen
  deriving DecidableEq

structure CircuitBreaker where
  state : BreakerState
  failures : ℕ
  lastFailureTime : Time
  openDuration : Time
  failureThreshold : ℕ
  deriving DecidableEq

def newCircuitBreaker : CircuitBreaker where
  state := .stateClosed
  failures := 0
  lastFailureTime := 0
  openDuration := 30 * 1000000000
  failureThreshold := 5

variable {breaker : CircuitBreaker}

namespace CircuitBreaker

section Calls

variable (breaker)

/-- The breaker has been open for longer than its duration. -/
def elapsed (now : Time) : Bool :=
  breaker.openDuration < now - breaker.lastFailureTime

/-- `Allow`, which reads the clock once more after it has taken the lock. -/
def allow (now again : Time) :
    Bool × CircuitBreaker :=
  match breaker.state with
  | .stateClosed | .stateHalfOpen => (true, breaker)
  | .stateOpen =>
      if breaker.elapsed now && breaker.elapsed again then
        (true, { breaker with state := .stateHalfOpen, failures := 0 })
      else (false, breaker)

def recordSuccess : CircuitBreaker :=
  match breaker.state with
  | .stateHalfOpen => { breaker with state := .stateClosed, failures := 0 }
  | .stateClosed => { breaker with failures := 0 }
  | .stateOpen => breaker

/-- A failure at this count opens a closed breaker. -/
def full : Bool :=
  breaker.failureThreshold ≤ breaker.failures + 1

def recordFailure (now : Time) : CircuitBreaker :=
  { breaker with
    failures := breaker.failures + 1
    lastFailureTime := now
    state :=
      match breaker.state with
      | .stateClosed => if breaker.full then .stateOpen else .stateClosed
      | .stateHalfOpen => .stateOpen
      | .stateOpen => .stateOpen }

end Calls

end CircuitBreaker

/-- The second breaker is the first one without `missed` of the failures that it
has counted since its last success. -/
structure Sees (missed : ℕ) (first second : CircuitBreaker) : Prop where
  state : first.state = second.state
  openDuration : first.openDuration = second.openDuration
  failureThreshold : first.failureThreshold = second.failureThreshold
  lastFailureTime : first.state = .stateOpen →
    first.lastFailureTime = second.lastFailureTime
  failures : first.state = .stateClosed →
    first.failures = second.failures + missed

namespace Sees

variable {missed : ℕ} {first second : CircuitBreaker}

theorem refl (breaker : CircuitBreaker) : Sees 0 breaker breaker where
  state := rfl
  openDuration := rfl
  failureThreshold := rfl
  lastFailureTime _ := rfl
  failures _ := rfl

section Seen

variable (hsees : Sees missed first second)
include hsees

/-- Both breakers allow the same requests. -/
theorem allow (now again : Time) :
    (first.allow now again).1 = (second.allow now again).1 ∧
      Sees missed (first.allow now again).2 (second.allow now again).2 := by
  have hstate := hsees.state
  cases hfirst : first.state with
  | stateClosed | stateHalfOpen =>
      rw [hfirst] at hstate
      simp only [CircuitBreaker.allow, hfirst, ← hstate]
      exact ⟨trivial, hsees⟩
  | stateOpen =>
      have helapsed : ∀ time, first.elapsed time = second.elapsed time := by
        intro time
        rw [CircuitBreaker.elapsed, CircuitBreaker.elapsed, hsees.openDuration,
          hsees.lastFailureTime hfirst]
      rw [hfirst] at hstate
      simp only [CircuitBreaker.allow, hfirst, ← hstate, helapsed]
      split
      · refine ⟨rfl, rfl, hsees.openDuration, hsees.failureThreshold, ?_, ?_⟩
        · intro hopen
          cases hopen
        · intro hclosed
          cases hclosed
      · exact ⟨rfl, hsees⟩

/-- A success makes the missed failures forgotten. -/
theorem recordSuccess :
    Sees 0 first.recordSuccess second.recordSuccess := by
  obtain ⟨state, _, _, _, _⟩ := first
  obtain ⟨_, _, _, _, _⟩ := second
  obtain ⟨rfl, hduration, hthreshold, htime, -⟩ := hsees
  cases state with
  | stateClosed | stateHalfOpen =>
      exact ⟨rfl, hduration, hthreshold, (fun hopen => by cases hopen),
        fun _ => rfl⟩
  | stateOpen =>
      exact ⟨rfl, hduration, hthreshold, htime, fun hclosed => by cases hclosed⟩

/-- A failure that both are told of, and that opens the first breaker only if
none was missed. -/
theorem recordFailure (now : Time)
    (hopens : first.state = .stateClosed → first.full = true → missed = 0) :
    Sees missed (first.recordFailure now) (second.recordFailure now) := by
  obtain ⟨state, failures, _, _, threshold⟩ := first
  obtain ⟨_, seen, _, _, _⟩ := second
  obtain ⟨rfl, rfl, rfl, -, hcount⟩ := hsees
  cases state with
  | stateOpen | stateHalfOpen =>
      exact ⟨rfl, rfl, rfl, fun _ => rfl, fun hclosed => by cases hclosed⟩
  | stateClosed =>
      obtain rfl : failures = seen + missed := hcount rfl
      have hfull : threshold ≤ seen + missed + 1 ↔ threshold ≤ seen + 1 := by
        constructor
        · intro hfull
          rwa [hopens rfl (decide_eq_true hfull), Nat.add_zero] at hfull
        · intro hfull
          omega
      refine ⟨?_, rfl, rfl, fun _ => rfl, fun _ => ?_⟩
      · simp [CircuitBreaker.recordFailure, CircuitBreaker.full, hfull]
      · exact Nat.add_right_comm seen missed 1

/-- A failure that only the first breaker is told of, and that does not open
it. -/
theorem recordFailure_missed (now : Time) (hclosed : first.state = .stateClosed)
    (hfull : first.full = false) :
    Sees (missed + 1) (first.recordFailure now) second := by
  have hstate : (first.recordFailure now).state = .stateClosed := by
    simp only [CircuitBreaker.recordFailure, hclosed, hfull]
    rfl
  have hcount := hsees.failures hclosed
  refine ⟨?_, hsees.openDuration, hsees.failureThreshold, ?_, ?_⟩
  · rw [hstate, ← hsees.state, hclosed]
  · intro hopen
    rw [hstate] at hopen
    cases hopen
  · intro _
    simp only [CircuitBreaker.recordFailure]
    omega

end Seen

end Sees

/-- A refused request leaves the breaker. -/
theorem allow_of_refused {now again : Time}
    (hrefused : (breaker.allow now again).1 = false) :
    (breaker.allow now again).2 = breaker := by
  cases hstate : breaker.state with
  | stateClosed | stateHalfOpen => simp only [CircuitBreaker.allow, hstate]
  | stateOpen =>
      simp only [CircuitBreaker.allow, hstate] at hrefused ⊢
      split
      · next helapsed =>
        rw [if_pos helapsed] at hrefused
        cases hrefused
      · rfl

/-- A closed breaker allows every request and stays as it is. -/
theorem allow_of_closed (hclosed : breaker.state = .stateClosed)
    (now again : Time) :
    breaker.allow now again = (true, breaker) := by
  simp only [CircuitBreaker.allow, hclosed]

/-- A breaker that is closed when it has been asked was closed before. -/
theorem closed_of_allow {now again : Time}
    (hclosed : (breaker.allow now again).2.state = .stateClosed) :
    breaker.state = .stateClosed ∧ (breaker.allow now again).2 = breaker := by
  cases hstate : breaker.state with
  | stateClosed => exact ⟨rfl, by rw [allow_of_closed hstate]⟩
  | stateHalfOpen =>
      simp only [CircuitBreaker.allow, hstate] at hclosed
      cases hclosed
  | stateOpen =>
      simp only [CircuitBreaker.allow, hstate] at hclosed
      split at hclosed
      · cases hclosed
      · rw [hstate] at hclosed
        cases hclosed

/-! ## Failures since the last success -/

/-- Between two requests the breaker has been told of so many failures since the
last success: it is closed below five, and open from then on. -/
structure Counts (failures : ℕ) (breaker : CircuitBreaker) : Prop where
  openDuration : breaker.openDuration = 30 * 1000000000
  failureThreshold : breaker.failureThreshold = 5
  closed : failures < 5 →
    breaker.state = .stateClosed ∧ breaker.failures = failures
  opened : 5 ≤ failures → breaker.state = .stateOpen

theorem counts_newCircuitBreaker : Counts 0 newCircuitBreaker where
  openDuration := rfl
  failureThreshold := rfl
  closed _ := ⟨rfl, rfl⟩
  opened hfive := absurd hfive (by decide)

namespace Counts

variable {failures : ℕ} {now again : Time} (hcounts : Counts failures breaker)
  (hallowed : (breaker.allow now again).1 = true)

include hcounts hallowed

/-- An open breaker that allows a request is half open, 30 seconds after the
last failure. -/
theorem allow_of_open (hfive : 5 ≤ failures) :
    (breaker.allow now again).2 =
        { breaker with state := .stateHalfOpen, failures := 0 } ∧
      breaker.lastFailureTime + 30 * 1000000000 < again := by
  have hopen := hcounts.opened hfive
  by_cases helapsed : (breaker.elapsed now && breaker.elapsed again) = true
  · have hagain : breaker.openDuration < again - breaker.lastFailureTime :=
      of_decide_eq_true (Bool.and_eq_true_iff.mp helapsed).2
    rw [hcounts.openDuration] at hagain
    simp only [CircuitBreaker.allow, hopen, helapsed, if_true, true_and]
    exact lt_sub_iff_add_lt'.mp hagain
  · simp only [CircuitBreaker.allow, hopen, if_neg helapsed] at hallowed
    cases hallowed

/-- An allowed request that fails. -/
theorem recordFailure (time : Time) :
    Counts (failures + 1)
      ((breaker.allow now again).2.recordFailure time) := by
  by_cases hfive : 5 ≤ failures
  · rw [(hcounts.allow_of_open hallowed hfive).1]
    exact ⟨hcounts.openDuration, hcounts.failureThreshold,
      fun hfew => absurd hfew (by omega), fun _ => rfl⟩
  · obtain ⟨hclosed, hcount⟩ := hcounts.closed (not_le.mp hfive)
    rw [allow_of_closed hclosed]
    have hfull : breaker.full = decide (5 ≤ failures + 1) := by
      rw [CircuitBreaker.full, hcounts.failureThreshold, hcount]
    refine ⟨hcounts.openDuration, hcounts.failureThreshold, fun hfew => ?_,
      fun hmany => ?_⟩
    · have hnot : breaker.full = false := by
        rw [hfull, decide_eq_false (not_le.mpr hfew)]
      simp only [CircuitBreaker.recordFailure, hclosed, hnot, hcount]
      exact ⟨rfl, trivial⟩
    · have hopens : breaker.full = true := by
        rw [hfull, decide_eq_true hmany]
      simp only [CircuitBreaker.recordFailure, hclosed, hopens, if_true]

/-- An allowed request that succeeds. -/
theorem recordSuccess :
    Counts 0 (breaker.allow now again).2.recordSuccess := by
  by_cases hfive : 5 ≤ failures
  · rw [(hcounts.allow_of_open hallowed hfive).1]
    exact ⟨hcounts.openDuration, hcounts.failureThreshold,
      fun _ => ⟨rfl, rfl⟩, fun hmany => absurd hmany (by decide)⟩
  · obtain ⟨hclosed, -⟩ := hcounts.closed (not_le.mp hfive)
    rw [allow_of_closed hclosed]
    simp only [CircuitBreaker.recordSuccess, hclosed]
    exact ⟨hcounts.openDuration, hcounts.failureThreshold,
      fun _ => ⟨rfl, rfl⟩, fun hmany => absurd hmany (by decide)⟩

end Counts

/-! ## Histories of calls -/

/-- A call with the times that it reads. -/
inductive BreakerCall
  | allow (now again : Time)
  | recordSuccess
  | recordFailure (now : Time)
  | reset

def CircuitBreaker.reset (breaker : CircuitBreaker) : CircuitBreaker :=
  { breaker with state := .stateClosed, failures := 0 }

/-- A breaker beside what it has been told: the failures since the last success
or reset, and the time of the last failure. -/
structure History where
  breaker : CircuitBreaker
  failures : ℕ
  lastFailure : Option Time

def History.after (history : History) : BreakerCall → History
  | .allow now again =>
      { history with breaker := (history.breaker.allow now again).2 }
  | .recordSuccess =>
      { history with breaker := history.breaker.recordSuccess, failures := 0 }
  | .recordFailure now =>
      ⟨history.breaker.recordFailure now, history.failures + 1, some now⟩
  | .reset => { history with breaker := history.breaker.reset, failures := 0 }

def historyOf (calls : List BreakerCall) : History :=
  calls.foldl History.after ⟨newCircuitBreaker, 0, none⟩

/-- What the breaker keeps of its history. -/
structure History.Kept (history : History) : Prop where
  openDuration : history.breaker.openDuration = 30 * 1000000000
  failureThreshold : history.breaker.failureThreshold = 5
  closed : history.breaker.state = .stateClosed →
    history.breaker.failures < 5 ∧ history.breaker.failures = history.failures
  opened : history.breaker.state = .stateOpen →
    history.lastFailure = some history.breaker.lastFailureTime

namespace History.Kept

variable {history : History}

theorem after (hkept : history.Kept) (call : BreakerCall) :
    (history.after call).Kept := by
  obtain ⟨⟨state, failures, _, _, threshold⟩, _, _⟩ := history
  obtain ⟨hduration, hthreshold, hclosed, hopened⟩ := hkept
  cases call with
  | allow now again =>
      cases state with
      | stateClosed | stateHalfOpen =>
          exact ⟨hduration, hthreshold, hclosed, hopened⟩
      | stateOpen =>
          dsimp only [History.after, CircuitBreaker.allow]
          split
          · exact ⟨hduration, hthreshold, (fun hstill => by cases hstill),
              fun hopen => by cases hopen⟩
          · exact ⟨hduration, hthreshold, hclosed, hopened⟩
  | recordSuccess =>
      cases state with
      | stateClosed | stateHalfOpen =>
          exact ⟨hduration, hthreshold, fun _ => ⟨Nat.succ_pos 4, rfl⟩,
            fun hopen => by cases hopen⟩
      | stateOpen =>
          exact ⟨hduration, hthreshold, (fun hstill => by cases hstill), hopened⟩
  | reset =>
      exact ⟨hduration, hthreshold, fun _ => ⟨Nat.succ_pos 4, rfl⟩,
        fun hopen => by cases hopen⟩
  | recordFailure now =>
      refine ⟨hduration, hthreshold, fun hstill => ?_, fun _ => rfl⟩
      cases state with
      | stateOpen | stateHalfOpen => cases hstill
      | stateClosed =>
          obtain rfl : threshold = 5 := hthreshold
          have hroom : failures < 4 := by
            simpa [History.after, CircuitBreaker.recordFailure,
              CircuitBreaker.full] using hstill
          exact ⟨Nat.succ_lt_succ hroom, congrArg (· + 1) (hclosed rfl).2⟩

theorem of_calls (calls : List BreakerCall) : (historyOf calls).Kept :=
  List.foldlRecOn calls _
    ⟨rfl, rfl, fun _ => ⟨Nat.succ_pos 4, rfl⟩, fun hopen => by cases hopen⟩
    fun _ hkept call _ => hkept.after call

/-- The breaker opens only at a failure, in the closed state the fifth one. -/
theorem opens (hkept : history.Kept) {call : BreakerCall}
    (hshut : history.breaker.state ≠ .stateOpen)
    (hopen : (history.after call).breaker.state = .stateOpen) :
    (∃ now, call = .recordFailure now) ∧
      (history.breaker.state = .stateClosed → history.failures = 4) := by
  obtain ⟨⟨state, failures, _, _, threshold⟩, told, _⟩ := history
  cases call with
  | allow now again | recordSuccess =>
      cases state with
      | stateOpen => exact absurd rfl hshut
      | stateClosed | stateHalfOpen => cases hopen
  | reset => cases hopen
  | recordFailure now =>
      refine ⟨⟨now, rfl⟩, fun hclosed => ?_⟩
      obtain rfl : state = .stateClosed := hclosed
      obtain ⟨hfew, hcount⟩ := hkept.closed rfl
      obtain rfl : threshold = 5 := hkept.failureThreshold
      have hfull : 4 ≤ failures := by
        simpa [History.after, CircuitBreaker.recordFailure,
          CircuitBreaker.full] using hopen
      exact hcount.symm.trans (le_antisymm (Nat.le_of_lt_succ hfew) hfull)

theorem refuses_iff (hkept : history.Kept) {now again : Time}
    (htimes : now ≤ again) :
    (history.breaker.allow now again).1 = false ↔
      history.breaker.state = .stateOpen ∧
        ∃ last ∈ history.lastFailure, now - last ≤ 30 * 1000000000 := by
  cases hstate : history.breaker.state with
  | stateClosed | stateHalfOpen => simp [CircuitBreaker.allow, hstate]
  | stateOpen =>
      rw [hkept.opened hstate]
      have hlater : history.breaker.openDuration <
          now - history.breaker.lastFailureTime →
            history.breaker.openDuration <
              again - history.breaker.lastFailureTime :=
        fun helapsed => helapsed.trans_le (sub_le_sub_right htimes _)
      simp [CircuitBreaker.allow, hstate, CircuitBreaker.elapsed,
        and_iff_left_of_imp hlater, apply_ite Prod.fst, ← hkept.openDuration]

end History.Kept

/-- After any calls a closed breaker has counted the failures since the last
success or reset, fewer than five.  It opens only at the fifth of them, or at a
failure while it is half open.  A request is refused exactly if the breaker is
open and the last failure is no more than 30 seconds ago. -/
theorem breaker_follows_history (calls : List BreakerCall) :
    let history := historyOf calls
    (history.breaker.state = .stateClosed → history.breaker.failures < 5 ∧
        history.breaker.failures = history.failures) ∧
      (∀ call, history.breaker.state ≠ .stateOpen →
        (history.after call).breaker.state = .stateOpen →
          (∃ now, call = .recordFailure now) ∧
            (history.breaker.state = .stateClosed → history.failures = 4)) ∧
      ∀ now again, now ≤ again →
        ((history.breaker.allow now again).1 = false ↔
          history.breaker.state = .stateOpen ∧
            ∃ last ∈ history.lastFailure, now - last ≤ 30 * 1000000000) := by
  have hkept := History.Kept.of_calls calls
  exact ⟨hkept.closed, fun _ => hkept.opens, fun _ _ => hkept.refuses_iff⟩

/-! ## Concurrent calls -/

/-- Where a goroutine stands between the critical sections of `Allow`: it has
seen the breaker open for long enough, or has also tried to half open it. -/
inductive AllowPhase
  | outside
  | elapsed
  | tried
  deriving DecidableEq

/-- A breaker that several goroutines share. -/
structure SharedBreaker (ι : Type*) where
  breaker : CircuitBreaker
  phase : ι → AllowPhase

/-- A critical section: the next one of a goroutine's `Allow`, or the only one
of another call. -/
inductive CriticalSection (ι : Type*)
  | allow (goroutine : ι) (now : Time)
  | recordSuccess
  | recordFailure (now : Time)
  | reset

variable {ι : Type*}

/-- What `Allow` returns at the end of a section, if it returns there. -/
def SharedBreaker.answer (shared : SharedBreaker ι) :
    CriticalSection ι → Option Bool
  | .allow goroutine now =>
      match shared.phase goroutine, shared.breaker.state with
      | .outside, .stateClosed | .outside, .stateHalfOpen => some true
      | .outside, .stateOpen =>
          if shared.breaker.elapsed now then none else some false
      | .elapsed, _ => none
      | .tried, state => some (state = .stateHalfOpen)
  | _ => none

def CircuitBreaker.tryHalfOpen (breaker : CircuitBreaker) (now : Time) :
    CircuitBreaker :=
  if breaker.state = .stateOpen ∧ breaker.elapsed now then
    { breaker with state := .stateHalfOpen, failures := 0 }
  else breaker

def SharedBreaker.step [DecidableEq ι] (shared : SharedBreaker ι) :
    CriticalSection ι → SharedBreaker ι
  | .allow goroutine now =>
      let enter := Function.update shared.phase goroutine
      match shared.phase goroutine with
      | .outside =>
          if shared.answer (.allow goroutine now) = none then
            { shared with phase := enter .elapsed }
          else shared
      | .elapsed => ⟨shared.breaker.tryHalfOpen now, enter .tried⟩
      | .tried => { shared with phase := enter .outside }
  | .recordSuccess => { shared with breaker := shared.breaker.recordSuccess }
  | .recordFailure now =>
      { shared with breaker := shared.breaker.recordFailure now }
  | .reset => { shared with breaker := shared.breaker.reset }

/-- A refusal read the open state, unless the last section of the call finds
the breaker closed. -/
theorem answer_false_iff (shared : SharedBreaker ι)
    (critical : CriticalSection ι) :
    (shared.answer critical = some false →
        shared.breaker.state = .stateOpen) ↔
      ∀ goroutine now, critical = .allow goroutine now →
        shared.phase goroutine = .tried →
          shared.breaker.state ≠ .stateClosed := by
  cases critical with
  | recordSuccess | recordFailure now | reset => simp [SharedBreaker.answer]
  | allow goroutine now =>
      cases hphase : shared.phase goroutine <;>
        cases hstate : shared.breaker.state <;>
          simp [SharedBreaker.answer, hphase, hstate]

/-- Only a success or a reset closes a breaker. -/
theorem closing_step [DecidableEq ι] {shared : SharedBreaker ι}
    {critical : CriticalSection ι}
    (hshut : shared.breaker.state ≠ .stateClosed)
    (hclosed : (shared.step critical).breaker.state = .stateClosed) :
    critical = .recordSuccess ∨ critical = .reset := by
  cases critical with
  | recordSuccess => exact Or.inl rfl
  | reset => exact Or.inr rfl
  | recordFailure now =>
      cases hstate : shared.breaker.state <;>
        simp_all [SharedBreaker.step, CircuitBreaker.recordFailure]
  | allow goroutine now =>
      refine absurd ?_ hshut
      revert hclosed
      simp only [SharedBreaker.step, CircuitBreaker.tryHalfOpen]
      split
      · split <;> exact id
      · split
        · intro hclosed
          cases hclosed
        · exact id
      · exact id

/-- Between a section that leaves the breaker open or half open and one that
finds it closed, as the last of an `Allow` may, a success or a reset comes. -/
theorem exists_closing [DecidableEq ι] {sections : List (CriticalSection ι)}
    {shared : SharedBreaker ι} (hopen : shared.breaker.state ≠ .stateClosed)
    (hclosed : (sections.foldl SharedBreaker.step shared).breaker.state =
      .stateClosed) :
    .recordSuccess ∈ sections ∨ .reset ∈ sections := by
  induction sections generalizing shared with
  | nil => exact absurd hclosed hopen
  | cons critical sections ih =>
      by_cases hnext : (shared.step critical).breaker.state = .stateClosed
      · rcases closing_step hopen hnext with rfl | rfl
        · exact Or.inl List.mem_cons_self
        · exact Or.inr List.mem_cons_self
      · exact (ih hnext hclosed).imp (List.mem_cons_of_mem _)
          (List.mem_cons_of_mem _)

/-- In every interleaving the refusals read the open state as long as no call
of `Allow` ends in a section that finds the breaker closed. -/
theorem refusals_read_open_iff [DecidableEq ι]
    (sections : List (CriticalSection ι)) (shared : SharedBreaker ι) :
    Throughout SharedBreaker.step (fun shared critical =>
        shared.answer critical = some false →
          shared.breaker.state = .stateOpen) sections shared ↔
      Throughout SharedBreaker.step (fun shared critical =>
        ∀ goroutine now, critical = .allow goroutine now →
          shared.phase goroutine = .tried →
            shared.breaker.state ≠ .stateClosed) sections shared := by
  simp only [answer_false_iff]

/-- Five failures, then `Allow` half opens the breaker, another goroutine's
success closes it, and `Allow` returns false. -/
theorem closed_breaker_refuses :
    let sections : List (CriticalSection Unit) :=
      List.replicate 5 (.recordFailure 0) ++
        [.allow () 40000000000, .allow () 40000000000, .recordSuccess]
    let shared := sections.foldl SharedBreaker.step
      ⟨newCircuitBreaker, fun _ => .outside⟩
    shared.answer (.allow () 40000000000) = some false ∧
      shared.breaker.state = .stateClosed := by
  decide

end UssdKernel.CircuitBreakers
