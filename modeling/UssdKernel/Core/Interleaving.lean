import UssdKernel.Core.Programs
import UssdKernel.Core.Runs

/-!
# Interleaved programs

A pool runs programs over one shared state.  A turn names the thread that
moves and the choice the environment makes for that move; a schedule is a list
of turns, so a statement about every schedule covers every interleaving and
every behaviour of the environment.  A thread that has ended ignores its
turns.

Two rules carry the proofs: contracts of the single programs hold along every
schedule, and an invariant kept by every admissible turn holds after every
admissible schedule.
-/

namespace UssdKernel.Interleaving

open UssdKernel.Programs

/-- Threads over a shared state, each with the note it keeps of its own
responses. -/
structure Pool (Id Op : Type) (Res : Op → Type) (Err A State Note : Type) where
  state : State
  notes : Id → Note
  threads : Id → Prog Op Res Err A

namespace Pool

variable {Id Op : Type} {Res : Op → Type} {Err A State Note Choice : Type}
variable [DecidableEq Id]
variable (respond : Choice → (op : Op) → State → Res op × State)
variable (contract : Prog.Contract Op Res Note)

/-- One move of the thread named by the turn. -/
def step (pool : Pool Id Op Res Err A State Note) (turn : Id × Choice) :
    Pool Id Op Res Err A State Note :=
  match pool.threads turn.1 with
  | .done _ => pool
  | .perform op next =>
      let answer := respond turn.2 op pool.state
      { state := answer.2
        notes := Function.update pool.notes turn.1
          (contract.observe (pool.notes turn.1) op answer.1)
        threads := Function.update pool.threads turn.1 (next answer.1) }

def run (schedule : List (Id × Choice))
    (pool : Pool Id Op Res Err A State Note) :
    Pool Id Op Res Err A State Note :=
  schedule.foldl (step respond contract) pool

variable {respond contract}

theorem run_append (first second : List (Id × Choice))
    (pool : Pool Id Op Res Err A State Note) :
    pool.run respond contract (first ++ second) =
      (pool.run respond contract first).run respond contract second :=
  List.foldl_append

variable {pool : Pool Id Op Res Err A State Note} {turn : Id × Choice}
  {result : Except Err A}

theorem step_of_done (hthread : pool.threads turn.1 = .done result) :
    pool.step respond contract turn = pool := by
  simp only [step, hthread]

variable {op : Op} {next : Res op → Prog Op Res Err A}

section Perform

variable (hthread : pool.threads turn.1 = .perform op next)
include hthread

theorem step_of_perform :
    pool.step respond contract turn =
      { state := (respond turn.2 op pool.state).2
        notes := Function.update pool.notes turn.1
          (contract.observe (pool.notes turn.1) op
            (respond turn.2 op pool.state).1)
        threads := Function.update pool.threads turn.1
          (next (respond turn.2 op pool.state).1) } := by
  simp only [step, hthread]

theorem state_step :
    (pool.step respond contract turn).state =
      (respond turn.2 op pool.state).2 := by
  rw [step_of_perform hthread]

theorem threads_step :
    (pool.step respond contract turn).threads =
      Function.update pool.threads turn.1
        (next (respond turn.2 op pool.state).1) := by
  rw [step_of_perform hthread]

theorem notes_step_self :
    (pool.step respond contract turn).notes turn.1 =
      contract.observe (pool.notes turn.1) op
        (respond turn.2 op pool.state).1 := by
  rw [step_of_perform hthread]
  exact Function.update_self _ _ _

end Perform

/-- A turn leaves the notes of the other threads. -/
theorem notes_step_of_ne {id : Id} (hid : id ≠ turn.1) :
    (pool.step respond contract turn).notes id = pool.notes id := by
  cases hthread : pool.threads turn.1 with
  | done result => rw [step_of_done hthread]
  | perform op next =>
      rw [step_of_perform hthread]
      exact Function.update_of_ne hid _ _

/-- What holds after a turn, from the state and the notes that it leaves. -/
theorem step_cases (motive : Pool Id Op Res Err A State Note → Prop)
    (hdone : motive pool)
    (hperform : ∀ op next, pool.threads turn.1 = .perform op next →
      ∀ after : Pool Id Op Res Err A State Note,
        after.state = (respond turn.2 op pool.state).2 →
        after.notes turn.1 = contract.observe (pool.notes turn.1) op
          (respond turn.2 op pool.state).1 →
        (∀ id, id ≠ turn.1 → after.notes id = pool.notes id) →
        motive after) :
    motive (pool.step respond contract turn) := by
  cases hthread : pool.threads turn.1 with
  | done result =>
      rw [step_of_done hthread]
      exact hdone
  | perform op next =>
      exact hperform op next hthread _ (state_step hthread)
        (notes_step_self hthread) fun _ => notes_step_of_ne

/-- The turns in which a thread runs to its end, with nothing in between. -/
theorem exists_run_exec (choice : Choice) (id : Id)
    (pool : Pool Id Op Res Err A State Note) :
    ∃ schedule, (pool.run respond contract schedule).state =
      (Prog.exec (respond choice) (pool.threads id) pool.state).2 := by
  generalize hthread : pool.threads id = program
  induction program generalizing pool with
  | done result => exact ⟨[], rfl⟩
  | perform op next ih =>
      have hlater : (pool.step respond contract (id, choice)).threads id =
          next (respond choice op pool.state).1 := by
        rw [step_of_perform hthread]
        exact Function.update_self _ _ _
      obtain ⟨schedule, hschedule⟩ := ih _ _ hlater
      have hstate : (pool.step respond contract (id, choice)).state =
          (respond choice op pool.state).2 := state_step hthread
      refine ⟨(id, choice) :: schedule, ?_⟩
      rw [hstate] at hschedule
      exact hschedule

/-- Every thread meets the contract from its current note. -/
def AllMeet (contract : Prog.Contract Op Res Note)
    (post : Id → Note → Except Err A → Prop)
    (pool : Pool Id Op Res Err A State Note) : Prop :=
  ∀ id, (pool.threads id).Meets contract (post id) (pool.notes id)

theorem AllMeet.step {post : Id → Note → Except Err A → Prop}
    (hmeet : pool.AllMeet contract post) (turn : Id × Choice) :
    (pool.step respond contract turn).AllMeet contract post := by
  cases hthread : pool.threads turn.1 with
  | done result =>
      rw [step_of_done hthread]
      exact hmeet
  | perform op next =>
      rw [step_of_perform hthread]
      intro id
      by_cases hid : id = turn.1
      · have hmover := hmeet turn.1
        rw [hthread] at hmover
        subst hid
        simpa only [Function.update_self] using hmover.2 _
      · simpa only [Function.update_of_ne hid] using hmeet id

omit [DecidableEq Id] in
/-- The operation a thread is about to perform is allowed. -/
theorem AllMeet.allowed {post : Id → Note → Except Err A → Prop}
    (hmeet : pool.AllMeet contract post) {id : Id}
    (hthread : pool.threads id = .perform op next) :
    contract.allowed (pool.notes id) op := by
  have hmover := hmeet id
  rw [hthread] at hmover
  exact hmover.1

omit [DecidableEq Id] in
/-- A thread that has ended satisfies its postcondition. -/
theorem AllMeet.post {post : Id → Note → Except Err A → Prop}
    {pool : Pool Id Op Res Err A State Note}
    (hmeet : pool.AllMeet contract post) {id : Id}
    (hthread : pool.threads id = .done result) :
    post id (pool.notes id) result := by
  have hended := hmeet id
  rw [hthread] at hended
  exact hended

/-- The condition holds at every turn of the schedule, in the pool in which
the turn is taken. -/
def Admissible (respond : Choice → (op : Op) → State → Res op × State)
    (contract : Prog.Contract Op Res Note)
    (condition : Pool Id Op Res Err A State Note → Id × Choice → Prop) :
    List (Id × Choice) → Pool Id Op Res Err A State Note → Prop
  | [], _ => True
  | turn :: schedule, pool =>
      condition pool turn ∧
        Admissible respond contract condition schedule
          (pool.step respond contract turn)

instance decidableAdmissible
    {condition : Pool Id Op Res Err A State Note → Id × Choice → Prop}
    [∀ pool turn, Decidable (condition pool turn)] :
    (schedule : List (Id × Choice)) →
      (pool : Pool Id Op Res Err A State Note) →
        Decidable (Admissible respond contract condition schedule pool)
  | [], _ => isTrue trivial
  | turn :: schedule, pool =>
      have : Decidable (Admissible respond contract condition schedule
          (pool.step respond contract turn)) :=
        decidableAdmissible schedule _
      inferInstanceAs (Decidable (condition pool turn ∧ _))

variable {condition : Pool Id Op Res Err A State Note → Id × Choice → Prop}
  {schedule : List (Id × Choice)}

theorem admissible_iff_throughout :
    Admissible respond contract condition schedule pool ↔
      Runs.Throughout (step respond contract) condition schedule pool := by
  induction schedule generalizing pool with
  | nil => exact Iff.rfl
  | cons turn schedule ih => exact and_congr_right fun _ => ih

theorem admissible_append {first second : List (Id × Choice)} :
    Admissible respond contract condition (first ++ second) pool ↔
      Admissible respond contract condition first pool ∧
        Admissible respond contract condition second
          (pool.run respond contract first) := by
  simp only [admissible_iff_throughout]
  exact Runs.throughout_append

@[simp]
theorem admissible_true :
    Admissible respond contract (fun _ _ => True) schedule pool :=
  admissible_iff_throughout.mpr
    (Runs.throughout_of_forall (fun _ _ => trivial) _ _)

variable (Invariant : Pool Id Op Res Err A State Note → Prop)

/-- An invariant kept by every admissible turn holds after every admissible
schedule. -/
theorem run_invariant
    (hstep : ∀ pool turn, Invariant pool → condition pool turn →
      Invariant (pool.step respond contract turn)) (hinitial : Invariant pool)
    (hadmissible : Admissible respond contract condition schedule pool) :
    Invariant (pool.run respond contract schedule) :=
  Runs.foldl_invariant hstep hinitial
    (admissible_iff_throughout.mp hadmissible)

/-- Conditions that agree wherever an invariant holds admit the same
schedules, if the first one keeps the invariant. -/
theorem admissible_iff_of_invariant
    {first second : Pool Id Op Res Err A State Note → Id × Choice → Prop}
    (hiff : ∀ pool turn, Invariant pool →
      (first pool turn ↔ second pool turn))
    (hstep : ∀ pool turn, Invariant pool → first pool turn →
      Invariant (pool.step respond contract turn)) (hinitial : Invariant pool) :
    Admissible respond contract first schedule pool ↔
      Admissible respond contract second schedule pool := by
  rw [admissible_iff_throughout, admissible_iff_throughout]
  exact Runs.throughout_congr (fun pool turn hpool _ => hiff pool turn hpool)
    hstep hinitial (Runs.throughout_of_forall (fun _ _ => trivial) _ _)

section Stays

variable {Value : Type} (value : Pool Id Op Res Err A State Note → Value)
  (Final : Value → Prop)

/-- Once the value is final, the rest of the schedule leaves it. -/
def Stays (respond : Choice → (op : Op) → State → Res op × State)
    (contract : Prog.Contract Op Res Note) (schedule : List (Id × Choice))
    (pool : Pool Id Op Res Err A State Note) : Prop :=
  ∀ first middle rest, schedule = first ++ middle ++ rest →
    Final (value (pool.run respond contract first)) →
      value (pool.run respond contract (first ++ middle)) =
        value (pool.run respond contract first)

theorem Stays.tail {turn : Id × Choice}
    (hstays : Stays value Final respond contract (turn :: schedule) pool) :
    Stays value Final respond contract schedule
      (pool.step respond contract turn) := by
  intro first middle rest hschedule
  apply hstays (turn :: first) middle rest
  rw [hschedule]
  rfl

/-- A final value stays exactly if every turn leaves it. -/
theorem stays_iff :
    Stays value Final respond contract schedule pool ↔
      Admissible respond contract (fun before turn => Final (value before) →
        value (before.step respond contract turn) = value before)
        schedule pool := by
  induction schedule generalizing pool with
  | nil =>
      refine iff_of_true ?_ trivial
      intro first middle rest hschedule _
      simp only [List.append_assoc, List.nil_eq, List.append_eq_nil_iff]
        at hschedule
      rw [hschedule.1, hschedule.2.1, List.append_nil]
  | cons turn schedule ih =>
      constructor
      · intro hstays
        exact ⟨hstays [] [turn] schedule rfl, ih.mp hstays.tail⟩
      · rintro ⟨hturn, hrest⟩ first middle rest hschedule hfinal
        cases first with
        | cons other first =>
            obtain ⟨rfl, htail⟩ := List.cons.inj hschedule
            exact ih.mpr hrest first middle rest htail hfinal
        | nil =>
            cases middle with
            | nil => rfl
            | cons other middle =>
                obtain ⟨rfl, htail⟩ := List.cons.inj hschedule
                have hkept := hturn hfinal
                refine (ih.mpr hrest [] middle rest htail ?_).trans hkept
                exact hkept.symm ▸ hfinal

end Stays

theorem AllMeet.run {post : Id → Note → Except Err A → Prop}
    (hmeet : pool.AllMeet contract post) (schedule : List (Id × Choice)) :
    (pool.run respond contract schedule).AllMeet contract post :=
  run_invariant (fun pool => pool.AllMeet contract post)
    (fun _ turn hpool _ => hpool.step turn) hmeet admissible_true

end Pool

end UssdKernel.Interleaving
