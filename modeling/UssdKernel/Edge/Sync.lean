import UssdKernel.Core.Runs

/-!
# The log of an edge node

A cycle of `edge-sync.py` reads the events of the log that are not synced, sends
them in one batch, and if that succeeds reads the log again and rewrites it with
the events of the batch marked.  The gateway may append a line between any two
of these operations.  Lines are marked by their `event_id`, and without the
protobuf stubs a batch counts as sent.

Each line has the number with which it was appended.  In every run no line is
lost and none is marked without an accepted batch, exactly if every rewriting
finds no line that the second read has missed, and the second read found no line
with an id of the batch that was not in an accepted one.
-/

namespace UssdKernel.EdgeSync

open Runs

/-- The member `synced` of an event: missing or false, true, or another value
that counts as true. -/
inductive Synced
  | falsy
  | yes
  | truthy
  deriving DecidableEq

/-- An event of the log; `eventId` is `event.get("event_id")`. -/
structure Event (Id Body : Type) where
  eventId : Option Id
  synced : Synced
  body : Body
  deriving DecidableEq

/-- What `json.loads` makes of a stripped line: `malformed` is no JSON, `other`
is no object, so that `event.get` raises. -/
inductive Line (Id Body : Type)
  | blank
  | malformed (text : String)
  | other (text : String)
  | event (event : Event Id Body)
  deriving DecidableEq

/-- A line of the file, with the number with which it was appended. -/
structure Entry (Id Body : Type) where
  number : ℕ
  line : Line Id Body
  deriving DecidableEq

/-- The events of a batch, each with the number of its line. -/
abbrev Batch (Id Body : Type) := List (ℕ × Event Id Body)

/-- What becomes of a batch: `noStubs` is the log-only mode, `raised` an error
while the request is built; a batch whose reply is lost may have been
accepted. -/
inductive Reply
  | noStubs
  | raised
  | accepted
  | rejected
  | lost (accepted : Bool)

/-- Where a cycle stands: each phase is left by one operation. -/
inductive Phase (Id Body : Type)
  | idle
  | reading
  | sending (batch : Batch Id Body)
  | marking (batch : Batch Id Body)
  | rereading (batch : Batch Id Body)
  | rewriting (batch : Batch Id Body) (read : List (Entry Id Body))

/-- The file, which is missing before the first line, with all lines that were
ever appended and the numbers of the events in accepted batches. -/
structure State (Id Body : Type) where
  file : Option (List (Entry Id Body))
  appended : List (Line Id Body)
  accepted : List ℕ
  phase : Phase Id Body

inductive Turn (Id Body : Type)
  | append (line : Line Id Body)
  | sync (reply : Reply)

variable {Id Body : Type}

def State.log (state : State Id Body) : List (Entry Id Body) :=
  state.file.getD []

def State.start : State Id Body :=
  ⟨none, [], [], .idle⟩

def Line.raises : Line Id Body → Bool
  | .other _ => true
  | _ => false

def Entry.unsynced (entry : Entry Id Body) : Option (ℕ × Event Id Body) :=
  match entry.line with
  | .event event =>
      if event.synced = .falsy then some (entry.number, event) else none
  | _ => none

/-- `_read_unsynced_events`, on a file that exists. -/
def readUnsyncedEvents (entries : List (Entry Id Body)) :
    Option (Batch Id Body) :=
  if entries.any fun entry => entry.line.raises then none
  else some (entries.filterMap Entry.unsynced)

def syncedIds (batch : Batch Id Body) : List (Option Id) :=
  batch.map fun event => event.2.eventId

section Cycle

variable [DecidableEq Id]

/-- The line that `_mark_synced` writes for a line; blank lines are dropped. -/
def markLine (ids : List (Option Id)) : Line Id Body → Option (Line Id Body)
  | .blank => none
  | .event event =>
      some (.event
        (if event.eventId ∈ ids then { event with synced := .yes } else event))
  | line => some line

def markedEntries (ids : List (Option Id)) (entries : List (Entry Id Body)) :
    List (Entry Id Body) :=
  entries.filterMap fun entry =>
    (markLine ids entry.line).map (Entry.mk entry.number)

/-- The operation with which a cycle leaves its phase.  The rewriting is one
operation: a line that is appended between the truncation and the writes is
overwritten, as if it came before. -/
def State.sync (state : State Id Body) (reply : Reply) : State Id Body :=
  match state.phase with
  | .idle =>
      { state with phase := if state.file.isSome then .reading else .idle }
  | .reading =>
      match readUnsyncedEvents state.log with
      | none => { state with phase := .idle }
      | some [] => { state with phase := .idle }
      | some (event :: events) =>
          { state with phase := .sending (event :: events) }
  | .sending batch =>
      match reply with
      | .noStubs => { state with phase := .marking batch }
      | .accepted =>
          { state with
            phase := .marking batch
            accepted := state.accepted ++ batch.map Prod.fst }
      | .lost true =>
          { state with
            phase := .idle
            accepted := state.accepted ++ batch.map Prod.fst }
      | _ => { state with phase := .idle }
  | .marking batch =>
      { state with
        phase := if state.file.isSome then .rereading batch else .idle }
  | .rereading batch =>
      { state with
        phase :=
          if state.log.any fun entry => entry.line.raises then .idle
          else .rewriting batch state.log }
  | .rewriting batch read =>
      { state with
        phase := .idle
        file := some (markedEntries (syncedIds batch) read) }

def step (state : State Id Body) : Turn Id Body → State Id Body
  | .append line =>
      { state with
        file := some (state.log ++ [⟨state.appended.length, line⟩])
        appended := state.appended ++ [line] }
  | .sync reply => state.sync reply

end Cycle

/-! ## Safety -/

/-- The line carries `synced = true`. -/
def Line.isSynced : Line Id Body → Bool
  | .event value => value.synced = .yes
  | _ => false

/-- If the line carries `synced = true`, its event was in an accepted batch; a
line that was appended with it is left out. -/
def Earned (state : State Id Body) (entry : Entry Id Body) : Prop :=
  entry.line.isSynced →
    (∃ line ∈ state.appended[entry.number]?, line.isSynced) ∨
      entry.number ∈ state.accepted

/-- No line that carries something has disappeared, and none carries
`synced = true` without an accepted batch. -/
structure Safe (state : State Id Body) : Prop where
  kept : ∀ number, ∀ line ∈ state.appended[number]?, line ≠ .blank →
    number ∈ state.log.map Entry.number
  marked : ∀ entry ∈ state.log, Earned state entry

/-- When the file is rewritten, the second read has missed no line, and the
lines it found with an id of the batch were in an accepted batch or carried
`synced = true` already. -/
def Settled (state : State Id Body) : Turn Id Body → Prop
  | .append _ => True
  | .sync _ =>
      match state.phase with
      | .rewriting batch read =>
          (∀ entry ∈ state.log, entry.line ≠ .blank →
            entry.number ∈ read.map Entry.number) ∧
            ∀ entry ∈ read, ∀ event, entry.line = .event event →
              event.eventId ∈ syncedIds batch →
                event.synced = .yes ∨ entry.number ∈ state.accepted
      | _ => True

/-! ## Lines and what they were appended as -/

/-- The entry is the line that was appended with its number, or that line
marked. -/
def Stems (appended : List (Line Id Body)) (entry : Entry Id Body) : Prop :=
  ∃ line ∈ appended[entry.number]?, entry.line = line ∨
    ∃ event, line = .event event ∧
      entry.line = .event { event with synced := .yes }

section Stems

variable {appended : List (Line Id Body)} {entry : Entry Id Body}

section Stemming

variable (hstems : Stems appended entry) {line : Line Id Body}
include hstems

theorem Stems.lt :
    entry.number < appended.length := by
  obtain ⟨line, hline, -⟩ := hstems
  exact (List.getElem?_eq_some_iff.mp hline).1

theorem Stems.append (more : List (Line Id Body)) :
    Stems (appended ++ more) entry := by
  have hlt := hstems.lt
  obtain ⟨line, hline, hcases⟩ := hstems
  exact ⟨line, List.getElem?_append_left hlt ▸ hline, hcases⟩

theorem Stems.ne_blank (hline : line ∈ appended[entry.number]?) :
    entry.line ≠ .blank ↔ line ≠ .blank := by
  obtain ⟨original, horiginal, hcases⟩ := hstems
  obtain rfl : original = line := Option.mem_unique horiginal hline
  rcases hcases with hsame | ⟨event, rfl, hmarked⟩
  · rw [hsame]
  · rw [hmarked]
    exact iff_of_true (by simp) (by simp)

theorem Stems.isSynced (hline : line ∈ appended[entry.number]?)
    (hsynced : line.isSynced = true) :
    entry.line.isSynced = true := by
  obtain ⟨original, horiginal, hcases⟩ := hstems
  obtain rfl : original = line := Option.mem_unique horiginal hline
  rcases hcases with hsame | ⟨event, rfl, hmarked⟩
  · rw [hsame, hsynced]
  · rw [hmarked]
    rfl

theorem stems_of_unsynced {event : ℕ × Event Id Body}
    (hunsynced : entry.unsynced = some event) :
    Stems appended ⟨event.1, .event event.2⟩ := by
  cases hline : entry.line with
  | event found =>
      rw [Entry.unsynced, hline] at hunsynced
      dsimp only at hunsynced
      split at hunsynced
      · cases hunsynced
        rw [← hline]
        exact hstems
      · cases hunsynced
  | _ =>
      rw [Entry.unsynced, hline] at hunsynced
      cases hunsynced

theorem Stems.markLine [DecidableEq Id] {ids : List (Option Id)}
    (hline : markLine ids entry.line = some line) :
    Stems appended ⟨entry.number, line⟩ := by
  obtain ⟨original, horiginal, hcases⟩ := hstems
  refine ⟨original, horiginal, ?_⟩
  cases hentry : entry.line with
  | blank =>
      rw [hentry] at hline
      cases hline
  | malformed text | other text =>
      rw [hentry] at hline hcases
      cases hline
      exact hcases
  | event event =>
      rw [hentry] at hline hcases
      cases hline
      by_cases hid : event.eventId ∈ ids
      · rw [if_pos hid]
        rcases hcases with rfl | ⟨source, rfl, hmarked⟩
        · exact Or.inr ⟨event, rfl, rfl⟩
        · cases hmarked
          exact Or.inr ⟨source, rfl, rfl⟩
      · rw [if_neg hid]
        exact hcases

end Stemming

end Stems

/-! ## Steps -/

/-- The events that a cycle has read. -/
def Phase.batch : Phase Id Body → Batch Id Body
  | .sending batch => batch
  | .marking batch => batch
  | .rereading batch => batch
  | .rewriting batch _ => batch
  | _ => []

/-- The lines that the second read has found. -/
def Phase.read : Phase Id Body → List (Entry Id Body)
  | .rewriting _ read => read
  | _ => []

/-- The lines of the log and those that a cycle holds stem from appended
lines. -/
structure Sourced (state : State Id Body) : Prop where
  log : ∀ entry ∈ state.log, Stems state.appended entry
  batch : ∀ event ∈ state.phase.batch,
    Stems state.appended ⟨event.1, .event event.2⟩
  read : ∀ entry ∈ state.phase.read, Stems state.appended entry

structure Invariant (state : State Id Body) : Prop extends Sourced state where
  held : ∀ entry ∈ state.phase.read, Earned state entry
  safe : Safe state

section Steps

variable {state : State Id Body} {ids : List (Option Id)}
  {read : List (Entry Id Body)} {after : State Id Body}

theorem Earned.mono {entry : Entry Id Body} (hearned : Earned state entry)
    {more : List (Line Id Body)}
    (happended : after.appended = state.appended ++ more)
    (haccepted : state.accepted ⊆ after.accepted) : Earned after entry := by
  intro hsynced
  rcases hearned hsynced with ⟨line, hline, hline_synced⟩ | hmem
  · refine Or.inl ⟨line, ?_, hline_synced⟩
    rw [happended, List.getElem?_append_left
      (List.getElem?_eq_some_iff.mp hline).1]
    exact hline
  · exact Or.inr (haccepted hmem)

theorem Safe.of_log_eq (hsafe : Safe state) (hlog : after.log = state.log)
    (happended : after.appended = state.appended)
    (haccepted : state.accepted ⊆ after.accepted) : Safe after where
  kept := by
    rw [hlog, happended]
    exact hsafe.kept
  marked := by
    intro entry hentry
    exact (hsafe.marked entry (hlog ▸ hentry)).mono
      (happended.trans (List.append_nil _).symm) haccepted

variable [DecidableEq Id]

theorem mem_markedEntries {marked : Entry Id Body} :
    marked ∈ markedEntries ids read ↔
      ∃ entry ∈ read, ∃ line, markLine ids entry.line = some line ∧
        ⟨entry.number, line⟩ = marked := by
  rw [markedEntries, List.mem_filterMap]
  simp only [Option.map_eq_some_iff]

theorem mem_numbers_markedEntries {number : ℕ} :
    number ∈ (markedEntries ids read).map Entry.number ↔
      ∃ entry ∈ read, entry.number = number ∧ entry.line ≠ .blank := by
  have hwritten : ∀ line : Line Id Body,
      (∃ marked, markLine ids line = some marked) ↔ line ≠ .blank := by
    intro line
    cases line <;> simp [markLine]
  rw [List.mem_map]
  constructor
  · rintro ⟨marked, hmarked, rfl⟩
    obtain ⟨entry, hentry, line, hline, rfl⟩ := mem_markedEntries.mp hmarked
    exact ⟨entry, hentry, rfl, (hwritten entry.line).mp ⟨line, hline⟩⟩
  · rintro ⟨entry, hentry, rfl, hblank⟩
    obtain ⟨line, hline⟩ := (hwritten entry.line).mpr hblank
    exact ⟨⟨entry.number, line⟩,
      mem_markedEntries.mpr ⟨entry, hentry, line, hline, rfl⟩, rfl⟩

/-- The file is rewritten from the lines that were read.  Every other operation
of a cycle leaves it, and what a cycle holds comes from the log. -/
theorem sync_cases (state : State Id Body) (reply : Reply) :
    (∃ batch read, state.phase = .rewriting batch read ∧
      state.sync reply =
        { state with
          phase := .idle
          file := some (markedEntries (syncedIds batch) read) }) ∨
    (∀ batch read, state.phase ≠ .rewriting batch read) ∧
      (state.sync reply).file = state.file ∧
      (state.sync reply).appended = state.appended ∧
      state.accepted ⊆ (state.sync reply).accepted ∧
      (state.sync reply).phase.batch ⊆
        state.phase.batch ++ state.log.filterMap Entry.unsynced ∧
      (state.sync reply).phase.read ⊆ state.log := by
  by_cases hphase : ∃ batch read, state.phase = .rewriting batch read
  · obtain ⟨batch, read, hphase⟩ := hphase
    exact .inl ⟨batch, read, hphase, by rw [State.sync, hphase]⟩
  simp only [not_exists] at hphase
  refine .inr ⟨hphase, ?_⟩
  cases hstate : state.phase with
  | idle =>
      simp only [State.sync, hstate]
      split <;> simp [Phase.batch, Phase.read]
  | reading =>
      rw [State.sync, hstate]
      cases hread : readUnsyncedEvents state.log with
      | none => simp [Phase.batch, Phase.read]
      | some events =>
          have hevents : events = state.log.filterMap Entry.unsynced := by
            rw [readUnsyncedEvents] at hread
            split at hread
            · cases hread
            · exact (Option.some.inj hread).symm
          cases events with
          | nil => simp [Phase.batch, Phase.read]
          | cons event events => simp [Phase.batch, Phase.read, hevents]
  | sending batch =>
      rw [State.sync, hstate]
      cases reply with
      | lost accepted => cases accepted <;> simp [Phase.batch, Phase.read]
      | _ => simp [Phase.batch, Phase.read]
  | marking batch | rereading batch =>
      simp only [State.sync, hstate]
      split <;> simp [Phase.batch, Phase.read]
  | rewriting batch read => exact absurd hstate (hphase batch read)

theorem log_append (line : Line Id Body) :
    (step state (.append line)).log =
      state.log ++ [⟨state.appended.length, line⟩] := rfl

theorem Sourced.append (hstate : Sourced state) (line : Line Id Body) :
    Sourced (step state (.append line)) where
  log := by
    intro entry hentry
    rw [log_append, List.mem_append, List.mem_singleton] at hentry
    rcases hentry with hold | rfl
    · exact (hstate.log entry hold).append [line]
    · exact ⟨line, List.getElem?_concat_length, Or.inl rfl⟩
  batch event hevent := (hstate.batch event hevent).append [line]
  read entry hentry := (hstate.read entry hentry).append [line]

theorem Sourced.sync (hstate : Sourced state) (reply : Reply) :
    Sourced (state.sync reply) := by
  rcases sync_cases state reply with ⟨batch, read, hphase, hsync⟩ |
    ⟨-, hfile, happended, -, hbatch, hread⟩
  · have hread := hstate.read
    rw [hphase] at hread
    rw [hsync]
    refine ⟨?_, by simp [Phase.batch], by simp [Phase.read]⟩
    intro marked hmarked
    obtain ⟨entry, hentry, line, hline, rfl⟩ := mem_markedEntries.mp hmarked
    exact (hread entry hentry).markLine hline
  · constructor
    · rw [State.log, hfile, happended]
      exact hstate.log
    · intro event hevent
      rw [happended]
      rcases List.mem_append.mp (hbatch hevent) with hheld | hlog
      · exact hstate.batch event hheld
      · obtain ⟨entry, hentry, hunsynced⟩ := List.mem_filterMap.mp hlog
        exact stems_of_unsynced (hstate.log entry hentry) hunsynced
    · intro entry hentry
      rw [happended]
      exact hstate.log entry (hread hentry)

theorem Sourced.step (hstate : Sourced state) (turn : Turn Id Body) :
    Sourced (step state turn) := by
  cases turn with
  | append line => exact hstate.append line
  | sync reply => exact hstate.sync reply

theorem Invariant.append (hstate : Invariant state) (line : Line Id Body) :
    Invariant (EdgeSync.step state (.append line)) := by
  have hearned : ∀ entry, Earned state entry →
      Earned (EdgeSync.step state (.append line)) entry :=
    fun entry hentry => hentry.mono rfl (List.Subset.refl _)
  refine ⟨hstate.toSourced.append line,
    fun entry hentry => hearned entry (hstate.held entry hentry), ?_, ?_⟩
  · intro number other hother hblank
    rw [log_append, List.map_append, List.mem_append]
    by_cases hnumber : number < state.appended.length
    · rw [EdgeSync.step, List.getElem?_append_left hnumber] at hother
      exact Or.inl (hstate.safe.kept number other hother hblank)
    · have hlast := (List.getElem?_eq_some_iff.mp hother).1
      rw [EdgeSync.step, List.length_append, List.length_singleton] at hlast
      have hsame : number = state.appended.length := by omega
      exact Or.inr (List.mem_singleton.mpr hsame)
  · intro entry hentry
    rw [log_append, List.mem_append, List.mem_singleton] at hentry
    rcases hentry with hold | rfl
    · exact hearned entry (hstate.safe.marked entry hold)
    · exact fun hsynced =>
        Or.inl ⟨line, List.getElem?_concat_length, hsynced⟩

/-- The rewriting keeps every line exactly if the second read has found every
line that carries something. -/
theorem kept_markedEntries_iff (hstate : Invariant state)
    (hread : ∀ entry ∈ read, Stems state.appended entry) :
    (∀ number, ∀ line ∈ state.appended[number]?, line ≠ .blank →
        number ∈ (markedEntries ids read).map Entry.number) ↔
      ∀ entry ∈ state.log, entry.line ≠ .blank →
        entry.number ∈ read.map Entry.number := by
  constructor
  · intro hkept entry hentry hblank
    have hstems := hstate.log entry hentry
    obtain ⟨line, hline, -⟩ := id hstems
    have hnumber := hkept entry.number line hline
      ((hstems.ne_blank hline).mp hblank)
    obtain ⟨found, hfound, hsame, -⟩ := mem_numbers_markedEntries.mp hnumber
    exact List.mem_map.mpr ⟨found, hfound, hsame⟩
  · intro hfound number line hline hblank
    obtain ⟨entry, hentry, rfl⟩ := List.mem_map.mp
      (hstate.safe.kept number line hline hblank)
    obtain ⟨found, hmem, hsame⟩ := List.mem_map.mp (hfound entry hentry
      (((hstate.log entry hentry).ne_blank hline).mpr hblank))
    rw [← hsame] at hline
    exact mem_numbers_markedEntries.mpr ⟨found, hmem, hsame,
      ((hread found hmem).ne_blank hline).mpr hblank⟩

/-- The rewriting marks only events of accepted batches exactly if the lines
with an id of the batch are such events or marked already. -/
theorem marked_markedEntries_iff
    (hread : ∀ entry ∈ read, Stems state.appended entry)
    (hheld : ∀ entry ∈ read, Earned state entry) :
    (∀ marked ∈ markedEntries ids read, Earned state marked) ↔
      ∀ entry ∈ read, ∀ event, entry.line = .event event →
        event.eventId ∈ ids →
          event.synced = .yes ∨ entry.number ∈ state.accepted := by
  constructor
  · intro hmarked entry hentry event hline hid
    have hwritten : markLine ids entry.line =
        some (.event { event with synced := .yes }) := by
      rw [hline, markLine, if_pos hid]
    have hearned := hmarked _ (mem_markedEntries.mpr
      ⟨entry, hentry, _, hwritten, rfl⟩) rfl
    rcases hearned with ⟨line, horiginal, hsynced⟩ | haccepted
    · have hcarries := (hread entry hentry).isSynced horiginal hsynced
      rw [hline] at hcarries
      exact Or.inl (of_decide_eq_true hcarries)
    · exact Or.inr haccepted
  · intro hids marked hmarked hsynced
    obtain ⟨entry, hentry, line, hline, rfl⟩ := mem_markedEntries.mp hmarked
    have hearned := hheld entry hentry
    cases hcarried : entry.line with
    | blank =>
        rw [hcarried] at hline
        cases hline
    | malformed text | other text =>
        rw [hcarried] at hline
        cases hline
        cases hsynced
    | event event =>
        rw [hcarried] at hline
        cases hline
        by_cases hid : event.eventId ∈ ids
        · rcases hids entry hentry event hcarried hid with hyes | haccepted
          · exact hearned (by rw [hcarried]; exact decide_eq_true hyes)
          · exact Or.inr haccepted
        · rw [if_neg hid] at hsynced
          exact hearned (by rw [hcarried]; exact hsynced)

theorem safe_step_iff (hstate : Invariant state) (turn : Turn Id Body) :
    Safe (step state turn) ↔ Settled state turn := by
  cases turn with
  | append line => exact iff_of_true (hstate.append line).safe trivial
  | sync reply =>
      rcases sync_cases state reply with ⟨batch, read, hphase, hsync⟩ |
        ⟨hother, hfile, happended, haccepted, -, -⟩
      · have hstems := hstate.read
        have hheld := hstate.held
        rw [hphase, Phase.read] at hstems hheld
        rw [step, hsync]
        simp only [Settled, hphase]
        rw [← kept_markedEntries_iff hstate hstems,
          ← marked_markedEntries_iff hstems hheld]
        exact ⟨fun hsafe => ⟨hsafe.kept, hsafe.marked⟩,
          fun hsafe => ⟨hsafe.1, hsafe.2⟩⟩
      · refine iff_of_true (hstate.safe.of_log_eq ?_ happended haccepted) ?_
        · exact congrArg (fun file : Option _ => file.getD []) hfile
        · rw [Settled]
          split
          · rename_i batch read hrewriting
            exact absurd hrewriting (hother batch read)
          · trivial

theorem invariant_step (hstate : Invariant state) {turn : Turn Id Body}
    (hsafe : Safe (step state turn)) : Invariant (step state turn) := by
  refine ⟨hstate.toSourced.step turn, ?_, hsafe⟩
  cases turn with
  | append line => exact (hstate.append line).held
  | sync reply =>
      rcases sync_cases state reply with ⟨batch, read, -, hsync⟩ |
        ⟨-, hfile, -, -, -, hread⟩
      · rw [step, hsync]
        exact fun entry hentry => absurd hentry List.not_mem_nil
      · intro entry hentry
        apply hsafe.marked
        rw [step, State.log, hfile]
        exact hread hentry

end Steps

/-! ## Runs -/

theorem invariant_start : Invariant (State.start : State Id Body) where
  log := by simp [State.start, State.log]
  batch := by simp [State.start, Phase.batch]
  read := by simp [State.start, Phase.read]
  held := by simp [State.start, Phase.read]
  safe := ⟨by simp [State.start], by simp [State.start, State.log]⟩

/-- In every run no line disappears and none is marked without an accepted
batch, exactly if every rewriting finds its lines settled. -/
theorem log_safe_iff [DecidableEq Id] (turns : List (Turn Id Body)) :
    Throughout step (fun state turn => Safe (step state turn)) turns
        State.start ↔
      Throughout step Settled turns (State.start : State Id Body) :=
  throughout_congr (fun _ turn hstate _ => safe_step_iff hstate turn)
    (fun _ _ hstate hsafe => invariant_step hstate hsafe) invariant_start
    (throughout_of_forall (fun _ _ => trivial) turns State.start)

namespace Sample

def line (eventId : Option String) (synced : Synced) : Line String String :=
  .event { eventId, synced, body := "SessionEnded" }

/-- A cycle whose batch has this outcome, with lines that the gateway appends
before the second read and before the rewriting. -/
def cycle (reply : Reply) (before late : List (Line String String)) :
    List (Turn String String) :=
  List.replicate 4 (Turn.sync reply) ++ before.map Turn.append ++
    Turn.sync reply :: late.map Turn.append ++ [Turn.sync reply]

def stateAfter (turns : List (Turn String String)) : State String String :=
  turns.foldl step State.start

/-- The second line is appended after the second read. -/
def lateAppend : State String String :=
  stateAfter (.append (line "e1" .falsy) ::
    cycle .accepted [] [line "e2" .falsy])

def withoutStubs : State String String :=
  stateAfter (.append (line "e1" .falsy) :: cycle .noStubs [] [])

/-- Two lines without id, the second appended when the batch has been read. -/
def withoutIds : State String String :=
  stateAfter (.append (line none .falsy) ::
    cycle .accepted [line none .falsy] [])

/-- The late line is gone; without stubs a line is marked though nothing was
sent; of two lines without id the one outside the batch is marked too. -/
theorem log_unsafe :
    (lateAppend.log.map Entry.number = [0] ∧ ¬ Safe lateAppend) ∧
      (withoutStubs.accepted = [] ∧ ¬ Safe withoutStubs) ∧
      withoutIds.accepted = [0] ∧ ¬ Safe withoutIds := by
  have hunsent : ⟨0, line "e1" .yes⟩ ∈ withoutStubs.log ∧
      ⟨1, line none .yes⟩ ∈ withoutIds.log := by
    decide +kernel
  refine ⟨⟨by decide +kernel, fun hsafe => ?_⟩, ⟨by decide +kernel,
    fun hsafe => ?_⟩, by decide +kernel, fun hsafe => ?_⟩
  · have hkept := hsafe.kept 1 (line "e2" .falsy) (by decide +kernel)
      (by decide)
    revert hkept
    decide +kernel
  · have hearned := hsafe.marked _ hunsent.1 rfl
    revert hearned
    decide +kernel
  · have hearned := hsafe.marked _ hunsent.2 rfl
    revert hearned
    decide +kernel

end Sample

end UssdKernel.EdgeSync
