import UssdKernel.Core.HashChain
import UssdKernel.Core.HashTables
import UssdKernel.Core.Text
import UssdKernel.SessionReconstructor.Sessions

/-!
# Integrity of a session's events

`verify_integrity` walks the events of a session in version order, recomputes
every record hash from the previous hash, the type, the payload and the time,
and compares it with the stored one.  The texts of payloads and times come
from libraries and are parameters.

The four pieces of a hashed text are not separated, and the previous hash of
the first event is not compared with anything.  Two accepted sequences with one
final hash therefore agree exactly if they have the same number of events and
their texts are cut at the same places.  A rejection names the first version
that breaks the chain.
-/

namespace UssdKernel.SessionReconstructor

structure IntegrityResult where
  isValid : Bool
  computedHash : Bytes
  eventCount : ℕ
  brokenAtVersion : Option ℤ
  deriving DecidableEq

variable {Value : Type}

section Verify

variable (sha256 : Bytes → Bytes) (toJson : Value → Bytes)
  (toRfc3339 : Time → Bytes)

section Hashing

variable (previousHash : Bytes) (eventType : String) (payload : Value)
  (occurredAt : Time)

/-- The text hashed by `compute_event_hash`. -/
def hashInput : Bytes :=
  previousHash ++ Text.utf8 eventType ++ toJson payload ++ toRfc3339 occurredAt

def computeEventHash : Bytes :=
  Text.hex (sha256
    (hashInput toJson toRfc3339 previousHash eventType payload occurredAt))

end Hashing

/-- The loop over the remaining events; `count` is the number of all events. -/
def verifyLoop (count : ℕ) :
    ℤ → Bytes → List (DbEvent Value) → Except DomainError IntegrityResult
  | _, lastComputedHash, [] =>
      .ok
        { isValid := true
          computedHash := lastComputedHash
          eventCount := count
          brokenAtVersion := none }
  | expectedVersion, lastComputedHash, event :: events =>
      let prev := event.previousHash.getD []
      if event.version ≠ expectedVersion then
        .error (.eventSequenceGap expectedVersion event.version)
      else if expectedVersion > 1 ∧ prev ≠ lastComputedHash then
        .error (.hashMismatch event.version)
      else
        let previousHash :=
          if expectedVersion = 1 then prev else lastComputedHash
        let computed := computeEventHash sha256 toJson toRfc3339 previousHash
          event.eventType event.payload event.occurredAt
        if computed ≠ event.recordHash then
          .ok
            { isValid := false
              computedHash := computed
              eventCount := count
              brokenAtVersion := some event.version }
        else verifyLoop count (expectedVersion + 1) computed events

/-- `verify_integrity` on the fetched events. -/
def verifyIntegrity (events : List (DbEvent Value)) :
    Except DomainError IntegrityResult :=
  if events.isEmpty then .error .sessionNotFound
  else verifyLoop sha256 toJson toRfc3339 events.length 1 [] events

/-- The verification returns a valid result with this hash. -/
def Valid (events : List (DbEvent Value)) (hash : Bytes) : Prop :=
  ∃ result, verifyIntegrity sha256 toJson toRfc3339 events = .ok result ∧
    result.isValid = true ∧ result.computedHash = hash

/-- The text of an event as it is stored. -/
def eventText (event : DbEvent Value) : Bytes :=
  hashInput toJson toRfc3339 (event.previousHash.getD []) event.eventType
    event.payload event.occurredAt

def texts (events : List (DbEvent Value)) : List Bytes :=
  events.map (eventText toJson toRfc3339)

/-- The digest of a text as it is stored. -/
def textHash (text : Bytes) : Bytes :=
  Text.hex (sha256 text)

/-- What the loop checks before it accepts: numbered versions, recomputed
record hashes, and previous hashes from the second version on. -/
def Accepts : ℤ → Bytes → List (DbEvent Value) → Bytes → Prop
  | _, last, [], hash => hash = last
  | expected, last, event :: events, hash =>
      event.version = expected ∧
        (1 < expected → event.previousHash.getD [] = last) ∧
          event.recordHash =
              textHash sha256 (eventText toJson toRfc3339 event) ∧
            Accepts (expected + 1) event.recordHash events hash

/-- The event at an index has the next version, from the second version on the
record hash before it as its previous hash, and the hash of its own text. -/
def FitsAt (expected : ℤ) (last : Bytes) (events : List (DbEvent Value))
    (i : ℕ) : Prop :=
  ∀ event ∈ events[i]?,
    event.version = expected + i ∧
      (1 < expected + i → some (event.previousHash.getD []) =
        (last :: events.map DbEvent.recordHash)[i]?) ∧
        event.recordHash = computeEventHash sha256 toJson toRfc3339
          (event.previousHash.getD []) event.eventType event.payload
          event.occurredAt

/-- The error or the invalid result names the version. -/
def Names (version : ℤ) : Except DomainError IntegrityResult → Prop
  | .error (.eventSequenceGap expected _) => expected = version
  | .error (.hashMismatch found) => found = version
  | .error _ => False
  | .ok result => result.isValid = false ∧ result.brokenAtVersion = some version

/-! ## What a valid result says -/

variable {sha256 toJson toRfc3339}

variable {expected : ℤ} {last : Bytes} {event : DbEvent Value}
  {events : List (DbEvent Value)}

/-- The hash that the loop computes for an event it has not rejected. -/
theorem computeEventHash_eq (hexpected : 1 ≤ expected)
    (hlast : 1 < expected → event.previousHash.getD [] = last) :
    computeEventHash sha256 toJson toRfc3339
        (if expected = 1 then event.previousHash.getD [] else last)
        event.eventType event.payload event.occurredAt =
      textHash sha256 (eventText toJson toRfc3339 event) := by
  by_cases hfirst : expected = 1
  · rw [if_pos hfirst]
    rfl
  · rw [if_neg hfirst, ← hlast (lt_of_le_of_ne hexpected (Ne.symm hfirst))]
    rfl

/-- One turn of the loop, with the text of the event as it is stored. -/
theorem verifyLoop_cons {count : ℕ} (hexpected : 1 ≤ expected) :
    verifyLoop sha256 toJson toRfc3339 count expected last (event :: events) =
      if event.version = expected then
        if 1 < expected → event.previousHash.getD [] = last then
          let computed := textHash sha256 (eventText toJson toRfc3339 event)
          if event.recordHash = computed then
            verifyLoop sha256 toJson toRfc3339 count (expected + 1)
              event.recordHash events
          else .ok ⟨false, computed, count, some event.version⟩
        else .error (.hashMismatch event.version)
      else .error (.eventSequenceGap expected event.version) := by
  rw [verifyLoop, ite_not]
  dsimp only
  congr 1
  by_cases hlast : 1 < expected → event.previousHash.getD [] = last
  · rw [if_neg (by tauto), if_pos hlast, computeEventHash_eq hexpected hlast]
    by_cases hhash : event.recordHash =
        textHash sha256 (eventText toJson toRfc3339 event)
    · rw [if_neg (not_not.mpr hhash.symm), if_pos hhash, hhash]
    · rw [if_pos (Ne.symm hhash), if_neg hhash]
  · rw [if_pos (by tauto), if_neg hlast]

variable {hash : Bytes}

theorem verifyLoop_valid_iff {count : ℕ} (hexpected : 1 ≤ expected) :
    (∃ result, verifyLoop sha256 toJson toRfc3339 count expected last events =
        .ok result ∧ result.isValid = true ∧ result.computedHash = hash) ↔
      Accepts sha256 toJson toRfc3339 expected last events hash := by
  induction events generalizing expected last with
  | nil =>
      constructor
      · rintro ⟨result, hresult, -, rfl⟩
        cases hresult
        rfl
      · rintro rfl
        exact ⟨_, rfl, rfl, rfl⟩
  | cons event events ih =>
      rw [Accepts, verifyLoop_cons hexpected]
      dsimp only
      split_ifs with hversion hlast hhash
      · rw [ih (by omega)]
        simp only [hversion, true_and, and_iff_right hlast, hhash]
      · refine iff_of_false ?_ fun haccepts => hhash haccepts.2.2.1
        rintro ⟨result, hresult, hvalid, -⟩
        cases hresult
        cases hvalid
      · refine iff_of_false ?_ fun haccepts => hlast haccepts.2.1
        rintro ⟨result, hresult, -⟩
        cases hresult
      · refine iff_of_false ?_ fun haccepts => hversion haccepts.1
        rintro ⟨result, hresult, -⟩
        cases hresult

theorem valid_iff :
    Valid sha256 toJson toRfc3339 events hash ↔
      events ≠ [] ∧ Accepts sha256 toJson toRfc3339 1 [] events hash := by
  cases events with
  | nil =>
      refine iff_of_false ?_ (fun hvalid => hvalid.1 rfl)
      rintro ⟨result, hresult, -⟩
      cases hresult
  | cons event events =>
      rw [and_iff_right (List.cons_ne_nil event events)]
      exact verifyLoop_valid_iff le_rfl

theorem fitsAt_cons_zero :
    FitsAt sha256 toJson toRfc3339 expected last (event :: events) 0 ↔
      event.version = expected ∧
        (1 < expected → event.previousHash.getD [] = last) ∧
          event.recordHash =
            textHash sha256 (eventText toJson toRfc3339 event) := by
  simp [FitsAt, textHash, eventText, computeEventHash]

theorem fitsAt_cons_succ {i : ℕ} :
    FitsAt sha256 toJson toRfc3339 expected last (event :: events) (i + 1) ↔
      FitsAt sha256 toJson toRfc3339 (expected + 1) event.recordHash events
        i := by
  rw [FitsAt, FitsAt, Nat.cast_succ, add_comm (i : ℤ), ← add_assoc]
  rfl

theorem accepts_iff_fits :
    Accepts sha256 toJson toRfc3339 expected last events hash ↔
      (∀ i, FitsAt sha256 toJson toRfc3339 expected last events i) ∧
        (events.map DbEvent.recordHash).getLast?.getD last = hash := by
  induction events generalizing expected last with
  | nil => simp [Accepts, FitsAt, eq_comm]
  | cons event events ih =>
      rw [← Nat.and_forall_add_one, fitsAt_cons_zero, Accepts, ih]
      simp only [fitsAt_cons_succ, and_assoc, List.map_cons,
        List.getLast?_cons, Option.getD_some]

/-- The versions of accepted events are consecutive. -/
theorem Accepts.version
    (haccepts : Accepts sha256 toJson toRfc3339 expected last events hash)
    {i : ℕ} (hevent : events[i]? = some event) : event.version = expected + i :=
  ((accepts_iff_fits.mp haccepts).1 i event hevent).1

/-- The accepted hash is that of the last text. -/
theorem Accepts.getLast?_texts
    (haccepts : Accepts sha256 toJson toRfc3339 expected last events hash)
    (hevents : events ≠ []) :
    (texts toJson toRfc3339 events).getLast?.map (textHash sha256) =
      some hash := by
  induction events generalizing expected last with
  | nil => exact absurd rfl hevents
  | cons event events ih =>
      obtain ⟨-, -, hhash, hrest⟩ := haccepts
      cases events with
      | nil =>
          rw [show hash = event.recordHash from hrest, hhash]
          rfl
      | cons second events => exact ih hrest (List.cons_ne_nil _ _)

theorem length_textHash (hdigest : ∀ data, (sha256 data).length = 32)
    (text : Bytes) : (textHash sha256 text).length = 64 := by
  rw [textHash, Text.length_hex, hdigest]

/-- Accepted texts begin with the digests of the texts before them. -/
theorem Accepts.linked (hdigest : ∀ data, (sha256 data).length = 32)
    (hexpected : 1 ≤ expected)
    (haccepts : Accepts sha256 toJson toRfc3339 expected last events hash) :
    HashChain.Linked (textHash sha256) (List.take 64)
      (texts toJson toRfc3339 events) := by
  induction events generalizing expected last with
  | nil => exact .nil
  | cons event events ih =>
      obtain ⟨-, -, hhash, hrest⟩ := haccepts
      have hlinked := ih (by omega) hrest
      cases events with
      | nil => exact .singleton _
      | cons second events =>
          refine .cons_cons ?_ hlinked
          have hprevious : second.previousHash.getD [] =
              textHash sha256 (eventText toJson toRfc3339 event) := by
            rw [hrest.2.1 (by omega), hhash]
          rw [eventText, hashInput, hprevious, List.append_assoc,
            List.append_assoc]
          exact List.take_left' (length_textHash hdigest _)

theorem collision_textHash {inputs : List Bytes} :
    HashChain.Collision (textHash sha256) inputs ↔
      HashChain.Collision sha256 inputs := by
  simp only [HashChain.Collision, textHash, Text.hex_injective.eq_iff]

/-! ## The first version that does not fit -/

theorem names_of_not_fits {count i : ℕ} (hexpected : 1 ≤ expected)
    (hbefore : ∀ j < i, FitsAt sha256 toJson toRfc3339 expected last events j)
    (hnot : ¬ FitsAt sha256 toJson toRfc3339 expected last events i) :
    Names (expected + i)
      (verifyLoop sha256 toJson toRfc3339 count expected last events) := by
  induction events generalizing expected last i with
  | nil => exact absurd (fun _ hevent => by cases hevent) hnot
  | cons event events ih =>
      rw [verifyLoop_cons hexpected]
      dsimp only
      cases i with
      | zero =>
          rw [fitsAt_cons_zero] at hnot
          rw [Nat.cast_zero, add_zero]
          split_ifs with hversion hlast hhash
          · exact absurd ⟨hversion, hlast, hhash⟩ hnot
          · exact ⟨rfl, congrArg some hversion⟩
          · exact hversion
          · rfl
      | succ i =>
          obtain ⟨hversion, hlast, hhash⟩ :=
            fitsAt_cons_zero.mp (hbefore 0 i.succ_pos)
          rw [if_pos hversion, if_pos hlast, if_pos hhash, Nat.cast_succ,
            add_comm (i : ℤ), ← add_assoc]
          apply ih (by omega)
          · intro j hj
            exact fitsAt_cons_succ.mp (hbefore (j + 1) (by omega))
          · rwa [← fitsAt_cons_succ]

/-- Verification is valid with a hash exactly if all events fit and the last
record hash is this one; otherwise it names the first version that does not
fit. -/
theorem verifyIntegrity_result (events : List (DbEvent Value)) :
    (∀ hash, Valid sha256 toJson toRfc3339 events hash ↔
      (∀ i, FitsAt sha256 toJson toRfc3339 1 [] events i) ∧
        (events.map DbEvent.recordHash).getLast? = some hash) ∧
      ∀ i, (∀ j < i, FitsAt sha256 toJson toRfc3339 1 [] events j) →
        ¬ FitsAt sha256 toJson toRfc3339 1 [] events i →
          Names (1 + i) (verifyIntegrity sha256 toJson toRfc3339 events) := by
  constructor
  · intro hash
    rw [valid_iff, accepts_iff_fits]
    cases events with
    | nil => simp
    | cons event events => simp [List.getLast?_cons]
  · intro i hbefore hnot
    cases events with
    | nil => exact absurd (fun _ hevent => by cases hevent) hnot
    | cons event events => exact names_of_not_fits le_rfl hbefore hnot

/-! ## Tampering -/

variable {left right : List (DbEvent Value)}

/-- What an event records about the session. -/
def content (event : DbEvent Value) : String × Value × Time :=
  (event.eventType, event.payload, event.occurredAt)

/-- The same number of events, with the same content at every version. -/
def Agree (left right : List (DbEvent Value)) : Prop :=
  left.length = right.length ∧
    ∀ first ∈ left, ∀ second ∈ right, first.version = second.version →
      content first = content second

/-- Where the text of an event is cut: the lengths of its previous hash, its
type and its payload. -/
def cuts (toJson : Value → Bytes) (event : DbEvent Value) : ℕ × ℕ × ℕ :=
  ((event.previousHash.getD []).length, (Text.utf8 event.eventType).length,
    (toJson event.payload).length)

/-- Events with one text have the same content exactly if the text is cut at
the same places. -/
theorem content_eq_iff_cuts_eq (hjson : Function.Injective toJson)
    (htime : Function.Injective toRfc3339) {first second : DbEvent Value}
    (htext : eventText toJson toRfc3339 first =
      eventText toJson toRfc3339 second) :
    content first = content second ↔ cuts toJson first = cuts toJson second := by
  constructor
  · intro hcontent
    obtain ⟨htype, hpayload, htimes⟩ :
        first.eventType = second.eventType ∧ first.payload = second.payload ∧
          first.occurredAt = second.occurredAt := by
      simpa [content] using hcontent
    have hlength := congrArg List.length htext
    simp only [eventText, hashInput, List.length_append, htype, hpayload,
      htimes] at hlength
    simp only [cuts, htype, hpayload, Prod.mk.injEq, and_true]
    omega
  · intro hcuts
    simp only [cuts, Prod.mk.injEq] at hcuts
    obtain ⟨hprevious, htype, hpayload⟩ := hcuts
    simp only [eventText, hashInput] at htext
    obtain ⟨hpieces, htimes⟩ := List.append_inj htext (by
      simp only [List.length_append, hprevious, htype, hpayload])
    obtain ⟨hpieces, hpayloads⟩ := List.append_inj hpieces (by
      simp only [List.length_append, hprevious, htype])
    obtain ⟨-, htypes⟩ := List.append_inj hpieces hprevious
    rw [content, content, Text.utf8_injective htypes, hjson hpayloads,
      htime htimes]

/-- Numbered sequences agree exactly if their contents do, one by one. -/
theorem agree_iff {leftHash rightHash : Bytes}
    (hleft : Accepts sha256 toJson toRfc3339 1 [] left leftHash)
    (hright : Accepts sha256 toJson toRfc3339 1 [] right rightHash) :
    Agree left right ↔ left.map content = right.map content := by
  constructor
  · rintro ⟨hlength, hagree⟩
    apply List.ext_getElem (by simpa using hlength)
    intro i hi hi'
    rw [List.length_map] at hi hi'
    rw [List.getElem_map, List.getElem_map]
    refine hagree _ (List.getElem_mem hi) _ (List.getElem_mem hi') ?_
    rw [hleft.version (List.getElem?_eq_getElem hi),
      hright.version (List.getElem?_eq_getElem hi')]
  · intro hcontents
    refine ⟨by simpa using congrArg List.length hcontents, ?_⟩
    intro first hfirst second hsecond hversion
    obtain ⟨i, hi⟩ := List.mem_iff_getElem?.mp hfirst
    obtain ⟨j, hj⟩ := List.mem_iff_getElem?.mp hsecond
    obtain rfl : i = j := by
      rw [hleft.version hi, hright.version hj] at hversion
      omega
    have hcontent := congrArg (·[i]?) hcontents
    simpa [hi, hj] using hcontent

/-- Sequences with the same texts agree exactly if the texts are cut at the
same places. -/
theorem map_content_eq_iff (hjson : Function.Injective toJson)
    (htime : Function.Injective toRfc3339)
    (htexts : texts toJson toRfc3339 left = texts toJson toRfc3339 right) :
    left.map content = right.map content ↔
      left.map (cuts toJson) = right.map (cuts toJson) := by
  induction left generalizing right with
  | nil =>
      obtain rfl : right = [] := by simpa [texts] using htexts.symm
      exact iff_of_true rfl rfl
  | cons first left ih =>
      cases right with
      | nil => cases htexts
      | cons second right =>
          obtain ⟨htext, hrest⟩ := List.cons.inj htexts
          rw [List.map_cons, List.map_cons, List.map_cons, List.map_cons,
            List.cons.injEq, List.cons.injEq,
            content_eq_iff_cuts_eq hjson htime htext, ih hrest]

/-- Two sequences accepted with one final hash agree, or two of their texts
collide, exactly if their texts are cut at the same places or two collide. -/
theorem accepted_sequences_agree_iff
    (hdigest : ∀ data, (sha256 data).length = 32)
    (hjson : Function.Injective toJson) (htime : Function.Injective toRfc3339)
    {left right : List (DbEvent Value)} {hash : Bytes}
    (hleft : Valid sha256 toJson toRfc3339 left hash)
    (hright : Valid sha256 toJson toRfc3339 right hash) :
    (Agree left right ∨ HashChain.Collision sha256
        (texts toJson toRfc3339 left ++ texts toJson toRfc3339 right)) ↔
      left.map (cuts toJson) = right.map (cuts toJson) ∨
        HashChain.Collision sha256
          (texts toJson toRfc3339 left ++ texts toJson toRfc3339 right) := by
  obtain ⟨hleftSome, hleft⟩ := valid_iff.mp hleft
  obtain ⟨hrightSome, hright⟩ := valid_iff.mp hright
  have hlast := (hleft.getLast?_texts hleftSome).trans
    (hright.getLast?_texts hrightSome).symm
  rcases HashChain.aligned_or_collision (hleft.linked hdigest le_rfl)
    (hright.linked hdigest le_rfl) hlast with haligned | hcollision
  · rw [agree_iff hleft hright]
    -- aligned sequences of one length have the same texts
    have hsame : left.length = right.length →
        texts toJson toRfc3339 left = texts toJson toRfc3339 right := by
      intro hlength
      apply HashChain.eq_of_aligned haligned
      rw [texts, texts, List.length_map, List.length_map, hlength]
    by_cases hlength : left.length = right.length
    · rw [map_content_eq_iff hjson htime (hsame hlength)]
    · have hcontent : left.map content ≠ right.map content := fun heq =>
        hlength (by simpa using congrArg List.length heq)
      have hcuts : left.map (cuts toJson) ≠ right.map (cuts toJson) := fun heq =>
        hlength (by simpa using congrArg List.length heq)
      simp only [hcontent, hcuts]
  · have hsha := collision_textHash.mp hcollision
    exact iff_of_true (Or.inr hsha) (Or.inr hsha)

end Verify

namespace Samples

/-- 4 October 2024, midnight. -/
def midnight : Time := 1728000000000000000

/-- Agrees with chrono at midnight and a second later, and is injective. -/
def toRfc3339 (time : Time) : Bytes :=
  if time = midnight then Text.utf8 "2024-10-04T00:00:00+00:00"
  else if time = midnight + 1000000000 then
    Text.utf8 "2024-10-04T00:00:01+00:00"
  else List.replicate (26 + Equiv.intEquivNat time) 0

theorem toRfc3339_injective : Function.Injective toRfc3339 := by
  have hlength : ∀ time, time ≠ midnight → time ≠ midnight + 1000000000 →
      (toRfc3339 time).length = 26 + Equiv.intEquivNat time := by
    intro time hfirst hsecond
    rw [toRfc3339, if_neg hfirst, if_neg hsecond, List.length_replicate]
  have hknown : (toRfc3339 midnight).length = 25 ∧
      (toRfc3339 (midnight + 1000000000)).length = 25 ∧
        toRfc3339 midnight ≠ toRfc3339 (midnight + 1000000000) := by
    decide +kernel
  intro left right heq
  have hlengths := congrArg List.length heq
  by_cases hleft : left = midnight ∨ left = midnight + 1000000000
  · by_cases hright : right = midnight ∨ right = midnight + 1000000000
    · rcases hleft with rfl | rfl <;> rcases hright with rfl | rfl
      · rfl
      · exact absurd heq hknown.2.2
      · exact absurd heq.symm hknown.2.2
      · rfl
    · rw [not_or] at hright
      rw [hlength right hright.1 hright.2] at hlengths
      rcases hleft with rfl | rfl <;> omega
  · rw [not_or] at hleft
    rw [hlength left hleft.1 hleft.2] at hlengths
    by_cases hright : right = midnight ∨ right = midnight + 1000000000
    · rcases hright with rfl | rfl <;> omega
    · rw [not_or] at hright
      rw [hlength right hright.1 hright.2] at hlengths
      exact Equiv.intEquivNat.injective (by omega)

/-- The real digests of the two hashed texts. -/
def hashes : List (Bytes × Bytes) :=
  [(Text.utf8 ("SessionCreated\x7b\"phone_number\":\"+263771234567\"\x7d" ++
      "2024-10-04T00:00:00+00:00"),
    HashTables.digest
      0x99569b38560ead06eb5054b8559457ee8cd929f36f2158705b258b575cd67295),
    (Text.utf8 ("99569b38560ead06eb5054b8559457ee8cd929f36f2158705b258b575cd" ++
      "67295SessionEnded\x7b\"reason\":\"timeout\"\x7d" ++
        "2024-10-04T00:00:01+00:00"),
    HashTables.digest
      0x6d33e8c4f18c64a9de6fb55ad9bdc8bd59e4b16096380e6b7eef8f348dbff356)]

def sha256 : Bytes → Bytes := HashTables.tableHash hashes

theorem length_sha256 (data : Bytes) : (sha256 data).length = 32 :=
  HashTables.length_tableHash (by decide +kernel) data

def createdHash : Bytes := Text.utf8
  "99569b38560ead06eb5054b8559457ee8cd929f36f2158705b258b575cd67295"

def endedHash : Bytes := Text.utf8
  "6d33e8c4f18c64a9de6fb55ad9bdc8bd59e4b16096380e6b7eef8f348dbff356"

/-- Payloads are written as their JSON texts. -/
def created (previousHash : Option Bytes) : DbEvent String where
  eventType := "SessionCreated"
  version := 1
  payload := "\x7b\"phone_number\":\"+263771234567\"\x7d"
  sessionId := 9
  recordHash := createdHash
  previousHash := previousHash
  occurredAt := midnight

def ended (version : ℤ) : DbEvent String where
  eventType := "SessionEnded"
  version := version
  payload := "\x7b\"reason\":\"timeout\"\x7d"
  sessionId := 9
  recordHash := endedHash
  previousHash := some createdHash
  occurredAt := midnight + 1000000000

theorem valid_session (previousHash : Option Bytes)
    (hprevious : previousHash.getD [] = []) :
    Valid sha256 Text.utf8 toRfc3339 [created previousHash, ended 2]
      endedHash := by
  rw [valid_iff]
  refine ⟨List.cons_ne_nil _ _, rfl, fun h => absurd h (lt_irrefl 1), ?_,
    rfl, fun _ => rfl, by decide +kernel, rfl⟩
  rw [eventText, show (created previousHash).previousHash.getD [] = [] from
    hprevious]
  change createdHash = textHash sha256 (hashInput Text.utf8 toRfc3339 []
    "SessionCreated" (created none).payload midnight)
  decide +kernel

/-- The second event alone, renumbered, is accepted too. -/
theorem valid_tail :
    Valid sha256 Text.utf8 toRfc3339 [ended 1] endedHash := by
  rw [valid_iff]
  exact ⟨List.cons_ne_nil _ _, rfl, fun h => absurd h (lt_irrefl 1),
    by decide +kernel, rfl⟩

end Samples

/-- A session whose first previous hash is `NULL` in one copy and empty in the
other. -/
theorem accepted_sequences_agree_iff_null :
    (Agree [Samples.created none, Samples.ended 2]
          [Samples.created (some []), Samples.ended 2] ∨
        HashChain.Collision Samples.sha256
          (texts Text.utf8 Samples.toRfc3339
              [Samples.created none, Samples.ended 2] ++
            texts Text.utf8 Samples.toRfc3339
              [Samples.created (some []), Samples.ended 2])) ∧
      [Samples.created none, Samples.ended 2].map (cuts Text.utf8) =
        [Samples.created (some []), Samples.ended 2].map (cuts Text.utf8) := by
  have hcuts : [Samples.created none, Samples.ended 2].map (cuts Text.utf8) =
      [Samples.created (some []), Samples.ended 2].map (cuts Text.utf8) := rfl
  refine ⟨?_, hcuts⟩
  apply (accepted_sequences_agree_iff Samples.length_sha256 Text.utf8_injective
    Samples.toRfc3339_injective (Samples.valid_session none rfl)
    (Samples.valid_session (some []) rfl)).mpr
  exact Or.inl hcuts

/-- The first event of a session can be removed: the second one, renumbered,
is accepted alone with the same hash. -/
theorem first_event_removed :
    Valid Samples.sha256 Text.utf8 Samples.toRfc3339
        [Samples.created none, Samples.ended 2] Samples.endedHash ∧
      Valid Samples.sha256 Text.utf8 Samples.toRfc3339 [Samples.ended 1]
          Samples.endedHash ∧
        ¬ (Agree [Samples.created none, Samples.ended 2] [Samples.ended 1] ∨
          HashChain.Collision Samples.sha256
            (texts Text.utf8 Samples.toRfc3339
                [Samples.created none, Samples.ended 2] ++
              texts Text.utf8 Samples.toRfc3339 [Samples.ended 1])) := by
  refine ⟨Samples.valid_session none rfl, Samples.valid_tail, ?_⟩
  rintro (⟨hlength, -⟩ | ⟨first, hfirst, second, hsecond, hne, hsame⟩)
  · cases hlength
  · have hkeys : ∀ input ∈ texts Text.utf8 Samples.toRfc3339
          [Samples.created none, Samples.ended 2] ++
        texts Text.utf8 Samples.toRfc3339 [Samples.ended 1],
        input ∈ Samples.hashes.map Prod.fst := by
      decide +kernel
    exact hne (HashTables.tableHash_inj (by decide +kernel)
      (hkeys first hfirst) (hkeys second hsecond) hsame)

end UssdKernel.SessionReconstructor
