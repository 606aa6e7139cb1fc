import Mathlib

/-!
# Session timeouts

`_SessionTracker` keeps the time of a session's last touch in memory, and
`_RedisSessionTracker` in a key with a lifetime.  Both compare that time with
the timeout, but the key does not outlive the timeout.
-/

namespace UssdKernel.SessionTracker

/-- Python's `int` of a float. -/
def truncate (seconds : ℚ) : ℤ :=
  seconds.num.tdiv seconds.den

/-- `_SessionTracker.touch` with the last activity of the session. -/
def touch (timeoutSeconds : ℚ) (activity : Option ℚ) (now : ℚ) :
    Bool × Option ℚ :=
  match activity with
  | none => (true, some now)
  | some last =>
      if timeoutSeconds < now - last then (false, activity)
      else (true, some now)

/-- The key of a session, which Redis drops at `expiresAt`. -/
structure SessionKey where
  last : ℚ
  expiresAt : ℚ

/-- `_RedisSessionTracker.touch`. -/
def redisTouch (timeoutSeconds : ℚ) (key : Option SessionKey) (now : ℚ) :
    Bool × Option SessionKey :=
  let setex := (true, some ⟨now, now + truncate timeoutSeconds⟩)
  match key.filter (now < ·.expiresAt) with
  | none => setex
  | some found =>
      if timeoutSeconds < now - found.last then (false, key) else setex

inductive TrackerCall
  | touch (now : ℚ)
  | clear

/-- What the touches of a session return. -/
def answers {Entry : Type} (touch : Option Entry → ℚ → Bool × Option Entry) :
    List TrackerCall → Option Entry → List Bool
  | [], _ => []
  | .clear :: calls, _ => answers touch calls none
  | .touch now :: calls, entry =>
      (touch entry now).1 :: answers touch calls (touch entry now).2

/-- No touch comes later than the timeout after the one before it, since the
session was last cleared. -/
def Prompt (timeoutSeconds : ℚ) : List TrackerCall → Option ℚ → Prop
  | [], _ => True
  | .clear :: calls, _ => Prompt timeoutSeconds calls none
  | .touch now :: calls, last =>
      (∀ time ∈ last, now - time ≤ timeoutSeconds) ∧
        Prompt timeoutSeconds calls (some now)

/-- A key lives no longer than the timeout, so no touch finds it too old. -/
theorem redisTouch_eq {key : Option SessionKey} (now : ℚ)
    (hkey : ∀ found ∈ key, found.expiresAt = found.last + 180) :
    redisTouch 180 key now = (true, some ⟨now, now + 180⟩) := by
  have httl : (truncate 180 : ℚ) = 180 := by
    norm_num [show truncate 180 = 180 from rfl]
  rw [redisTouch, httl]
  split
  · rfl
  · next found hfound =>
      obtain ⟨hmem, hlive⟩ := Option.filter_eq_some_iff.mp hfound
      have hexpires := hkey found hmem
      rw [decide_eq_true_eq] at hlive
      rw [if_neg (by linarith)]

theorem answers_eq_iff (calls : List TrackerCall) {key : Option SessionKey}
    (hkey : ∀ found ∈ key, found.expiresAt = found.last + 180) :
    answers (redisTouch 180) calls key =
        answers (touch 180) calls (key.map SessionKey.last) ↔
      Prompt 180 calls (key.map SessionKey.last) := by
  induction calls generalizing key with
  | nil => exact iff_of_true rfl trivial
  | cons call calls ih =>
      cases call with
      | clear => exact ih (by simp)
      | touch now =>
          have hset : ∀ found ∈ some (⟨now, now + 180⟩ : SessionKey),
              found.expiresAt = found.last + 180 := by simp
          have hrest := ih hset
          rw [Option.map_some] at hrest
          rw [answers, answers, redisTouch_eq now hkey, Prompt, ← hrest]
          cases key with
          | none => simp [touch]
          | some found =>
              by_cases hprompt : now - found.last ≤ 180
              · simp [touch, hprompt, hprompt.not_gt, -tsub_le_iff_right]
              · simp [touch, hprompt, not_le.mp hprompt, -tsub_le_iff_right]

/-- Both trackers answer alike exactly as long as no touch comes later than
180 seconds after the touch before it. -/
theorem trackers_agree_iff (calls : List TrackerCall) :
    answers (redisTouch 180) calls none = answers (touch 180) calls none ↔
      Prompt 180 calls none := by
  exact answers_eq_iff calls (by simp)

/-- After 181 idle seconds Redis has dropped the key. -/
theorem idle_session_not_timed_out :
    answers (redisTouch 180) [.touch 0, .touch 181] none = [true, true] ∧
      answers (touch 180) [.touch 0, .touch 181] none = [true, false] := by
  decide +kernel

end UssdKernel.SessionTracker
