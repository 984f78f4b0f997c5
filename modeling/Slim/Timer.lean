import Mathlib.Algebra.Order.Group.Nat
import Mathlib.Data.List.Induction
import Slim.Machine
import Slim.Runs
import Slim.Session

/-!
# Timers: `service/src/timer.rs`

`start` spawns a task that waits, calls the observer and waits again.  A wait ends when its
time has elapsed or when the task sees that the token of the timer is cancelled; which of the
two it is, is the outcome of the wait.  The task records the waits that it begins and the calls
of the observer, and the observer's methods return.

`expectedWait` and `expectedCalls` are the schedule.  The counters are `u32` and a doubled
duration may be too long, and both end the schedule.
-/

namespace Slim

open Machine

/-- The longest duration: `u64::MAX` seconds and 999999999 nanoseconds. -/
def DURATION_MAX : Duration := 2 ^ 64 * 1000000000 - 1

inductive TimerType where
  | constant
  | exponential
deriving DecidableEq, Repr

/-- The tokens are numbered. -/
structure Timer where
  timerId : UInt32
  timerType : TimerType
  duration : Duration
  maxDuration : Option Duration
  maxRetries : Option UInt32
  cancellationToken : Nat
deriving DecidableEq, Repr

inductive ObserverCall where
  | onTimeout (timerId timeouts : UInt32)
  | onFailure (timerId timeouts : UInt32)
  | onStop (timerId : UInt32)
deriving DecidableEq, Repr

inductive TimerPanic where
  | overflow
  | durationOverflow
deriving DecidableEq, Repr

/-- The variables of the loop. -/
structure TimerLocals where
  retry : UInt32
  timeouts : UInt32
  lastDuration : Duration
deriving DecidableEq, Repr

inductive TaskPhase where
  | waiting (locals : TimerLocals)
  | ended
  | panicked (panic : TimerPanic)
deriving DecidableEq, Repr

/-- What ends a wait. -/
inductive WaitOutcome where
  | elapsed
  | cancelled
deriving DecidableEq, Repr

/-! ## The task -/

namespace Timer

/-- `last_duration * 2`. -/
def doubled (duration : Duration) : Except TimerPanic Duration :=
  if duration * 2 ≤ DURATION_MAX then .ok (duration * 2) else .error .durationOverflow

/-- The next wait, and the variables with the duration that is kept. -/
def nextDuration (timer : Timer) (locals : TimerLocals) :
    Except TimerPanic (Duration × TimerLocals) :=
  match timer.timerType with
  | .constant => .ok (timer.duration, locals)
  | .exponential => do
      let d ← if locals.timeouts ≠ 0 then doubled locals.lastDuration else .ok timer.duration
      match timer.maxDuration with
      | none => .ok (d, { locals with lastDuration := d })
      | some maxD =>
          if maxD < d then .ok (maxD, { locals with lastDuration := maxD })
          else .ok (d, { locals with lastDuration := d })

end Timer

/-- The task that `start` spawns, with the fields of the timer that it has copied. -/
structure TimerTask where
  timer : Timer
  waits : List Duration
  calls : List ObserverCall
  phase : TaskPhase
deriving DecidableEq, Repr

namespace TimerTask

def call (task : TimerTask) (observed : ObserverCall) : TimerTask :=
  { task with calls := task.calls ++ [observed] }

/-- The top of the loop. -/
def wait (task : TimerTask) (locals : TimerLocals) : TimerTask :=
  match task.timer.nextDuration locals with
  | .error panic => { task with phase := .panicked panic }
  | .ok (duration, locals) =>
      { task with waits := task.waits ++ [duration], phase := .waiting locals }

def start (timer : Timer) : TimerTask :=
  wait ⟨timer, [], [], .ended⟩ ⟨0, 0, timer.duration⟩

/-- `retry += 1`, and round the loop. -/
def goOn (build : Build) (task : TimerTask) (locals : TimerLocals) : TimerTask :=
  match build.succ32 locals.retry with
  | .error _ => { task with phase := .panicked .overflow }
  | .ok retry => task.wait { locals with retry := retry }

def elapsed (build : Build) (task : TimerTask) (locals : TimerLocals) : TimerTask :=
  match build.succ32 locals.timeouts with
  | .error _ => { task with phase := .panicked .overflow }
  | .ok timeouts =>
      let locals := { locals with timeouts := timeouts }
      match task.timer.maxRetries with
      | some max =>
          if locals.retry < max then
            (task.call (.onTimeout task.timer.timerId timeouts)).goOn build locals
          else
            { task.call (.onFailure task.timer.timerId timeouts) with phase := .ended }
      | none => (task.call (.onTimeout task.timer.timerId timeouts)).goOn build locals

def step (build : Build) (task : TimerTask) (outcome : WaitOutcome) : TimerTask :=
  match task.phase with
  | .waiting locals =>
      match outcome with
      | .elapsed => task.elapsed build locals
      | .cancelled => { task.call (.onStop task.timer.timerId) with phase := .ended }
  | .ended | .panicked _ => task

end TimerTask

/-! ## The schedule -/

namespace Timer

variable (timer : Timer)

def expectedWait (n : Nat) : Duration :=
  match timer.timerType with
  | .constant => timer.duration
  | .exponential =>
      match timer.maxDuration with
      | none => timer.duration * 2 ^ n
      | some maxD => min (timer.duration * 2 ^ n) maxD

def timeoutCalls (n : Nat) : List ObserverCall :=
  (List.range n).map fun k => .onTimeout timer.timerId (UInt32.ofNat (k + 1))

/-- The calls after `n` waits have elapsed. -/
def expectedCalls (n : Nat) : List ObserverCall :=
  match timer.maxRetries with
  | none => timer.timeoutCalls n
  | some max =>
      if n ≤ max.toNat then timer.timeoutCalls n
      else timer.timeoutCalls max.toNat ++
        [.onFailure timer.timerId (UInt32.ofNat (max.toNat + 1))]

/-- The number of times that the loop goes round again within `n` waits. -/
def rounds (n : Nat) : Nat :=
  match timer.maxRetries with
  | none => n
  | some max => min n max.toNat

def expectedWaits (n : Nat) : List Duration :=
  (List.range (timer.rounds n + 1)).map timer.expectedWait

/-- The counters stay below the last number of `u32`. -/
def Counts (n : Nat) : Prop :=
  match timer.maxRetries with
  | none => n < 2 ^ 32
  | some max => max.toNat < 2 ^ 32 - 1

/-- Every duration that is doubled within `n` waits fits. -/
def Fits (n : Nat) : Prop :=
  timer.timerType = .exponential →
    ∀ k < timer.rounds n, timer.expectedWait k * 2 ≤ DURATION_MAX

variable {timer}

theorem rounds_le (n : Nat) : timer.rounds n ≤ n := by
  unfold rounds
  split
  · exact Nat.le_refl n
  · exact Nat.min_le_left _ _

theorem rounds_mono {n n' : Nat} (hle : n ≤ n') : timer.rounds n ≤ timer.rounds n' := by
  unfold rounds
  split
  · exact hle
  · omega

theorem Counts.mono {n n' : Nat} (hcounts : timer.Counts n') (hle : n ≤ n') : timer.Counts n := by
  unfold Counts at hcounts ⊢
  split at hcounts
  · exact Nat.lt_of_le_of_lt hle hcounts
  · exact hcounts

theorem Fits.mono {n n' : Nat} (hfits : timer.Fits n') (hle : n ≤ n') : timer.Fits n :=
  fun htype k hk => hfits htype k (Nat.lt_of_lt_of_le hk (rounds_mono hle))

theorem rounds_of_none (hnone : timer.maxRetries = none) (n : Nat) : timer.rounds n = n := by
  simp only [rounds, hnone]

theorem rounds_of_some {max : UInt32} (hsome : timer.maxRetries = some max) (n : Nat) :
    timer.rounds n = min n max.toNat := by
  simp only [rounds, hsome]

/-- A wait that begins is below the bound of the counters. -/
theorem Counts.lt {n : Nat} (hcounts : timer.Counts (n + 1)) (hwaits : timer.rounds n = n) :
    n + 1 < 2 ^ 32 := by
  unfold Counts at hcounts
  rcases hmax : timer.maxRetries with _ | max
  · rw [hmax] at hcounts
    exact hcounts
  · rw [hmax] at hcounts
    rw [rounds_of_some hmax] at hwaits
    dsimp only at hcounts
    omega

/-! ### The durations -/

theorem nextDuration_first :
    timer.nextDuration ⟨0, 0, timer.duration⟩ =
      .ok (timer.expectedWait 0, ⟨0, 0, timer.expectedWait 0⟩) := by
  unfold nextDuration expectedWait
  rcases timer.timerType with _ | _
  · rfl
  · rcases timer.maxDuration with _ | maxD
    · simp [bind_ok]
    · by_cases hmax : maxD < timer.duration
      · simp [bind_ok, hmax, Nat.min_eq_right (Nat.le_of_lt hmax)]
      · simp [bind_ok, hmax, Nat.min_eq_left (Nat.not_lt.1 hmax)]

/-- Doubling the clamped duration and clamping again is the clamped double. -/
theorem min_double (d maxD : Nat) : min (d * 2) maxD = min (min d maxD * 2) maxD := by omega

theorem nextDuration_next {n : Nat} {retry timeouts : UInt32} (htimeouts : timeouts ≠ 0)
    (hfits : timer.timerType = .exponential → timer.expectedWait n * 2 ≤ DURATION_MAX) :
    timer.nextDuration ⟨retry, timeouts, timer.expectedWait n⟩ =
      .ok (timer.expectedWait (n + 1), ⟨retry, timeouts, timer.expectedWait (n + 1)⟩) := by
  rcases htype : timer.timerType with _ | _
  · simp [nextDuration, expectedWait, htype]
  · have hdoubled : doubled (timer.expectedWait n) = .ok (timer.expectedWait n * 2) :=
      if_pos (hfits htype)
    simp only [nextDuration, htype, htimeouts, ne_eq, not_false_eq_true, if_true, hdoubled, bind_ok]
    rcases hmax : timer.maxDuration with _ | maxD
    · simp only [expectedWait, htype, hmax, pow_succ, Nat.mul_assoc]
    · have hclamped : timer.expectedWait (n + 1) = min (timer.expectedWait n * 2) maxD := by
        simp only [expectedWait, htype, hmax, pow_succ]
        rw [← Nat.mul_assoc]
        exact min_double _ _
      by_cases hlong : maxD < timer.expectedWait n * 2
      · simp only [hlong, if_true, hclamped, Nat.min_eq_right (Nat.le_of_lt hlong)]
      · simp only [hlong, if_false, hclamped, Nat.min_eq_left (Nat.not_lt.1 hlong)]

theorem timeoutCalls_succ (n : Nat) :
    timer.timeoutCalls (n + 1) =
      timer.timeoutCalls n ++ [.onTimeout timer.timerId (UInt32.ofNat (n + 1))] := by
  simp [timeoutCalls, List.range_succ]

theorem timeoutCalls_isPrefix {n n' : Nat} (hle : n ≤ n') :
    timer.timeoutCalls n <+: timer.timeoutCalls n' := by
  obtain ⟨extra, rfl⟩ := Nat.exists_eq_add_of_le hle
  rw [timeoutCalls, timeoutCalls, List.range_add, List.map_append]
  exact List.prefix_append _ _

theorem expectedCalls_of_rounds {n : Nat} (hwaits : timer.rounds n = n) :
    timer.expectedCalls n = timer.timeoutCalls n := by
  unfold expectedCalls
  rcases hmax : timer.maxRetries with _ | max
  · rfl
  · rw [rounds_of_some hmax] at hwaits
    exact if_pos (by omega)

theorem expectedCalls_of_lt {n : Nat} {max : UInt32} (hsome : timer.maxRetries = some max)
    (hlt : max.toNat < n) :
    timer.expectedCalls n = timer.timeoutCalls max.toNat ++
      [.onFailure timer.timerId (UInt32.ofNat (max.toNat + 1))] := by
  simp only [expectedCalls, hsome, Nat.not_le.2 hlt, if_false]

/-- The calls of a shorter run are the first calls of a longer one. -/
theorem expectedCalls_isPrefix {n n' : Nat} (hle : n ≤ n') :
    timer.expectedCalls n <+: timer.expectedCalls n' := by
  unfold expectedCalls
  rcases timer.maxRetries with _ | max
  · exact timeoutCalls_isPrefix hle
  · dsimp only
    by_cases hn : n ≤ max.toNat
    · rw [if_pos hn]
      by_cases hn' : n' ≤ max.toNat
      · rw [if_pos hn']
        exact timeoutCalls_isPrefix hle
      · rw [if_neg hn']
        exact (timeoutCalls_isPrefix hn).trans (List.prefix_append _ _)
    · have hn' : ¬ n' ≤ max.toNat := fun hn' => hn (Nat.le_trans hle hn')
      simp only [hn, hn', if_false, List.prefix_refl]

end Timer

/-! ## Runs -/

namespace TimerTask

variable {build : Build} {timer : Timer}

/-- The task after `n` waits have elapsed and nothing was cancelled. -/
def scheduled (timer : Timer) (n : Nat) : TimerTask where
  timer := timer
  waits := timer.expectedWaits n
  calls := timer.expectedCalls n
  phase :=
    if timer.rounds n = n then
      .waiting ⟨UInt32.ofNat n, UInt32.ofNat n, timer.expectedWait n⟩
    else .ended

theorem scheduled_zero (timer : Timer) : start timer = scheduled timer 0 := by
  have hrounds : timer.rounds 0 = 0 := Nat.le_zero.1 (Timer.rounds_le 0)
  have hcalls : timer.expectedCalls 0 = [] := by
    unfold Timer.expectedCalls
    split
    · rfl
    · rw [if_pos (Nat.zero_le _)]
      rfl
  simp only [start, wait, Timer.nextDuration_first, scheduled, hrounds, if_true, hcalls,
    Timer.expectedWaits]
  rfl

theorem succ32_ofNat {n : Nat} (hlt : n + 1 < 2 ^ 32) :
    build.succ32 (UInt32.ofNat n) = .ok (UInt32.ofNat (n + 1)) := by
  unfold Build.succ32
  rw [UInt32.toNat_ofNat_of_lt' (Nat.lt_of_succ_lt hlt), if_pos hlt, UInt32.ofNat_add]
  rfl

theorem ofNat_ne_zero {n : Nat} (hlt : n + 1 < 2 ^ 32) : UInt32.ofNat (n + 1) ≠ 0 := by
  intro hzero
  have htoNat := congrArg UInt32.toNat hzero
  rw [UInt32.toNat_ofNat_of_lt' hlt] at htoNat
  exact absurd htoNat (Nat.succ_ne_zero n)

/-- The round after a timeout. -/
theorem goOn_scheduled {n : Nat} (hlt : n + 1 < 2 ^ 32) (hrounds : timer.rounds (n + 1) = n + 1)
    (hfits : timer.Fits (n + 1)) :
    ((scheduled timer n).call (.onTimeout timer.timerId (UInt32.ofNat (n + 1)))).goOn build
      ⟨UInt32.ofNat n, UInt32.ofNat (n + 1), timer.expectedWait n⟩ = scheduled timer (n + 1) := by
  have hwaits : timer.rounds n = n := by
    unfold Timer.rounds at hrounds ⊢
    split at hrounds
    · rfl
    · omega
  have hdouble : timer.timerType = .exponential → timer.expectedWait n * 2 ≤ DURATION_MAX :=
    fun htype => hfits htype n (by rw [hrounds]; exact Nat.lt_succ_self n)
  have hnext : timer.nextDuration
      ⟨UInt32.ofNat (n + 1), UInt32.ofNat (n + 1), timer.expectedWait n⟩ = _ :=
    Timer.nextDuration_next (ofNat_ne_zero hlt) hdouble
  simp only [goOn, succ32_ofNat hlt, wait, call, scheduled, hnext, hrounds, if_true,
    Timer.expectedCalls_of_rounds hwaits, Timer.expectedCalls_of_rounds hrounds,
    Timer.timeoutCalls_succ, Timer.expectedWaits, hwaits, List.range_succ (n := n + 1),
    List.map_append, List.map_singleton]

/-- The wait after the last retry. -/
theorem elapsed_last {max : UInt32} (hmax : timer.maxRetries = some max)
    (hlt : max.toNat + 1 < 2 ^ 32) :
    (scheduled timer max.toNat).elapsed build
        ⟨UInt32.ofNat max.toNat, UInt32.ofNat max.toNat, timer.expectedWait max.toNat⟩ =
      scheduled timer (max.toNat + 1) := by
  have hwaits : timer.rounds max.toNat = max.toNat := by
    rw [Timer.rounds_of_some hmax, Nat.min_self]
  have hrounds : timer.rounds (max.toNat + 1) = max.toNat := by
    rw [Timer.rounds_of_some hmax, Nat.min_eq_right (Nat.le_succ _)]
  have hne : max.toNat ≠ max.toNat + 1 := Nat.ne_of_lt (Nat.lt_succ_self _)
  have hcalls := Timer.expectedCalls_of_lt hmax (Nat.lt_succ_self max.toNat)
  have hsucc : build.succ32 max = .ok (UInt32.ofNat (max.toNat + 1)) := by
    rw [← succ32_ofNat hlt, UInt32.ofNat_toNat]
  simp only [elapsed, scheduled, hmax, call, UInt32.ofNat_toNat, hsucc, UInt32.lt_irrefl, if_false,
    Timer.expectedCalls_of_rounds hwaits, Timer.expectedWaits, hwaits, hrounds, hne]
  rw [← hcalls]

/-- After the failure nothing changes. -/
theorem scheduled_succ_of_ended {n : Nat} {max : UInt32} (hmax : timer.maxRetries = some max)
    (hended : max.toNat < n) : scheduled timer (n + 1) = scheduled timer n := by
  have hrounds : timer.rounds n = max.toNat := by
    rw [Timer.rounds_of_some hmax, Nat.min_eq_right (Nat.le_of_lt hended)]
  have hrounds' : timer.rounds (n + 1) = max.toNat := by
    rw [Timer.rounds_of_some hmax, Nat.min_eq_right (Nat.le_succ_of_le (Nat.le_of_lt hended))]
  simp only [scheduled, Timer.expectedWaits, hrounds, hrounds', Nat.ne_of_lt hended,
    Nat.ne_of_lt (Nat.lt_succ_of_lt hended), if_false, Timer.expectedCalls_of_lt hmax hended,
    Timer.expectedCalls_of_lt hmax (Nat.lt_succ_of_lt hended)]

theorem phase_scheduled_of_rounds {n : Nat} (hwaits : timer.rounds n = n) :
    (scheduled timer n).phase =
      .waiting ⟨UInt32.ofNat n, UInt32.ofNat n, timer.expectedWait n⟩ := if_pos hwaits

/-- One more wait elapses. -/
theorem step_scheduled {n : Nat} (hcounts : timer.Counts (n + 1)) (hfits : timer.Fits (n + 1)) :
    (scheduled timer n).step build .elapsed = scheduled timer (n + 1) := by
  rcases hmax : timer.maxRetries with _ | max
  · have hwaits := Timer.rounds_of_none hmax n
    have hlt := hcounts.lt hwaits
    simp only [step, phase_scheduled_of_rounds hwaits, elapsed, succ32_ofNat hlt,
      show (scheduled timer n).timer = timer from rfl, hmax]
    exact goOn_scheduled hlt (Timer.rounds_of_none hmax _) hfits
  · rcases Nat.lt_trichotomy n max.toNat with hbelow | hlast | hended
    · have hwaits : timer.rounds n = n := by
        rw [Timer.rounds_of_some hmax, Nat.min_eq_left (Nat.le_of_lt hbelow)]
      have hrounds : timer.rounds (n + 1) = n + 1 := by
        rw [Timer.rounds_of_some hmax, Nat.min_eq_left hbelow]
      have hlt := hcounts.lt hwaits
      have hretry : UInt32.ofNat n < max := by
        rw [UInt32.lt_iff_toNat_lt, UInt32.toNat_ofNat_of_lt' (Nat.lt_of_succ_lt hlt)]
        exact hbelow
      simp only [step, phase_scheduled_of_rounds hwaits, elapsed, succ32_ofNat hlt,
        show (scheduled timer n).timer = timer from rfl, hmax, hretry, if_true]
      exact goOn_scheduled hlt hrounds hfits
    · rw [hlast] at hcounts ⊢
      have hwaits : timer.rounds max.toNat = max.toNat := by
        rw [Timer.rounds_of_some hmax, Nat.min_self]
      simp only [step, phase_scheduled_of_rounds hwaits]
      exact elapsed_last hmax (hcounts.lt hwaits)
    · rw [scheduled_succ_of_ended hmax hended]
      have hwaits : timer.rounds n ≠ n := by
        rw [Timer.rounds_of_some hmax, Nat.min_eq_right (Nat.le_of_lt hended)]
        exact Nat.ne_of_lt hended
      simp only [step, show (scheduled timer n).phase = .ended from if_neg hwaits]

theorem run_elapsed : ∀ n, timer.Counts n → timer.Fits n →
    Runs.run (step build) (start timer) (List.replicate n .elapsed) = scheduled timer n := by
  intro n
  induction n with
  | zero =>
      intro _ _
      exact scheduled_zero timer
  | succ n ih =>
      intro hcounts hfits
      rw [List.replicate_succ', Runs.run_concat,
        ih (hcounts.mono (Nat.le_succ n)) (hfits.mono (Nat.le_succ n))]
      exact step_scheduled hcounts hfits

/-! ### Cancelled runs -/

/-- The waits that elapse before one is cancelled. -/
def elapsedWaits (outcomes : List WaitOutcome) : Nat :=
  (outcomes.takeWhile (· = .elapsed)).length

theorem step_of_ended {task : TimerTask} (hended : task.phase = .ended) (outcome : WaitOutcome) :
    task.step build outcome = task := by
  simp only [step, hended]

theorem run_of_ended {task : TimerTask} (hended : task.phase = .ended)
    (outcomes : List WaitOutcome) : Runs.run (step build) task outcomes = task := by
  induction outcomes with
  | nil => rfl
  | cons outcome outcomes ih => rw [Runs.run_cons, step_of_ended hended, ih]

/-- A cancelled wait is the last one. -/
theorem run_cancelled (timer : Timer) (n : Nat) (outcomes : List WaitOutcome) :
    Runs.run (step build) (scheduled timer n) (.cancelled :: outcomes) =
      if timer.rounds n = n then
        { (scheduled timer n).call (.onStop timer.timerId) with phase := .ended }
      else scheduled timer n := by
  by_cases hwaits : timer.rounds n = n
  · rw [if_pos hwaits, Runs.run_cons]
    have hstep : (scheduled timer n).step build .cancelled =
        { (scheduled timer n).call (.onStop timer.timerId) with phase := .ended } := by
      simp only [step, phase_scheduled_of_rounds hwaits]
      rfl
    rw [hstep]
    exact run_of_ended rfl outcomes
  · rw [if_neg hwaits]
    exact run_of_ended (if_neg hwaits) _

theorem eq_replicate_append (outcomes : List WaitOutcome) :
    outcomes = List.replicate (elapsedWaits outcomes) .elapsed ∧ .cancelled ∉ outcomes ∨
      ∃ rest, outcomes = List.replicate (elapsedWaits outcomes) .elapsed ++ .cancelled :: rest := by
  induction outcomes with
  | nil => exact .inl ⟨rfl, List.not_mem_nil⟩
  | cons outcome outcomes ih =>
      cases outcome with
      | cancelled => exact .inr ⟨outcomes, rfl⟩
      | elapsed =>
          have hcount : elapsedWaits (.elapsed :: outcomes) = elapsedWaits outcomes + 1 := by
            simp [elapsedWaits]
          rw [hcount, List.replicate_succ]
          rcases ih with ⟨heq, hnot⟩ | ⟨rest, heq⟩
          · exact .inl ⟨congrArg _ heq, by simpa using hnot⟩
          · exact .inr ⟨rest, congrArg _ heq⟩

/-- Every run is the schedule up to the waits that elapsed, and `on_stop` after that if a wait
    is cancelled. -/
theorem run_eq {outcomes : List WaitOutcome} (hcounts : timer.Counts (elapsedWaits outcomes))
    (hfits : timer.Fits (elapsedWaits outcomes)) :
    Runs.run (step build) (start timer) outcomes =
      if .cancelled ∈ outcomes ∧ timer.rounds (elapsedWaits outcomes) = elapsedWaits outcomes then
        { (scheduled timer (elapsedWaits outcomes)).call (.onStop timer.timerId) with
          phase := .ended }
      else scheduled timer (elapsedWaits outcomes) := by
  have hcases := eq_replicate_append outcomes
  generalize elapsedWaits outcomes = n at hcounts hfits hcases ⊢
  rcases hcases with ⟨rfl, hnot⟩ | ⟨rest, rfl⟩
  · rw [if_neg fun hboth => hnot hboth.1]
    exact run_elapsed n hcounts hfits
  · have hmem : WaitOutcome.cancelled ∈ List.replicate n .elapsed ++ .cancelled :: rest := by simp
    rw [Runs.run_append, run_elapsed n hcounts hfits, run_cancelled]
    simp only [hmem, true_and]

end TimerTask

/-! ## The schedule of a task -/

/-- After `n` waits that elapsed the task has begun the waits of the schedule and made its
    calls.  Without a bound on the retries it never fails; with one it fails once and is done.
    If a wait is cancelled, `on_stop` may be the last call. -/
structure TimerTask.Follows (timer : Timer) (n : Nat) (cancelled : Prop) (task : TimerTask) :
    Prop where
  waits : task.waits = (List.range (timer.rounds n + 1)).map timer.expectedWait
  endless : ¬ cancelled → timer.maxRetries = none → task.calls = timer.timeoutCalls n
  retries : ¬ cancelled → ∀ max, timer.maxRetries = some max → n ≤ max.toNat →
    task.calls = timer.timeoutCalls n
  failure : ¬ cancelled → ∀ max, timer.maxRetries = some max → max.toNat < n →
    task.calls = timer.timeoutCalls max.toNat ++
      [.onFailure timer.timerId (UInt32.ofNat (max.toNat + 1))]
  stopped : cancelled → ∃ calls, (∀ n' ≥ n, calls <+: timer.expectedCalls n') ∧
    (task.calls = calls ∨ task.calls = calls ++ [.onStop timer.timerId])

theorem TimerTask.follows_schedule (build : Build) (timer : Timer) (outcomes : List WaitOutcome)
    (hcounts : timer.Counts (elapsedWaits outcomes)) (hfits : timer.Fits (elapsedWaits outcomes)) :
    Follows timer (elapsedWaits outcomes) (.cancelled ∈ outcomes)
      (Runs.run (step build) (start timer) outcomes) := by
  have hrun : Runs.run (step build) (start timer) outcomes = _ := run_eq hcounts hfits
  have hcalls (hnot : .cancelled ∉ outcomes) :
      (Runs.run (step build) (start timer) outcomes).calls =
        timer.expectedCalls (elapsedWaits outcomes) := by
    rw [hrun, if_neg fun hboth => hnot hboth.1]
    rfl
  constructor
  · rw [hrun]
    split
    · rfl
    · rfl
  · intro hnot hnone
    rw [hcalls hnot, Timer.expectedCalls_of_rounds (Timer.rounds_of_none hnone _)]
  · intro hnot max hmax hle
    rw [hcalls hnot, Timer.expectedCalls_of_rounds]
    rw [Timer.rounds_of_some hmax, Nat.min_eq_left hle]
  · intro hnot max hmax hlt
    rw [hcalls hnot, Timer.expectedCalls_of_lt hmax hlt]
  · intro _
    refine ⟨timer.expectedCalls (elapsedWaits outcomes), fun n' hle => ?_, ?_⟩
    · exact Timer.expectedCalls_isPrefix hle
    · rw [hrun]
      split
      · exact .inr rfl
      · exact .inl rfl

/-- The timer of a producer: 500 ms at first and 30 s at most, without a bound. -/
def Timer.sampleProducer : Timer :=
  ⟨1, .exponential, Duration.fromMillis 500, some (Duration.fromMillis 30000), none, 0⟩

/-- Seven waits elapse, the last of them at the maximum, and the next one is cancelled. -/
theorem TimerTask.follows_schedule_producer :
    let outcomes : List WaitOutcome := List.replicate 7 .elapsed ++ [.cancelled]
    let task := Runs.run (step .debug) (start Timer.sampleProducer) outcomes
    Follows Timer.sampleProducer 7 (.cancelled ∈ outcomes) task ∧
      task.waits = [500, 1000, 2000, 4000, 8000, 16000, 30000, 30000].map Duration.fromMillis ∧
      task.calls = Timer.sampleProducer.timeoutCalls 7 ++ [.onStop 1] := by
  have hcounts : Timer.sampleProducer.Counts 7 := show 7 < 2 ^ 32 by decide
  have hfits : Timer.sampleProducer.Fits 7 := fun _ =>
    show ∀ k < 7, Timer.sampleProducer.expectedWait k * 2 ≤ DURATION_MAX by decide
  exact ⟨follows_schedule .debug Timer.sampleProducer
    (List.replicate 7 WaitOutcome.elapsed ++ [WaitOutcome.cancelled]) hcounts hfits,
    by decide, by decide⟩

/-! ## The timer of a task -/

namespace TimerTask

variable {build : Build}

theorem wait_timer (task : TimerTask) (locals : TimerLocals) :
    (task.wait locals).timer = task.timer := by
  unfold wait
  split
  · rfl
  · rfl

theorem elapsed_timer (task : TimerTask) (locals : TimerLocals) :
    (task.elapsed build locals).timer = task.timer := by
  have hgoOn (observed : ObserverCall) (locals : TimerLocals) :
      ((task.call observed).goOn build locals).timer = task.timer := by
    unfold goOn
    split
    · rfl
    · exact wait_timer _ _
  unfold elapsed
  split
  · rfl
  · split
    · dsimp only
      split
      · exact hgoOn _ _
      · rfl
    · exact hgoOn _ _

theorem step_timer (task : TimerTask) (outcome : WaitOutcome) :
    (task.step build outcome).timer = task.timer := by
  unfold step
  split
  · split
    · exact elapsed_timer task _
    · rfl
  · rfl
  · rfl

theorem run_timer (task : TimerTask) (outcomes : List WaitOutcome) :
    (Runs.run (step build) task outcomes).timer = task.timer := by
  induction outcomes generalizing task with
  | nil => rfl
  | cons outcome outcomes ih => rw [Runs.run_cons, ih, step_timer]

end TimerTask

/-! ## The owner of a timer

Each call of `start` spawns a task with the token of that moment.  `stop` cancels this token and
takes a new one, and dropping the timer cancels the token that it has.  A task can see the
cancellation only if its token is cancelled. -/

structure TimerOwner where
  timer : Timer
  nextToken : Nat
  cancelled : List Nat
  dropped : Bool
  tasks : List TimerTask

inductive OwnerEvent where
  | start
  | stop
  | reset
  | drop
  | waitEnds (index : Nat) (outcome : WaitOutcome)

namespace TimerOwner

def new (timer : Timer) : TimerOwner := ⟨timer, timer.cancellationToken + 1, [], false, []⟩

def start (owner : TimerOwner) : TimerOwner :=
  { owner with tasks := owner.tasks ++ [TimerTask.start owner.timer] }

def stop (owner : TimerOwner) : TimerOwner :=
  { owner with
    timer := { owner.timer with cancellationToken := owner.nextToken }
    nextToken := owner.nextToken + 1
    cancelled := owner.timer.cancellationToken :: owner.cancelled }

def reset (owner : TimerOwner) : TimerOwner := owner.stop.start

def drop (owner : TimerOwner) : TimerOwner :=
  { owner with
    cancelled := owner.timer.cancellationToken :: owner.cancelled
    dropped := true }

def waitEnds (build : Build) (owner : TimerOwner) (index : Nat) (outcome : WaitOutcome) :
    TimerOwner :=
  { owner with
    tasks := owner.tasks.modify index fun task =>
      if outcome = .cancelled ∧ task.timer.cancellationToken ∉ owner.cancelled then task
      else task.step build outcome }

/-- A timer that is dropped cannot be called any more; its tasks go on. -/
def exec (build : Build) (owner : TimerOwner) : OwnerEvent → TimerOwner
  | .start => if owner.dropped then owner else owner.start
  | .stop => if owner.dropped then owner else owner.stop
  | .reset => if owner.dropped then owner else owner.reset
  | .drop => if owner.dropped then owner else owner.drop
  | .waitEnds index outcome => owner.waitEnds build index outcome

/-- A task of the owner is a run of at most `bound` waits, and none of them is cancelled unless
    the token is. -/
def Spawned (build : Build) (timer : Timer) (bound : Nat) (owner : TimerOwner)
    (task : TimerTask) : Prop :=
  ∃ token outcomes, outcomes.length ≤ bound ∧
    task = Runs.run (TimerTask.step build)
      (TimerTask.start { timer with cancellationToken := token }) outcomes ∧
    (.cancelled ∈ outcomes → token ∈ owner.cancelled)

structure Traced (build : Build) (timer : Timer) (bound : Nat) (owner : TimerOwner) : Prop where
  same_timer : ∃ token, owner.timer = { timer with cancellationToken := token }
  token_lt : ∀ token ∈ owner.timer.cancellationToken :: owner.cancelled, token < owner.nextToken
  token_live : owner.dropped = false → owner.timer.cancellationToken ∉ owner.cancelled
  spawned : ∀ task ∈ owner.tasks, Spawned build timer bound owner task

variable {build : Build} {timer : Timer} {bound : Nat} {owner : TimerOwner}

theorem Spawned.mono {task : TimerTask} {left : TimerOwner} {bound' : Nat}
    (hspawned : Spawned build timer bound owner task) (hbound : bound ≤ bound')
    (hcancelled : owner.cancelled ⊆ left.cancelled) : Spawned build timer bound' left task := by
  obtain ⟨token, outcomes, hlength, htask, htoken⟩ := hspawned
  exact ⟨token, outcomes, Nat.le_trans hlength hbound, htask, fun hmem => hcancelled (htoken hmem)⟩

theorem Traced.mono {bound' : Nat} (htraced : Traced build timer bound owner)
    (hbound : bound ≤ bound') : Traced build timer bound' owner :=
  ⟨htraced.same_timer, htraced.token_lt, htraced.token_live,
    fun task htask => (htraced.spawned task htask).mono hbound (List.Subset.refl _)⟩

theorem Traced.start (htraced : Traced build timer bound owner) :
    Traced build timer bound owner.start := by
  refine ⟨htraced.same_timer, htraced.token_lt, htraced.token_live, fun task htask => ?_⟩
  rcases List.mem_append.1 htask with hold | hnew
  · exact (htraced.spawned task hold).mono (Nat.le_refl _) (List.Subset.refl _)
  · obtain ⟨token, htimer⟩ := htraced.same_timer
    rw [List.mem_singleton.1 hnew, htimer]
    exact ⟨token, [], Nat.zero_le _, rfl, fun hmem => absurd hmem List.not_mem_nil⟩

theorem Traced.stop (htraced : Traced build timer bound owner) :
    Traced build timer bound owner.stop := by
  obtain ⟨token, htimer⟩ := htraced.same_timer
  constructor
  · exact ⟨owner.nextToken, by rw [TimerOwner.stop, htimer]⟩
  · intro other hother
    rcases List.mem_cons.1 hother with rfl | hold
    · exact Nat.lt_succ_self owner.nextToken
    · exact Nat.lt_succ_of_lt (htraced.token_lt other hold)
  · intro _ hmem
    exact Nat.lt_irrefl _ (htraced.token_lt owner.nextToken hmem)
  · intro task htask
    exact (htraced.spawned task htask).mono (Nat.le_refl _) (List.subset_cons_self _ _)

theorem Traced.drop (htraced : Traced build timer bound owner) :
    Traced build timer bound owner.drop := by
  refine ⟨htraced.same_timer, fun other hother => ?_, fun hlive => ?_, fun task htask => ?_⟩
  · rcases List.mem_cons.1 hother with rfl | hold
    · exact htraced.token_lt _ List.mem_cons_self
    · exact htraced.token_lt other hold
  · cases hlive
  · exact (htraced.spawned task htask).mono (Nat.le_refl _) (List.subset_cons_self _ _)

theorem Traced.waitEnds (htraced : Traced build timer bound owner) (index : Nat)
    (outcome : WaitOutcome) :
    Traced build timer (bound + 1) (owner.waitEnds build index outcome) := by
  refine ⟨htraced.same_timer, htraced.token_lt, htraced.token_live, fun task htask => ?_⟩
  obtain ⟨position, hposition⟩ := List.mem_iff_getElem?.1 htask
  rw [TimerOwner.waitEnds, List.getElem?_modify, Option.map_eq_map, Option.map_eq_some_iff]
    at hposition
  obtain ⟨old, hold, hchange⟩ := hposition
  have hspawned := htraced.spawned old (List.mem_of_getElem? hold)
  have hkept : Spawned build timer (bound + 1) (owner.waitEnds build index outcome) old :=
    hspawned.mono (Nat.le_succ bound) (List.Subset.refl _)
  by_cases hindex : index = position
  · rw [if_pos hindex] at hchange
    by_cases hblind : outcome = .cancelled ∧ old.timer.cancellationToken ∉ owner.cancelled
    · rw [if_pos hblind] at hchange
      rwa [← hchange]
    · rw [if_neg hblind] at hchange
      obtain ⟨token, outcomes, hlength, rfl, htoken⟩ := hspawned
      refine ⟨token, outcomes ++ [outcome], ?_, ?_, fun hmem => ?_⟩
      · rw [List.length_append]
        exact Nat.succ_le_succ hlength
      · rw [Runs.run_concat, hchange]
      · rcases List.mem_append.1 hmem with hbefore | hlast
        · exact htoken hbefore
        · by_contra hnot
          refine hblind ⟨(List.mem_singleton.1 hlast).symm, ?_⟩
          rw [TimerTask.run_timer, TimerTask.start, TimerTask.wait_timer]
          exact hnot
  · rw [if_neg hindex] at hchange
    rwa [← hchange]

theorem Traced.exec (htraced : Traced build timer bound owner) (event : OwnerEvent) :
    Traced build timer (bound + 1) (owner.exec build event) := by
  have hcalled {left : TimerOwner} (hleft : Traced build timer bound left) :
      Traced build timer (bound + 1) (if owner.dropped then owner else left) := by
    split
    · exact htraced.mono (Nat.le_succ bound)
    · exact hleft.mono (Nat.le_succ bound)
  cases event with
  | start => exact hcalled htraced.start
  | stop => exact hcalled htraced.stop
  | reset => exact hcalled htraced.stop.start
  | drop => exact hcalled htraced.drop
  | waitEnds index outcome => exact htraced.waitEnds index outcome

theorem traced_run (build : Build) (timer : Timer) (events : List OwnerEvent) :
    Traced build timer events.length (Runs.run (exec build) (new timer) events) := by
  induction events using List.reverseRecOn with
  | nil =>
      refine ⟨⟨timer.cancellationToken, rfl⟩, ?_, fun _ => List.not_mem_nil, fun task htask => ?_⟩
      · intro token htoken
        rw [List.mem_singleton.1 htoken]
        exact Nat.lt_succ_self _
      · cases htask
  | append_singleton events event ih =>
      rw [Runs.run_concat, List.length_append]
      exact ih.exec event

/-- Whatever the owner does, each of its tasks makes the calls of the schedule, and `on_stop`
    after them only if its token was cancelled. -/
theorem task_calls (build : Build) (timer : Timer) (events : List OwnerEvent)
    (hcounts : timer.Counts events.length) (hfits : timer.Fits events.length) :
    let owner := Runs.run (exec build) (new timer) events
    ∀ task ∈ owner.tasks, ∃ n ≤ events.length,
      task.calls = timer.expectedCalls n ∨
        task.calls = timer.expectedCalls n ++ [.onStop timer.timerId] ∧
          task.timer.cancellationToken ∈ owner.cancelled := by
  intro owner task htask
  obtain ⟨token, outcomes, hlength, rfl, htoken⟩ :=
    (traced_run build timer events).spawned task htask
  have hle : TimerTask.elapsedWaits outcomes ≤ events.length :=
    Nat.le_trans (List.takeWhile_sublist _).length_le hlength
  -- the schedule does not read the token
  have hrun : Runs.run (TimerTask.step build)
      (TimerTask.start { timer with cancellationToken := token }) outcomes = _ :=
    TimerTask.run_eq (hcounts.mono hle) (hfits.mono hle)
  refine ⟨TimerTask.elapsedWaits outcomes, hle, ?_⟩
  by_cases hstopped : .cancelled ∈ outcomes ∧
      timer.rounds (TimerTask.elapsedWaits outcomes) = TimerTask.elapsedWaits outcomes
  · refine .inr ⟨?_, ?_⟩
    · rw [hrun]
      exact congrArg TimerTask.calls (if_pos hstopped)
    · rw [TimerTask.run_timer, TimerTask.start, TimerTask.wait_timer]
      exact htoken hstopped.1
  · refine .inl ?_
    rw [hrun]
    exact congrArg TimerTask.calls (if_neg hstopped)

/-- While the timer is there, a task that was started after the last `stop` is not stopped. -/
theorem live_task_calls (build : Build) (timer : Timer) (events : List OwnerEvent)
    (hcounts : timer.Counts events.length) (hfits : timer.Fits events.length) :
    let owner := Runs.run (exec build) (new timer) events
    owner.dropped = false →
      ∀ task ∈ owner.tasks, task.timer.cancellationToken = owner.timer.cancellationToken →
        ∃ n ≤ events.length, task.calls = timer.expectedCalls n := by
  intro owner hthere task htask hcurrent
  obtain ⟨n, hle, hcalls | ⟨-, hcancelled⟩⟩ :=
    task_calls build timer events hcounts hfits task htask
  · exact ⟨n, hle, hcalls⟩
  · rw [hcurrent] at hcancelled
    exact absurd hcancelled ((traced_run build timer events).token_live hthere)

end TimerOwner

end Slim
