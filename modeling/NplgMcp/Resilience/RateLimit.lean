import Mathlib.Algebra.Order.Field.Rat
import NplgMcp.Library.Pacing
import NplgMcp.Library.Run

/-!
# The rate of upstream requests

`AsyncRateLimiter` of `rate_limit.py`. One limiter is shared by all callers of a process; its lock is
held from the first look at the clock to the second, and the only wait in between is that of the
sleeper, which may raise: a cancelled caller leaves the slot it was waiting for to the next one. A
run is any order in which callers come to the lock, sleep, return or are cancelled, with what the
clock shows them. Floating-point rounding is left out.
-/

open Library

namespace NplgMcp

/-- `AsyncRateLimiter`, with the check of `__post_init__`. -/
structure AsyncRateLimiter where
  ratePerSecond : ℚ
  rate_pos : 0 < ratePerSecond

namespace AsyncRateLimiter

/-- `interval`. -/
def interval (limiter : AsyncRateLimiter) : ℚ := 1 / limiter.ratePerSecond

theorem interval_pos (limiter : AsyncRateLimiter) : 0 < limiter.interval :=
  one_div_pos.2 limiter.rate_pos

end AsyncRateLimiter

/-- The limiter among its callers: `_next_allowed`, what the caller that holds the lock and sleeps is
scheduled for, the clock when it was last read, and the calls that have returned, newest first. -/
structure RateSystem where
  nextAllowed : ℚ
  sleeping : Option ℚ
  clock : ℚ
  starts : List (Paced ℚ)
  deriving DecidableEq, Repr

/-- What happens to a caller, with what the clock shows it. -/
inductive RateAction where
  /-- `acquire`, from the lock to the sleeper or, without a delay, to the end -/
  | acquire (now observed : ℚ)
  /-- the sleeper returns -/
  | wake (observed : ℚ)
  /-- the sleeper raises -/
  | cancel
  deriving DecidableEq, Repr

namespace RateSystem

variable (limiter : AsyncRateLimiter)

/-- A limiter nobody has called. -/
def new (clock : ℚ) : RateSystem := ⟨0, none, clock, []⟩

/-- The end of `acquire`: the second look at the clock. -/
def reserve (s : RateSystem) (scheduled observed : ℚ) : RateSystem :=
  { nextAllowed := max scheduled observed + limiter.interval
    sleeping := none
    clock := observed
    starts := ⟨observed, max scheduled observed⟩ :: s.starts }

/-- One step. A caller that finds the lock taken waits. -/
def step (s : RateSystem) : RateAction → RateSystem
  | .acquire now observed =>
    match s.sleeping with
    | some _ => s
    | none =>
      let scheduled := max now s.nextAllowed
      let delay := scheduled - now
      if delay > 0 then { s with sleeping := some scheduled, clock := now }
      else s.reserve limiter scheduled observed
  | .wake observed =>
    match s.sleeping with
    | none => s
    | some scheduled => s.reserve limiter scheduled observed
  | .cancel => { s with sleeping := none }

/-- The clock does not run backwards, and the sleeper returns at most `early` too early. -/
def Timely (early : ℚ) (s : RateSystem) : RateAction → Prop
  | .acquire now observed => s.sleeping = none → s.clock ≤ now ∧ now ≤ observed
  | .wake observed => s.clock ≤ observed ∧ ∀ scheduled ∈ s.sleeping, scheduled ≤ observed + early
  | .cancel => True

instance (early : ℚ) (s : RateSystem) : ∀ action, Decidable (s.Timely early action)
  | .acquire now observed =>
    inferInstanceAs (Decidable (s.sleeping = none → s.clock ≤ now ∧ now ≤ observed))
  | .wake observed => inferInstanceAs
    (Decidable (s.clock ≤ observed ∧ ∀ scheduled ∈ s.sleeping, scheduled ≤ observed + early))
  | .cancel => .isTrue trivial

variable {limiter} {early scheduled observed : ℚ} {s : RateSystem}

/-- What holds in every state: the calls that have returned are paced, the next one is allowed an
interval after the last, whoever sleeps does so for no less, and nobody is sent further ahead of the
clock than an interval and what the sleeper may be early by. -/
structure Inv (limiter : AsyncRateLimiter) (early : ℚ) (s : RateSystem) : Prop where
  paced : IsPaced limiter.interval early s.starts
  next : ∀ start ∈ s.starts, start.slot + limiter.interval ≤ s.nextAllowed
  scheduled : ∀ scheduled ∈ s.sleeping, s.nextAllowed ≤ scheduled
  ahead : s.nextAllowed ≤ s.clock + limiter.interval + early
  asleep : ∀ scheduled ∈ s.sleeping, scheduled ≤ s.clock + limiter.interval + early

theorem inv_new {clock : ℚ} (hclock : 0 ≤ clock) (hearly : 0 ≤ early) :
    (new clock).Inv limiter early where
  paced := isPaced_nil
  next := nofun
  scheduled := nofun
  ahead := by
    have hpos := limiter.interval_pos
    show 0 ≤ clock + limiter.interval + early
    linarith
  asleep := nofun

/-- A call that returns takes the slot it was scheduled for. -/
theorem Inv.reserve (h : s.Inv limiter early) (hnext : s.nextAllowed ≤ scheduled)
    (hearly : 0 ≤ early) (hsoon : scheduled ≤ observed + early) :
    (s.reserve limiter scheduled observed).Inv limiter early where
  paced := by
    refine h.paced.cons (fun older holder => ?_) ⟨le_max_right _ _, max_le hsoon (by linarith)⟩
    exact ((h.next older holder).trans hnext).trans (le_max_left _ _)
  next := by
    refine List.forall_mem_cons.2 ⟨le_rfl, fun older holder => ?_⟩
    have hpos := limiter.interval_pos
    have hslot : older.slot + limiter.interval ≤ max scheduled observed :=
      ((h.next older holder).trans hnext).trans (le_max_left _ _)
    show older.slot + limiter.interval ≤ max scheduled observed + limiter.interval
    linarith
  scheduled := nofun
  ahead := by
    have hslot : max scheduled observed ≤ observed + early := max_le hsoon (by linarith)
    show max scheduled observed + limiter.interval ≤ observed + limiter.interval + early
    linarith
  asleep := nofun

/-- Every step keeps the invariant. -/
theorem Inv.step (h : s.Inv limiter early) (hearly : 0 ≤ early) {action : RateAction}
    (htimely : s.Timely early action) : (s.step limiter action).Inv limiter early := by
  cases action with
  | acquire now observed =>
      unfold RateSystem.step
      cases hsleeping : s.sleeping with
      | some other => exact h
      | none =>
          obtain ⟨hnow, hobserved⟩ := htimely hsleeping
          have hpos := limiter.interval_pos
          dsimp only
          split
          · refine ⟨h.paced, h.next, ?_, ?_, ?_⟩
            · rintro scheduled ⟨⟩
              exact le_max_right _ _
            · have hahead := h.ahead
              show s.nextAllowed ≤ now + limiter.interval + early
              linarith
            · rintro scheduled ⟨⟩
              have hahead := h.ahead
              exact max_le (by linarith) (by linarith)
          · rename_i hdelay
            refine h.reserve (le_max_right _ _) hearly ?_
            linarith
  | wake observed =>
      unfold RateSystem.step
      cases hsleeping : s.sleeping with
      | none => exact h
      | some scheduled =>
          exact h.reserve (h.scheduled scheduled hsleeping) hearly
            (htimely.2 scheduled hsleeping)
  | cancel => exact ⟨h.paced, h.next, nofun, h.ahead, nofun⟩

/-- The invariant of a run. -/
theorem inv_run {clock : ℚ} (hclock : 0 ≤ clock) (hearly : 0 ≤ early) {run : List RateAction}
    (hrun : Along (Timely early) (step limiter) (new clock) run) :
    (run.foldl (step limiter) (new clock)).Inv limiter early :=
  foldl_invariant (fun _ _ htimely hinv => hinv.step hearly htimely) (inv_new hclock hearly) hrun

/-- **The rate is kept.** However callers interleave and whoever is cancelled, fewer calls return in
a window than the rate allows in it, with what the sleeper may be early by, and one; and nobody is
put to sleep for longer than an interval and what the sleeper may be early by. -/
theorem rate_kept {clock : ℚ} (hclock : 0 ≤ clock) (hearly : 0 ≤ early) {run : List RateAction}
    (hrun : Along (Timely early) (step limiter) (new clock) run) :
    (∀ start width : ℚ, 0 ≤ width →
      ((run.foldl (step limiter) (new clock)).starts.countP fun call =>
          start ≤ call.time ∧ call.time < start + width : ℚ) <
        (width + early) * limiter.ratePerSecond + 1) ∧
      ∀ scheduled ∈ (run.foldl (step limiter) (new clock)).sleeping,
        scheduled - (run.foldl (step limiter) (new clock)).clock ≤ limiter.interval + early := by
  have hinv := inv_run hclock hearly hrun
  refine ⟨fun start width hwidth => ?_, fun scheduled hscheduled => ?_⟩
  · have hcount := hinv.paced.count_lt limiter.interval_pos hearly start hwidth
    have hrate : limiter.interval * limiter.ratePerSecond = 1 :=
      one_div_mul_cancel limiter.rate_pos.ne'
    have hscaled := mul_lt_mul_of_pos_right hcount limiter.rate_pos
    rw [mul_assoc, hrate, mul_one, add_mul, hrate] at hscaled
    exact hscaled
  · have hasleep := hinv.asleep scheduled hscheduled
    linarith

/-- Two requests a second. -/
def twoPerSecond : AsyncRateLimiter := ⟨2, by norm_num⟩

/-- The second caller is cancelled in its sleep, the third is woken a hundredth too early, and the
fourth sleeps. -/
def cancelledRun : List RateAction :=
  [.acquire 10 10, .acquire (101 / 10) (101 / 10), .cancel, .acquire (102 / 10) (102 / 10),
    .wake (1049 / 100), .acquire (105 / 10) (105 / 10)]

theorem rate_kept_cancelled :
    ((cancelledRun.foldl (step twoPerSecond) (new 0)).starts.countP fun call =>
        (10 : ℚ) ≤ call.time ∧ call.time < 10 + 1 : ℚ) < (1 + 1 / 100) * 2 + 1 ∧
      ∀ scheduled ∈ (cancelledRun.foldl (step twoPerSecond) (new 0)).sleeping,
        scheduled - (cancelledRun.foldl (step twoPerSecond) (new 0)).clock ≤
          twoPerSecond.interval + 1 / 100 := by
  have hrun : Along (Timely (1 / 100)) (step twoPerSecond) (new 0) cancelledRun := by
    decide +kernel
  have hkept := rate_kept le_rfl (by norm_num) hrun
  exact ⟨hkept.1 10 1 zero_le_one, hkept.2⟩

end RateSystem

end NplgMcp
