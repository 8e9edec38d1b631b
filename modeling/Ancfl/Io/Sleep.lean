/-
  The hooked `sleep`, `usleep` and `nanosleep` (hook.cc): a timer resumes the
  fiber, and the time to sleep becomes its period in milliseconds.

  * `sleep` multiplies in 32 bits, `usleep` rounds down, `nanosleep` rounds down
    and converts to `int`;
  * `sleep_iff`, `usleep_iff`, `nanosleep_iff`: for which arguments the period is
    not shorter than the time asked for.
-/
import Ancfl.Lib.Int32

namespace Ancfl.Hook

open Lib

/-- What a call does before the fiber yields, if it yields. -/
inductive Wait
  /-- the function of the library is called instead -/
  | original
  /-- `iom->addTimer(ms, ...)` -/
  | addTimer (ms : ℕ)
deriving DecidableEq

structure timespec where
  tv_sec : BitVec 64
  tv_nsec : BitVec 64

/-- `loaded`: the pointer `sleep_f` is not null. -/
def sleep (t_hook_enable loaded : Bool) (seconds : BitVec 32) : Wait :=
  if !t_hook_enable || !loaded then .original else .addTimer (seconds * 1000).toNat

def usleep (t_hook_enable loaded : Bool) (usec : BitVec 32) : Wait :=
  if !t_hook_enable || !loaded then .original else .addTimer (usec / 1000).toNat

/-- An overflow of a `long` has no defined behaviour. -/
def nanosleep (t_hook_enable loaded : Bool) (req : timespec) : Option Wait :=
  if !t_hook_enable || !loaded then some .original
  else
    let ms := req.tv_sec.toInt * 1000
    let sum := ms + req.tv_nsec.toInt.tdiv 1000000
    if Fits64 ms ∧ Fits64 sum then
      let timeout_ms := toInt32 sum
      some (.addTimer (toUInt64 timeout_ms))
    else none

/-- The period of the timer, if there is one, is not shorter than `ns` nanoseconds. -/
def Wait.LongEnough (w : Wait) (ns : ℤ) : Prop := ∀ ms, w = .addTimer ms → ns ≤ ms * 1000000

theorem longEnough_addTimer {ms : ℕ} {ns : ℤ} :
    (Wait.addTimer ms).LongEnough ns ↔ ns ≤ ms * 1000000 := by
  refine ⟨fun h => h ms rfl, fun h ms' heq => ?_⟩
  cases heq
  exact h

theorem sleep_iff (seconds : BitVec 32) :
    (sleep true true seconds).LongEnough (seconds.toNat * 1000000000) ↔ seconds.toNat ≤ 4294967 := by
  have hlt := seconds.isLt
  have hms : (seconds * 1000).toNat = seconds.toNat * 1000 % 2 ^ 32 := BitVec.toNat_mul _ _
  rw [show sleep true true seconds = .addTimer _ from rfl, longEnough_addTimer, hms]
  omega

theorem usleep_iff (usec : BitVec 32) :
    (usleep true true usec).LongEnough (usec.toNat * 1000) ↔ usec.toNat % 1000 = 0 := by
  have hms : (usec / 1000).toNat = usec.toNat / 1000 := BitVec.toNat_udiv
  rw [show usleep true true usec = .addTimer _ from rfl, longEnough_addTimer, hms]
  omega

/-- The time asked for in whole milliseconds. -/
def timespec.millis (req : timespec) : ℤ := req.tv_sec.toInt * 1000 + req.tv_nsec.toInt / 1000000

/-- The time asked for in nanoseconds. -/
def timespec.nanos (req : timespec) : ℤ := req.tv_sec.toInt * 1000000000 + req.tv_nsec.toInt

def timespec.Normalised (req : timespec) : Prop := 0 ≤ req.tv_nsec.toInt ∧ req.tv_nsec.toInt < 1000000000

/-- `nanosleep` is defined, and does not sleep too short. -/
def NanosleepRight (req : timespec) : Prop :=
  ∃ w, nanosleep true true req = some w ∧ w.LongEnough req.nanos

/-- The milliseconds are a `long`, and a time that is not negative either is whole milliseconds that are
    an `int`, or becomes an `int` that is negative. -/
def timespec.Sleepable (req : timespec) : Prop :=
  -(2 ^ 63) ≤ req.tv_sec.toInt * 1000 ∧ req.millis < 2 ^ 63 ∧
    (req.tv_sec.toInt < 0 ∨ 2 ^ 31 ≤ req.millis % 2 ^ 32 ∨
      (req.millis < 2 ^ 31 ∧ req.tv_nsec.toInt % 1000000 = 0))

/-- The period that an `int` becomes. -/
theorem period_cases (x : ℤ) :
    (x % 2 ^ 32 < 2 ^ 31 ∧ (toUInt64 (toInt32 x) : ℤ) = x % 2 ^ 32) ∨
      (2 ^ 31 ≤ x % 2 ^ 32 ∧ (toUInt64 (toInt32 x) : ℤ) = x % 2 ^ 32 + (2 ^ 64 - 2 ^ 32)) := by
  rw [toUInt64_cast, toInt32, Int.bmod_def]
  split_ifs <;> omega

theorem nanosleep_iff {req : timespec} (h : req.Normalised) : NanosleepRight req ↔ req.Sleepable := by
  obtain ⟨hnsec, hlt⟩ := h
  have hdiv : req.tv_nsec.toInt.tdiv 1000000 = req.tv_nsec.toInt / 1000000 :=
    Int.tdiv_eq_ediv_of_nonneg hnsec
  by_cases hfits : Fits64 (req.tv_sec.toInt * 1000) ∧ Fits64 req.millis
  · have hret : nanosleep true true req = some (.addTimer (toUInt64 (toInt32 req.millis))) := by
      simp only [nanosleep, Bool.not_true, Bool.or_false, Bool.false_eq_true, if_false, hdiv]
      exact if_pos hfits
    have hright : NanosleepRight req ↔ req.nanos ≤ (toUInt64 (toInt32 req.millis) : ℤ) * 1000000 := by
      rw [← longEnough_addTimer, NanosleepRight, hret]
      simp
    rw [hright, timespec.Sleepable, timespec.nanos]
    simp only [Fits64, timespec.millis] at hfits ⊢
    rcases period_cases (req.tv_sec.toInt * 1000 + req.tv_nsec.toInt / 1000000) with ⟨hmod, hms⟩ | ⟨hmod, hms⟩
    · rw [hms]
      omega
    · rw [hms]
      omega
  · have hnone : nanosleep true true req = none := by
      simp only [nanosleep, Bool.not_true, Bool.or_false, Bool.false_eq_true, if_false, hdiv]
      exact if_neg hfits
    refine iff_of_false ?_ fun hsleep => hfits ?_
    · rintro ⟨w, hw, -⟩
      rw [hnone] at hw
      cases hw
    · obtain ⟨hlow, hhigh, -⟩ := hsleep
      simp only [Fits64, timespec.millis] at hhigh ⊢
      omega

/-- **The hooked sleeps are long enough** for these arguments: seconds that are milliseconds in 32 bits,
    and times of whole milliseconds that are an `int`, or, by chance, become a negative one. -/
theorem sleeps_iff (seconds usec : BitVec 32) {req : timespec} (h : req.Normalised) :
    ((sleep true true seconds).LongEnough (seconds.toNat * 1000000000) ↔ seconds.toNat ≤ 4294967) ∧
    ((usleep true true usec).LongEnough (usec.toNat * 1000) ↔ usec.toNat % 1000 = 0) ∧
    (NanosleepRight req ↔ req.Sleepable) :=
  ⟨sleep_iff seconds, usleep_iff usec, nanosleep_iff h⟩

/-- Two seconds, two milliseconds, one second and a half. -/
theorem sleeps_two :
    (sleep true true 2).LongEnough (2 * 1000000000) ∧ (usleep true true 2000).LongEnough (2000 * 1000) ∧
      NanosleepRight ⟨1, 500000000⟩ := by
  have hnsec : (500000000 : BitVec 64).toInt = 500000000 := rfl
  have hsec : (1 : BitVec 64).toInt = 1 := rfl
  have hnormal : timespec.Normalised ⟨1, 500000000⟩ := by
    simp only [timespec.Normalised, hnsec]
    omega
  obtain ⟨hsleep, husleep, hnanosleep⟩ := sleeps_iff 2 2000 hnormal
  refine ⟨hsleep.2 ?_, husleep.2 rfl, hnanosleep.2 ?_⟩
  · exact Nat.le_of_ble_eq_true rfl
  · simp only [timespec.Sleepable, timespec.millis, hnsec, hsec]
    omega

/-- **Half a millisecond becomes a timer that is due at once.** -/
theorem not_longEnough : ¬∀ (seconds usec : BitVec 32) (req : timespec), req.Normalised →
    (sleep true true seconds).LongEnough (seconds.toNat * 1000000000) ∧
      (usleep true true usec).LongEnough (usec.toNat * 1000) ∧ NanosleepRight req := by
  intro h
  have hnormal : timespec.Normalised ⟨0, 0⟩ := ⟨le_rfl, by decide⟩
  cases (usleep_iff 500).1 (h 0 500 _ hnormal).2.1

end Ancfl.Hook
