/-
# `LocStack.Timer.Timeout` — when a timer is due

loc_timer_start takes its milliseconds as 64 bits, and LocTimer::start as 32.
What is left of them is added to the boot clock without loss.
-/
import LocStack.Timer.Steps

namespace LocStack.Timer

def Timespec.nanos (t : Timespec) : Int := t.tv_sec * 1000000000 + t.tv_nsec

/-- `loc_timer_start` with a callback; `client` is the new LocTimerWrapper. -/
def Timers.loc_timer_start (s : Timers) (client : Nat) (msec : UInt64) (wake_on_expire : Bool) :
    Timers × Option LocTimerDelegate :=
  s.start client msec.toUInt32 wake_on_expire

/-- So many milliseconds after `now`. -/
def Timespec.IsAfter (now : Timespec) (msec : Nat) (t : Timespec) : Prop :=
  t.Normalized ∧ t.nanos = now.nanos + 1000000 * msec
  deriving Decidable

variable {now t : Timespec} {m n : Nat}

theorem LocTimer.futureTime_isAfter (h : now.Normalized) (ms : UInt32) :
    now.IsAfter ms.toNat (futureTime now ms) := by
  obtain ⟨hsec, hmin, hmax⟩ := h
  simp only [futureTime, Timespec.IsAfter, Timespec.Normalized, Timespec.nanos]
  split <;> simp only <;> omega

theorem Timespec.IsAfter.inj (h : now.IsAfter m t) (h' : now.IsAfter n t) : m = n := by
  have hsum := h.2.symm.trans h'.2
  omega

namespace Timers

variable {s : Timers} {client : Nat}

/-- The timer of a timeout of 64 bits is due when it should be exactly if 32
bits can hold it, and that of one of 32 bits always. -/
theorem loc_timer_start_due_iff (hnow : s.now.Normalized) (hnew : s.mTimer client = none)
    (wake : Bool) :
    (∀ msec, (∃ timer, (s.loc_timer_start client msec wake).2 = some timer ∧
        s.now.IsAfter msec.toNat timer.mFutureTime) ↔ msec.toNat < 4294967296) ∧
      ∀ ms, ∃ timer, (s.start client ms wake).2 = some timer ∧
        s.now.IsAfter ms.toNat timer.mFutureTime := by
  have hall : ∀ ms, (s.start client ms wake).2 = some ⟨s.nextId, LocTimer.futureTime s.now ms⟩ :=
    fun ms => congrArg Prod.snd (start_of_none hnew)
  refine ⟨fun msec => ?_, fun ms => ⟨_, hall ms, LocTimer.futureTime_isAfter hnow ms⟩⟩
  have hlow : msec.toUInt32.toNat = msec.toNat % 4294967296 := rfl
  have hstart := hall msec.toUInt32
  have hafter := LocTimer.futureTime_isAfter hnow msec.toUInt32
  constructor
  · rintro ⟨timer, htimer, hdue⟩
    obtain rfl := Option.some.inj (hstart.symm.trans htimer)
    have heq := hafter.inj hdue
    omega
  · intro h
    rw [hlow, Nat.mod_eq_of_lt h] at hafter
    exact ⟨_, hstart, hafter⟩

theorem loc_timer_start_due_new : ∃ timer, (new.loc_timer_start 0 5000 false).2 = some timer ∧
      new.now.IsAfter 5000 timer.mFutureTime :=
  ((loc_timer_start_due_iff (s := new) (by decide) rfl false).1 5000).mpr (by decide)

/-- 2³² milliseconds are none. -/
theorem not_due_wrapped : ¬ ∃ timer, (new.loc_timer_start 0 4294967296 false).2 = some timer ∧
      new.now.IsAfter 4294967296 timer.mFutureTime := by
  rintro ⟨timer, htimer, hdue⟩
  obtain rfl := Option.some.inj htimer
  revert hdue
  decide

end Timers

end LocStack.Timer
