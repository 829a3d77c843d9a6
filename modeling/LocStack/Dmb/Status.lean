/-
# `LocStack.Dmb.Status` — what a call returns when its transaction fails

A transaction has a status of its own.  BpDmb::callInt does not look at it and
returns what it reads from the reply, which is empty when the transaction has
failed: a read past the end gives 0, which is NO_ERROR.

    the remote is dead             DEAD_OBJECT           nothing
    the code is not known          UNKNOWN_TRANSACTION   nothing
    the token is another one       PERMISSION_DENIED     nothing

The functions of the library above return it as it is.  They say -1 when the
Dmb object is not connected or the descriptor is not one, and then there is no
transaction.

`failure_lost`: no method that returns a status, and no function above it, says
that the transaction has failed.
-/
import LocStack.Dmb.Interfaces

namespace LocStack.Dmb

open Base
open Parcel

/-! ## The calls -/

/-- The int that a call returns, of those that return one. -/
def RetKind.int32? : (k : RetKind) → k.Value → Option Int32
  | .int32, v => some v
  | _, _ => none

/-- The status that BpDmb returns. -/
def DmbCall.status (transact : Transact) (c : DmbCall) : Option Int32 :=
  (dmb.call transact c).bind (RetKind.int32? (dmb.kind c))

/-- The methods whose int says whether they have succeeded. -/
def DmbCall.ReturnsStatus (c : DmbCall) : Prop :=
  c.kind = .int32 ∧ c ≠ getDuration ∧ c ≠ getPosition

/-- The transaction of this call fails: it has a status, and no reply. -/
def Fails (transact : Transact) (c : DmbCall) : Prop :=
  ∀ data, dmb.request c = some data →
    (transact c.code data).1 ≠ NO_ERROR ∧ (transact c.code data).2 = []

/-- `NO_ERROR` is not what is returned. -/
def ReportsFailure (returned : Option Int32) : Prop := ∃ v, returned = some v ∧ v ≠ NO_ERROR

/-- The functions of the library that return what such a method does. -/
inductive JniCall where
  | dmb_record (mode : Int32) (path : Option CStr) (duration : Int64)
  | dmb_record_fd (mode fd : Int32) (duration : Int64)
  | dmb_setMuteStatus (mute : Int32)
  | dmb_resume (arg : Int32)
  | dmb_pauseForRecord (arg : Int32)
  | dmb_resumeForRecord (arg : Int32)
  | dmb_fastForward (speed : Int32)
  | dmb_rewind (speed : Int32)
  | dmb_getCASStatus

namespace JniCall

/-- The method that is called; none if the file descriptor is not one. -/
def method : JniCall → Option DmbCall
  | dmb_record mode path duration =>
    some (.record mode (some (path.getD ⟨[], List.not_mem_nil⟩)) duration)
  | dmb_record_fd mode fd duration => if fd < 0 then none else some (.recordFd mode fd duration)
  | dmb_setMuteStatus mute => some (.setMuteStatus mute)
  | dmb_resume arg => some (.resume arg)
  | dmb_pauseForRecord arg => some (.pauseForBackgroundRecord arg)
  | dmb_resumeForRecord arg => some (.resumeForBackgroundRecord arg)
  | dmb_fastForward speed => some (.fastForward speed)
  | dmb_rewind speed => some (.rewind speed)
  | dmb_getCASStatus => some .getCASStatus

/-- What it returns; `dmbOf` is `none` when the object is not connected. -/
def returned (dmbOf : Option Transact) (j : JniCall) : Option Int32 :=
  match dmbOf, j.method with
  | none, _ => some (-1)
  | some _, none => some (-1)
  | some transact, some c => c.status transact

end JniCall

/-! ## Ways to fail -/

def remoteDead : Transact := fun _ _ => (DEAD_OBJECT, [])

theorem deadObject_ne : DEAD_OBJECT ≠ NO_ERROR := by decide

theorem fails_remoteDead (c : DmbCall) : Fails remoteDead c := fun _ _ => ⟨deadObject_ne, rfl⟩

/-! ## What is returned -/

theorem not_reportsFailure {transact : Transact} {c : DmbCall} (h : Fails transact c) :
    ¬ ReportsFailure (c.status transact) := by
  rintro ⟨v, hv, hne⟩
  unfold DmbCall.status Interface.call at hv
  cases hdata : dmb.request c with
  | none => rw [hdata] at hv; cases hv
  | some data =>
    have hreply : (transact (dmb.code c) data).2 = [] := (h data hdata).2
    rw [hdata, Option.map_some, hreply] at hv
    change RetKind.int32? c.kind (readReply c.kind []) = some v at hv
    revert hv
    cases c.kind with
    | int32 => exact fun hv => hne (Option.some.inj hv).symm
    | void | int64 | binder => exact nofun

/-- Neither the method nor the function above it says that the transaction has
failed, whichever of them returns a status and however it fails. -/
theorem failure_lost {c : DmbCall} (_ : c.ReturnsStatus) {transact : Transact}
    (h : Fails transact c) :
    ¬ ReportsFailure (c.status transact) ∧
      ∀ j : JniCall, j.method = some c → ¬ ReportsFailure (j.returned (some transact)) := by
  refine ⟨not_reportsFailure h, fun j hj => ?_⟩
  have hreturned : j.returned (some transact) = c.status transact := by
    unfold JniCall.returned
    rw [hj]
  rw [hreturned]
  exact not_reportsFailure h

theorem failure_lost_record :
    ¬ ReportsFailure ((DmbCall.record 1 (some ⟨[47], by decide⟩) 0).status remoteDead) :=
  (failure_lost (c := .record 1 (some ⟨[47], by decide⟩) 0) ⟨rfl, nofun, nofun⟩
    (fails_remoteDead _)).1

/-- The service has died, and resume says NO_ERROR. -/
theorem not_forall_reportsFailure :
    ¬ ∀ (c : DmbCall) (transact : Transact), c.ReturnsStatus → Fails transact c →
      ReportsFailure (c.status transact) := by
  intro h
  obtain ⟨v, hv, hne⟩ := h (.resume 0) remoteDead ⟨rfl, nofun, nofun⟩ (fails_remoteDead _)
  exact hne (Option.some.inj hv).symm

end LocStack.Dmb
