/-
# `LocStack.Gnss.GpsLock` — the lock of the modem and NFW control

`mGps_conf.GPS_LOCK` has two meanings.  While NFW control is supported it is
the state of the modem's lock, one bit for mobile originated (MO) and one
for network initiated (NI) requests.  The first update of GPS_LOCK withdraws
the support, and from then on it is the mask that the modem gets while Gnss
is disabled; while it is enabled nothing is locked.

    enableCommand             unlocks MO, or all
    disableCommand            locks MO, or gives the mask
    nfwControlCommand         sets NI
    gnssUpdateConfigCommand   a new mask, and no NFW control
    handleEngineUpEvent       gives what the modem is to have

The commands are messages to the adapter's thread.  Whether NFW control is
supported is asked where `nfwControlCommand` is called, so its message may
find the support gone.  `locked_iff_fits`: from the first enable or disable on
the modem has the lock it is to have, in every state of a run, if and only
if no such message locks what is enabled or spoils a mask that is used.
-/
import LocStack.Gnss.Config

namespace LocStack.Gnss

open Base Tracking List

open Adapter (EngineLockState)

def GNSS_CONFIG_GPS_LOCK_NI : BitVec 32 := 2

def LOCATION_TECHNOLOGY_TYPE_GNSS : Nat := 0

/-- The messages that read or write the lock, under their structs' names; of
a MsgGnssUpdateConfig only the lock, which it need not have. -/
inductive LockMsg where
  | enableGnss (sessionId techType : Nat)
  | disableGnss (sessionId : Nat)
  | controlNfwLocationAccess (enable : Bool)
  | gnssUpdateConfig (gpsLock : Option (BitVec 32))
  | handleEngineUpEvent

/-- The id of an enable is that of a session. -/
def LockMsg.Named : LockMsg → Prop
  | .enableGnss sessionId _ => sessionId ≠ 0
  | _ => True

/-- What LocApi, the Xtra observer and the control client hear. -/
inductive LockOut where
  | setGpsLockSync (lock : BitVec 32)
  | updateLockStatus (lock : BitVec 32)
  | modemPowerVote (power : Bool)
  | reportResponse (err : LocationError) (sessionId : Nat)

inductive LockEvent where
  | enableCommand (techType : Nat)
  | disableCommand (id : Nat)
  | nfwControlCommand (enable : Bool)
  | gnssUpdateConfigCommand (gpsLock : Option (BitVec 32))
  | handleEngineUpEvent
  | engineLockState (state : EngineLockState)
  /-- Another command takes a session id. -/
  | generateSessionId
  /-- The thread takes the next message. -/
  | proc
  deriving DecidableEq

structure LockAdapter where
  mAfwControlId : Nat
  mSupportNfwControl : Bool
  /-- `ContextBase::mGps_conf.GPS_LOCK` -/
  GPS_LOCK : BitVec 32
  engineCapabilitiesKnown : Bool
  engineLockState : EngineLockState
  mSessionIdCounter : Fin 0xFFFFFFFF
  (mPendingMsgs mMsgTask : List LockMsg)

namespace LockAdapter

variable (s : LockAdapter)

/-- A new adapter, with the lock of gps.conf. -/
def new (GPS_LOCK : BitVec 32) (engineCapabilitiesKnown : Bool)
    (mSessionIdCounter : Fin 0xFFFFFFFF) :
    LockAdapter where
  mAfwControlId := 0
  mSupportNfwControl := true
  GPS_LOCK := GPS_LOCK
  engineCapabilitiesKnown := engineCapabilitiesKnown
  engineLockState := .enabled
  mSessionIdCounter := mSessionIdCounter
  mPendingMsgs := []
  mMsgTask := []

def sendMsg (msg : LockMsg) : LockAdapter := { s with mMsgTask := s.mMsgTask ++ [msg] }

/-- `MsgEnableGnss::proc` -/
def procEnable (mSessionId mTechType : Nat) : LockAdapter × List LockOut :=
  if mTechType ≠ LOCATION_TECHNOLOGY_TYPE_GNSS then
    (s, [.reportResponse .invalidParameter mSessionId])
  else if 0 < s.mAfwControlId then (s, [.reportResponse .alreadyStarted mSessionId])
  else
    let GPS_LOCK := if s.mSupportNfwControl = true then s.GPS_LOCK &&& GNSS_CONFIG_GPS_LOCK_NI
      else s.GPS_LOCK
    let gpsLock := if s.mSupportNfwControl = true then GPS_LOCK else GNSS_CONFIG_GPS_LOCK_NONE
    ({ s with mAfwControlId := mSessionId, GPS_LOCK := GPS_LOCK },
      [.modemPowerVote true, .setGpsLockSync gpsLock, .updateLockStatus gpsLock,
        .reportResponse .success mSessionId])

/-- `MsgDisableGnss::proc` -/
def procDisable (mSessionId : Nat) : LockAdapter × List LockOut :=
  if s.mAfwControlId ≠ mSessionId then (s, [.reportResponse .idUnknown mSessionId])
  else
    let GPS_LOCK := if s.mSupportNfwControl = true then s.GPS_LOCK ||| GNSS_CONFIG_GPS_LOCK_MO
      else s.GPS_LOCK
    ({ s with mAfwControlId := 0, GPS_LOCK := GPS_LOCK },
      [.modemPowerVote false, .setGpsLockSync GPS_LOCK, .updateLockStatus GPS_LOCK,
        .reportResponse .success mSessionId])

/-- GPS_LOCK with NI unlocked or locked. -/
def nfwLock (GPS_LOCK : BitVec 32) (mEnable : Bool) : BitVec 32 :=
  if mEnable = true then GPS_LOCK &&& ~~~GNSS_CONFIG_GPS_LOCK_NI
  else GPS_LOCK ||| GNSS_CONFIG_GPS_LOCK_NI

/-- `MsgControlNfwLocationAccess::proc`.  It does not ask for the support. -/
def procNfw (mEnable : Bool) : LockAdapter × List LockOut :=
  ({ s with GPS_LOCK := nfwLock s.GPS_LOCK mEnable },
    [.setGpsLockSync (nfwLock s.GPS_LOCK mEnable)])

/-- The part of ConfigAdapter that the lock depends on. -/
def config : ConfigAdapter where
  engineCapabilitiesKnown := s.engineCapabilitiesKnown
  mSessionIdCounter := s.mSessionIdCounter
  afwControlId := s.mAfwControlId
  mSupportNfwControl := s.mSupportNfwControl

/-- `MsgGnssUpdateConfig::proc` -/
def procUpdateConfig (gpsLock : Option (BitVec 32)) : LockAdapter × List LockOut :=
  if s.engineCapabilitiesKnown = false then
    ({ s with mPendingMsgs := s.mPendingMsgs ++ [.gnssUpdateConfig gpsLock] }, [])
  else
    match gpsLock with
    | none => (s, [])
    | some gpsLock =>
      ({ s with GPS_LOCK := gpsLock ||| GNSS_CONFIG_GPS_LOCK_MO, mSupportNfwControl := false },
        if (s.config.newGpsLock gpsLock).2 = true then
          [.setGpsLockSync (s.config.newGpsLock gpsLock).1]
        else [])

/-- The lock that `setConfig` gives. -/
def setConfigLock : BitVec 32 :=
  if s.mSupportNfwControl = true ∨ s.mAfwControlId = 0 then s.GPS_LOCK
  else GNSS_CONFIG_GPS_LOCK_NONE

/-- `MsgHandleEngineUpEvent::proc`.  What is sent again stays parked. -/
def procEngineUp : LockAdapter × List LockOut :=
  ({ s with
      engineCapabilitiesKnown := true
      mMsgTask := s.mMsgTask ++ if s.engineLockState = .enabled then s.mPendingMsgs else [] },
    [.setGpsLockSync s.setConfigLock])

def procMsg : LockMsg → LockAdapter × List LockOut
  | .enableGnss mSessionId mTechType => s.procEnable mSessionId mTechType
  | .disableGnss mSessionId => s.procDisable mSessionId
  | .controlNfwLocationAccess mEnable => s.procNfw mEnable
  | .gnssUpdateConfig gpsLock => s.procUpdateConfig gpsLock
  | .handleEngineUpEvent => s.procEngineUp

def step : LockEvent → LockAdapter × List LockOut
  | .enableCommand techType =>
    let id := generateSessionId s.mSessionIdCounter
    ({ s with mSessionIdCounter := id : LockAdapter }.sendMsg (.enableGnss id.val techType), [])
  | .disableCommand id => (s.sendMsg (.disableGnss id), [])
  | .nfwControlCommand enable =>
    (if s.mSupportNfwControl = true then s.sendMsg (.controlNfwLocationAccess enable) else s, [])
  | .gnssUpdateConfigCommand gpsLock => (s.sendMsg (.gnssUpdateConfig gpsLock), [])
  | .handleEngineUpEvent => (s.sendMsg .handleEngineUpEvent, [])
  | .engineLockState state => ({ s with engineLockState := state }, [])
  | .generateSessionId =>
    ({ s with mSessionIdCounter := Gnss.generateSessionId s.mSessionIdCounter }, [])
  | .proc =>
    match s.mMsgTask with
    | [] => (s, [])
    | msg :: msgs => { s with mMsgTask := msgs : LockAdapter }.procMsg msg

/-! ## What has been said -/

/-- An enable or disable that takes effect. -/
def Effective : LockMsg → Prop
  | .enableGnss _ mTechType => mTechType = LOCATION_TECHNOLOGY_TYPE_GNSS ∧ s.mAfwControlId = 0
  | .disableGnss mSessionId => s.mAfwControlId = mSessionId
  | _ => False

instance : ∀ msg, Decidable (s.Effective msg)
  | .enableGnss _ mTechType =>
    inferInstanceAs (Decidable (mTechType = LOCATION_TECHNOLOGY_TYPE_GNSS ∧ s.mAfwControlId = 0))
  | .disableGnss mSessionId => inferInstanceAs (Decidable (s.mAfwControlId = mSessionId))
  | .controlNfwLocationAccess _ | .gnssUpdateConfig _ | .handleEngineUpEvent => .isFalse not_false

end LockAdapter

/-- The lock last sent, where `sent` was before. -/
def lockAfter (sent : Option (BitVec 32)) : List LockOut → Option (BitVec 32)
  | [] => sent
  | .setGpsLockSync lock :: outs => lockAfter (some lock) outs
  | _ :: outs => lockAfter sent outs

/-- The adapter, and what the commands processed so far have said. -/
structure WatchedLock where
  adapter : LockAdapter
  /-- The modem's lock. -/
  sent : Option (BitVec 32)
  /-- There was an enable or a disable. -/
  begun : Bool
  /-- NI is locked, as was last said. -/
  ni : Bool
  /-- The mask that was last configured. -/
  mask : BitVec 32

namespace WatchedLock

variable (w : WatchedLock)

def new (GPS_LOCK : BitVec 32) (engineCapabilitiesKnown : Bool)
    (mSessionIdCounter : Fin 0xFFFFFFFF) :
    WatchedLock where
  adapter := .new GPS_LOCK engineCapabilitiesKnown mSessionIdCounter
  sent := none
  begun := false
  ni := GPS_LOCK.getLsbD 1
  mask := GPS_LOCK

/-- What processing a message says. -/
def say (msg : LockMsg) : WatchedLock :=
  match msg with
  | .controlNfwLocationAccess mEnable => { w with ni := !mEnable }
  | .gnssUpdateConfig (some gpsLock) =>
    if w.adapter.engineCapabilitiesKnown = true then
      { w with mask := gpsLock ||| GNSS_CONFIG_GPS_LOCK_MO }
    else w
  | .enableGnss .. | .disableGnss _ =>
    { w with begun := w.begun || decide (w.adapter.Effective msg) }
  | .gnssUpdateConfig none | .handleEngineUpEvent => w

def process (msg : LockMsg) : WatchedLock × List LockOut :=
  ({ w.say msg with
      adapter := (w.adapter.procMsg msg).1
      sent := lockAfter w.sent (w.adapter.procMsg msg).2 }, (w.adapter.procMsg msg).2)

def step (e : LockEvent) : WatchedLock × List LockOut :=
  match e, w.adapter.mMsgTask with
  | .proc, msg :: msgs =>
    { w with adapter := { w.adapter with mMsgTask := msgs } : WatchedLock }.process msg
  | e, _ => ({ w with adapter := (w.adapter.step e).1 }, (w.adapter.step e).2)

/-- The modem's lock is what it is to be. -/
def Locked : Prop :=
  w.begun = true →
    if w.adapter.mSupportNfwControl = true then
      w.sent = some w.adapter.GPS_LOCK ∧
        (w.adapter.GPS_LOCK.getLsbD 0 = true ↔ w.adapter.mAfwControlId = 0) ∧
        w.adapter.GPS_LOCK.getLsbD 1 = w.ni
    else
      w.sent = some (if w.adapter.mAfwControlId = 0 then w.mask else GNSS_CONFIG_GPS_LOCK_NONE)

/-- Once the support is gone, the mask is given to the modem only as it was
configured. -/
def KeepsMask : LockMsg → Prop
  | .controlNfwLocationAccess mEnable =>
    w.begun = true →
      w.adapter.mAfwControlId = 0 ∧ LockAdapter.nfwLock w.adapter.GPS_LOCK mEnable = w.mask
  | .disableGnss mSessionId =>
    w.adapter.mAfwControlId = mSessionId → w.adapter.GPS_LOCK = w.mask
  | .handleEngineUpEvent =>
    w.begun = true → w.adapter.mAfwControlId = 0 → w.adapter.GPS_LOCK = w.mask
  | _ => True

/-- The message that is taken keeps the mask. -/
def Fits (e : LockEvent) : Prop :=
  match e, w.adapter.mMsgTask with
  | .proc, msg :: _ => w.adapter.mSupportNfwControl = false → w.KeepsMask msg
  | _, _ => True

/-! ## What always holds -/

structure Sound : Prop where
  /-- Gnss is disabled before the first enable. -/
  disabled : w.begun = false → w.adapter.mAfwControlId = 0
  ni : w.adapter.mSupportNfwControl = true → w.adapter.GPS_LOCK.getLsbD 1 = w.ni
  /-- A mask locks MO. -/
  mo : w.adapter.mSupportNfwControl = false → w.adapter.GPS_LOCK.getLsbD 0 = true

variable {w}

theorem generateSessionId_ne_zero (c : Fin 0xFFFFFFFF) : (generateSessionId c).val ≠ 0 := by
  unfold generateSessionId
  split
  · exact Nat.succ_ne_zero c.val
  · decide

theorem getLsbD_enabled (lock : BitVec 32) : (lock &&& GNSS_CONFIG_GPS_LOCK_NI).getLsbD 0 = false ∧
      (lock &&& GNSS_CONFIG_GPS_LOCK_NI).getLsbD 1 = lock.getLsbD 1 := by
  simp [GNSS_CONFIG_GPS_LOCK_NI]

theorem getLsbD_disabled (lock : BitVec 32) : (lock ||| GNSS_CONFIG_GPS_LOCK_MO).getLsbD 0 = true ∧
      (lock ||| GNSS_CONFIG_GPS_LOCK_MO).getLsbD 1 = lock.getLsbD 1 := by
  simp [GNSS_CONFIG_GPS_LOCK_MO]

theorem getLsbD_nfwLock (lock : BitVec 32) (mEnable : Bool) :
    (LockAdapter.nfwLock lock mEnable).getLsbD 0 = lock.getLsbD 0 ∧
      (LockAdapter.nfwLock lock mEnable).getLsbD 1 = !mEnable := by
  cases mEnable <;> simp [LockAdapter.nfwLock, GNSS_CONFIG_GPS_LOCK_NI]

/-- Nothing that the lock depends on has changed. -/
structure SameLock (w w' : WatchedLock) : Prop where
  begun : w'.begun = w.begun
  support : w'.adapter.mSupportNfwControl = w.adapter.mSupportNfwControl
  lock : w'.adapter.GPS_LOCK = w.adapter.GPS_LOCK
  afw : w'.adapter.mAfwControlId = w.adapter.mAfwControlId
  sent : w'.sent = w.sent
  ni : w'.ni = w.ni
  mask : w'.mask = w.mask

variable {w' : WatchedLock}

theorem SameLock.locked_iff (h : SameLock w w') : w'.Locked ↔ w.Locked := by
  unfold Locked
  rw [h.begun, h.support, h.lock, h.afw, h.sent, h.ni, h.mask]

theorem SameLock.sound (h : SameLock w w') (hs : w.Sound) : w'.Sound where
  disabled := by
    rw [h.begun, h.afw]
    exact hs.disabled
  ni := by
    rw [h.support, h.lock, h.ni]
    exact hs.ni
  mo := by
    rw [h.support, h.lock]
    exact hs.mo

theorem locked_iff_of_supported (h : w.adapter.mSupportNfwControl = true) :
    w.Locked ↔ (w.begun = true → w.sent = some w.adapter.GPS_LOCK ∧
      (w.adapter.GPS_LOCK.getLsbD 0 = true ↔ w.adapter.mAfwControlId = 0) ∧
      w.adapter.GPS_LOCK.getLsbD 1 = w.ni) := by
  unfold Locked
  rw [if_pos h]

theorem locked_iff_of_mask (h : w.adapter.mSupportNfwControl = false) :
    w.Locked ↔ (w.begun = true → w.sent =
      some (if w.adapter.mAfwControlId = 0 then w.mask else GNSS_CONFIG_GPS_LOCK_NONE)) := by
  unfold Locked
  rw [if_neg (ne_true_of_eq_false h)]

/-! ## One message -/

section Process

variable {mSessionId mTechType : Nat}

theorem process_enable_same (h : ¬ w.adapter.Effective (.enableGnss mSessionId mTechType)) :
    SameLock w (w.process (.enableGnss mSessionId mTechType)).1 := by
  have hbegun : (w.process (.enableGnss mSessionId mTechType)).1.begun = w.begun := by
    show (w.begun || decide (w.adapter.Effective _)) = w.begun
    rw [decide_eq_false h, Bool.or_false]
  have hrefused : ∃ err, w.adapter.procEnable mSessionId mTechType =
      (w.adapter, [.reportResponse err mSessionId]) := by
    by_cases htech : mTechType = LOCATION_TECHNOLOGY_TYPE_GNSS
    · have hid : 0 < w.adapter.mAfwControlId :=
        Nat.pos_of_ne_zero fun hzero => h ⟨htech, hzero⟩
      refine ⟨.alreadyStarted, ?_⟩
      rw [LockAdapter.procEnable, if_neg (not_not.mpr htech), if_pos hid]
    · refine ⟨.invalidParameter, ?_⟩
      rw [LockAdapter.procEnable, if_pos htech]
  obtain ⟨err, hproc⟩ := hrefused
  refine ⟨hbegun, ?_, ?_, ?_, ?_, rfl, rfl⟩ <;>
    simp only [process, LockAdapter.procMsg, hproc, lockAfter]

theorem process_enable (h : w.adapter.Effective (.enableGnss mSessionId mTechType)) :
    (w.process (.enableGnss mSessionId mTechType)).1 =
      if w.adapter.mSupportNfwControl = true then
        { w with
          adapter := { w.adapter with
            mAfwControlId := mSessionId
            GPS_LOCK := w.adapter.GPS_LOCK &&& GNSS_CONFIG_GPS_LOCK_NI }
          sent := some (w.adapter.GPS_LOCK &&& GNSS_CONFIG_GPS_LOCK_NI)
          begun := true }
      else
        { w with
          adapter := { w.adapter with mAfwControlId := mSessionId }
          sent := some GNSS_CONFIG_GPS_LOCK_NONE
          begun := true } := by
  have hsay : w.say (.enableGnss mSessionId mTechType) = { w with begun := true } := by
    show ({ w with begun := w.begun || decide (w.adapter.Effective _) } : WatchedLock) = _
    rw [decide_eq_true h, Bool.or_true]
  simp only [process, hsay]
  simp only [LockAdapter.procMsg, LockAdapter.procEnable, h.1, h.2, ne_eq, not_true_eq_false,
    if_false, Nat.lt_irrefl]
  cases w.adapter.mSupportNfwControl <;> rfl

theorem process_disable (h : w.adapter.mAfwControlId = mSessionId) :
    (w.process (.disableGnss mSessionId)).1 =
      if w.adapter.mSupportNfwControl = true then
        { w with
          adapter := { w.adapter with
            mAfwControlId := 0
            GPS_LOCK := w.adapter.GPS_LOCK ||| GNSS_CONFIG_GPS_LOCK_MO }
          sent := some (w.adapter.GPS_LOCK ||| GNSS_CONFIG_GPS_LOCK_MO)
          begun := true }
      else
        { w with
          adapter := { w.adapter with mAfwControlId := 0 }
          sent := some w.adapter.GPS_LOCK
          begun := true } := by
  have hsay : w.say (.disableGnss mSessionId) = { w with begun := true } := by
    show ({ w with begun := w.begun || decide (w.adapter.Effective _) } : WatchedLock) = _
    rw [decide_eq_true (show w.adapter.Effective (.disableGnss mSessionId) from h), Bool.or_true]
  simp only [process, hsay, LockAdapter.procMsg, LockAdapter.procDisable, h, ne_eq,
    not_true_eq_false, if_false]
  cases w.adapter.mSupportNfwControl <;> rfl

theorem process_disable_same (h : w.adapter.mAfwControlId ≠ mSessionId) :
    SameLock w (w.process (.disableGnss mSessionId)).1 := by
  have hbegun : (w.process (.disableGnss mSessionId)).1.begun = w.begun := by
    show (w.begun || decide (w.adapter.Effective _)) = w.begun
    rw [decide_eq_false (show ¬ w.adapter.Effective (.disableGnss mSessionId) from h),
      Bool.or_false]
  have hproc : w.adapter.procDisable mSessionId =
      (w.adapter, [.reportResponse .idUnknown mSessionId]) := by
    rw [LockAdapter.procDisable, if_pos h]
  refine ⟨hbegun, ?_, ?_, ?_, ?_, rfl, rfl⟩ <;>
    simp only [process, LockAdapter.procMsg, hproc, lockAfter]

theorem process_update (h : w.adapter.engineCapabilitiesKnown = true) (gpsLock : BitVec 32) :
    (w.process (.gnssUpdateConfig (some gpsLock))).1 = { w with
        adapter := { w.adapter with
          GPS_LOCK := gpsLock ||| GNSS_CONFIG_GPS_LOCK_MO
          mSupportNfwControl := false }
        sent :=
          if w.adapter.mAfwControlId = 0 then some (gpsLock ||| GNSS_CONFIG_GPS_LOCK_MO)
          else if w.adapter.mSupportNfwControl = true then some GNSS_CONFIG_GPS_LOCK_NONE
          else w.sent
        mask := gpsLock ||| GNSS_CONFIG_GPS_LOCK_MO } := by
  simp only [process, say, LockAdapter.procMsg, LockAdapter.procUpdateConfig, h, if_true,
    Bool.true_eq_false, if_false, ConfigAdapter.newGpsLock, LockAdapter.config]
  by_cases hzero : w.adapter.mAfwControlId = 0
  · simp [hzero, lockAfter]
  · cases w.adapter.mSupportNfwControl <;> simp [hzero, lockAfter]

theorem process_parked (h : w.adapter.engineCapabilitiesKnown = false)
    (gpsLock : Option (BitVec 32)) :
    (w.process (.gnssUpdateConfig gpsLock)).1 =
      { w with adapter := { w.adapter with
          mPendingMsgs := w.adapter.mPendingMsgs ++ [.gnssUpdateConfig gpsLock] } } := by
  cases gpsLock <;>
    simp [process, say, LockAdapter.procMsg, LockAdapter.procUpdateConfig, h, lockAfter]

theorem process_no_lock : SameLock w (w.process (.gnssUpdateConfig none)).1 := by
  cases hknown : w.adapter.engineCapabilitiesKnown with
  | false =>
    rw [process_parked hknown]
    exact ⟨rfl, rfl, rfl, rfl, rfl, rfl, rfl⟩
  | true =>
    have hproc : w.adapter.procUpdateConfig none = (w.adapter, []) := by
      simp only [LockAdapter.procUpdateConfig, hknown, Bool.true_eq_false, if_false]
    refine ⟨rfl, ?_, ?_, ?_, ?_, rfl, rfl⟩ <;>
      simp only [process, LockAdapter.procMsg, hproc, lockAfter]

theorem Sound.process (hs : w.Sound) (msg : LockMsg) : (w.process msg).1.Sound := by
  cases msg with
  | enableGnss mSessionId mTechType =>
    by_cases heff : w.adapter.Effective (.enableGnss mSessionId mTechType)
    · rw [process_enable heff]
      split
      · rename_i hsupport
        refine ⟨fun h => (nomatch h), fun h => ?_, fun h => ?_⟩
        · exact (getLsbD_enabled _).2.trans (hs.ni h)
        · exact absurd (hsupport.symm.trans h) Bool.true_eq_false.mp
      · exact ⟨fun h => (nomatch h), hs.ni, hs.mo⟩
    · exact (process_enable_same heff).sound hs
  | disableGnss mSessionId =>
    by_cases heff : w.adapter.mAfwControlId = mSessionId
    · rw [process_disable heff]
      split
      · rename_i hsupport
        refine ⟨fun _ => rfl, fun h => ?_, fun _ => (getLsbD_disabled _).1⟩
        exact (getLsbD_disabled _).2.trans (hs.ni h)
      · exact ⟨fun _ => rfl, hs.ni, hs.mo⟩
    · exact (process_disable_same heff).sound hs
  | controlNfwLocationAccess mEnable =>
    refine ⟨hs.disabled, fun _ => ?_, fun h => ?_⟩
    · exact (getLsbD_nfwLock _ mEnable).2
    · exact (getLsbD_nfwLock _ mEnable).1.trans (hs.mo h)
  | gnssUpdateConfig gpsLock =>
    cases hknown : w.adapter.engineCapabilitiesKnown with
    | false =>
      rw [process_parked hknown]
      exact ⟨hs.disabled, hs.ni, hs.mo⟩
    | true =>
      cases gpsLock with
      | none => exact process_no_lock.sound hs
      | some gpsLock =>
        rw [process_update hknown]
        exact ⟨hs.disabled, fun h => (nomatch h), fun _ => (getLsbD_disabled _).1⟩
  | handleEngineUpEvent => exact ⟨hs.disabled, hs.ni, hs.mo⟩

theorem locked_enable (hs : w.Sound) (hid : mSessionId ≠ 0)
    (heff : w.adapter.Effective (.enableGnss mSessionId mTechType)) :
    (w.process (.enableGnss mSessionId mTechType)).1.Locked := by
  rw [process_enable heff]
  split
  · rename_i hsupport
    obtain ⟨hmo, hni⟩ := getLsbD_enabled w.adapter.GPS_LOCK
    refine (locked_iff_of_supported ?_).mpr fun _ => ⟨rfl, ?_, ?_⟩
    · exact hsupport
    · exact iff_of_false (ne_true_of_eq_false hmo) hid
    · exact hni.trans (hs.ni hsupport)
  · rename_i hsupport
    refine (locked_iff_of_mask ?_).mpr fun _ => ?_
    · exact eq_false_of_ne_true hsupport
    · exact congrArg some (if_neg hid).symm

theorem locked_disable_iff (hs : w.Sound) (heff : w.adapter.mAfwControlId = mSessionId) :
    (w.process (.disableGnss mSessionId)).1.Locked ↔
      (w.adapter.mSupportNfwControl = false → w.adapter.GPS_LOCK = w.mask) := by
  rw [process_disable heff]
  split
  · rename_i hsupport
    obtain ⟨hmo, hni⟩ := getLsbD_disabled w.adapter.GPS_LOCK
    refine iff_of_true ?_ fun hfalse => absurd (hsupport.symm.trans hfalse) Bool.true_eq_false.mp
    refine (locked_iff_of_supported ?_).mpr fun _ => ⟨rfl, ?_, ?_⟩
    · exact hsupport
    · exact iff_of_true hmo rfl
    · exact hni.trans (hs.ni hsupport)
  · rename_i hsupport
    have hfalse := eq_false_of_ne_true hsupport
    refine (locked_iff_of_mask ?_).trans ?_
    · exact hfalse
    · constructor
      · intro h _
        exact Option.some.inj (h rfl)
      · intro h _
        exact congrArg some (h hfalse)

/-- A message of `nfwControlCommand` gives the modem what it stores, also
where the support is gone. -/
theorem locked_nfw_iff (hs : w.Sound) (h : w.Locked) (mEnable : Bool) :
    (w.process (.controlNfwLocationAccess mEnable)).1.Locked ↔
      (w.adapter.mSupportNfwControl = false →
        w.KeepsMask (.controlNfwLocationAccess mEnable)) := by
  obtain ⟨hmo, hni⟩ := getLsbD_nfwLock w.adapter.GPS_LOCK mEnable
  cases hsupport : w.adapter.mSupportNfwControl with
  | true =>
    refine iff_of_true ?_ fun hfalse => nomatch hfalse
    refine (locked_iff_of_supported ?_).mpr fun hbegun => ⟨rfl, ?_, hni⟩
    · exact hsupport
    · have hbefore := ((locked_iff_of_supported hsupport).mp h hbegun).2.1
      exact (iff_of_eq (congrArg (· = true) hmo)).trans hbefore
  | false =>
    refine (locked_iff_of_mask ?_).trans ?_
    · exact hsupport
    · constructor
      · intro hlocked _ hbegun
        have hsent := Option.some.inj (hlocked hbegun)
        by_cases hzero : w.adapter.mAfwControlId = 0
        · exact ⟨hzero, hsent.trans (if_pos hzero)⟩
        · -- MO is still locked, and nothing is to be
          have hnone := hsent.trans (if_neg hzero)
          rw [hnone] at hmo
          exact absurd (hmo.trans (hs.mo hsupport)) (by decide)
      · intro hkeeps hbegun
        obtain ⟨hzero, hmask⟩ := hkeeps rfl hbegun
        exact congrArg some (hmask.trans (if_pos hzero).symm)

theorem locked_update (h : w.Locked) (gpsLock : Option (BitVec 32)) :
    (w.process (.gnssUpdateConfig gpsLock)).1.Locked := by
  cases hknown : w.adapter.engineCapabilitiesKnown with
  | false =>
    rw [process_parked hknown]
    exact h
  | true =>
    cases gpsLock with
    | none => exact process_no_lock.locked_iff.mpr h
    | some gpsLock =>
      rw [process_update hknown]
      refine (locked_iff_of_mask rfl).mpr fun hbegun => ?_
      by_cases hzero : w.adapter.mAfwControlId = 0
      · simp only [hzero, if_true]
      · simp only [hzero, if_false]
        cases hsupport : w.adapter.mSupportNfwControl with
        | true => rfl
        | false =>
          have hsent := (locked_iff_of_mask hsupport).mp h hbegun
          rw [if_neg hzero] at hsent
          exact hsent

theorem locked_engineUp_iff (h : w.Locked) : (w.process .handleEngineUpEvent).1.Locked ↔
      (w.adapter.mSupportNfwControl = false → w.KeepsMask .handleEngineUpEvent) := by
  cases hsupport : w.adapter.mSupportNfwControl with
  | true =>
    refine iff_of_true ?_ fun hfalse => nomatch hfalse
    refine (locked_iff_of_supported ?_).mpr fun hbegun => ⟨?_, ?_⟩
    · exact hsupport
    · exact congrArg some (if_pos (Or.inl hsupport))
    · exact ((locked_iff_of_supported hsupport).mp h hbegun).2
  | false =>
    refine (locked_iff_of_mask ?_).trans ?_
    · exact hsupport
    · have hsent : (w.process .handleEngineUpEvent).1.sent =
          some (if w.adapter.mAfwControlId = 0 then w.adapter.GPS_LOCK
            else GNSS_CONFIG_GPS_LOCK_NONE) := by
        show some w.adapter.setConfigLock = _
        simp [LockAdapter.setConfigLock, hsupport]
      rw [hsent]
      show (w.begun = true → some _ = some (if w.adapter.mAfwControlId = 0 then w.mask else _)) ↔ _
      by_cases hzero : w.adapter.mAfwControlId = 0
      · simp [hzero, KeepsMask]
      · simp [hzero, KeepsMask]

theorem Locked.process_iff (hs : w.Sound) (h : w.Locked) {msg : LockMsg} (hmsg : msg.Named) :
    (w.process msg).1.Locked ↔ (w.adapter.mSupportNfwControl = false → w.KeepsMask msg) := by
  cases msg with
  | enableGnss mSessionId mTechType =>
    refine iff_of_true ?_ fun _ => trivial
    by_cases heff : w.adapter.Effective (.enableGnss mSessionId mTechType)
    · exact locked_enable hs hmsg heff
    · exact (process_enable_same heff).locked_iff.mpr h
  | disableGnss mSessionId =>
    by_cases heff : w.adapter.mAfwControlId = mSessionId
    · refine (locked_disable_iff hs heff).trans (forall_congr' fun _ => ?_)
      exact ⟨fun hmask _ => hmask, fun hmask => hmask heff⟩
    · refine iff_of_true ((process_disable_same heff).locked_iff.mpr h) fun _ heq => ?_
      exact absurd heq heff
  | controlNfwLocationAccess mEnable => exact locked_nfw_iff hs h mEnable
  | gnssUpdateConfig gpsLock => exact iff_of_true (locked_update h gpsLock) fun _ => trivial
  | handleEngineUpEvent => exact locked_engineUp_iff h

end Process

/-! ## Runs -/

/-- Every message there is has been sent by a command. -/
def Named (w : WatchedLock) : Prop :=
  ∀ msg ∈ w.adapter.mMsgTask ++ w.adapter.mPendingMsgs, msg.Named

variable {msg m : LockMsg} {msgs : List LockMsg} {e : LockEvent}

/-- A message that is processed may be parked, and those that are may be
sent again. -/
theorem mem_procMsg {s : LockAdapter}
    (h : m ∈ (s.procMsg msg).1.mMsgTask ++ (s.procMsg msg).1.mPendingMsgs) :
    m = msg ∨ m ∈ s.mMsgTask ++ s.mPendingMsgs := by
  cases msg with
  | enableGnss mSessionId mTechType =>
    simp only [LockAdapter.procMsg, LockAdapter.procEnable] at h
    split_ifs at h <;> exact Or.inr h
  | disableGnss mSessionId =>
    simp only [LockAdapter.procMsg, LockAdapter.procDisable] at h
    split_ifs at h <;> exact Or.inr h
  | controlNfwLocationAccess mEnable => exact Or.inr h
  | gnssUpdateConfig gpsLock =>
    simp only [LockAdapter.procMsg, LockAdapter.procUpdateConfig] at h
    split at h
    · simp only [mem_append, mem_singleton] at h ⊢
      tauto
    · cases gpsLock <;> exact Or.inr h
  | handleEngineUpEvent =>
    simp only [LockAdapter.procMsg, LockAdapter.procEngineUp, mem_append] at h ⊢
    split at h
    · tauto
    · simp only [not_mem_nil, or_false] at h
      exact Or.inr h

/-- The watched adapter, with a message taken. -/
def popped (w : WatchedLock) (msgs : List LockMsg) : WatchedLock :=
  { w with adapter := { w.adapter with mMsgTask := msgs } }

theorem step_idle (htask : w.adapter.mMsgTask = []) : w.step .proc = (w, []) := by
  have hadapter : w.adapter.step .proc = (w.adapter, []) := by
    simp only [LockAdapter.step, htask]
  simp only [step, htask, hadapter]

theorem step_proc (htask : w.adapter.mMsgTask = msg :: msgs) :
    w.step .proc = (popped w msgs).process msg := by
  simp only [step, htask]
  rfl

theorem fits_proc (htask : w.adapter.mMsgTask = msg :: msgs) :
    w.Fits .proc ↔ (w.adapter.mSupportNfwControl = false → w.KeepsMask msg) := by
  simp only [Fits, htask]

theorem Named.sendMsg (h : w.Named) (hmsg : msg.Named)
    (hm : m ∈ (w.adapter.sendMsg msg).mMsgTask ++ w.adapter.mPendingMsgs) : m.Named := by
  have hcases : m = msg ∨ m ∈ w.adapter.mMsgTask ++ w.adapter.mPendingMsgs := by
    simp only [LockAdapter.sendMsg, mem_append, mem_singleton] at hm ⊢
    tauto
  rcases hcases with rfl | hm
  · exact hmsg
  · exact h m hm

theorem Named.step (h : w.Named) (e : LockEvent) : (w.step e).1.Named := by
  cases e with
  | enableCommand techType => exact fun m => h.sendMsg (generateSessionId_ne_zero _)
  | disableCommand id =>
    have hmsg : (LockMsg.disableGnss id).Named := trivial
    exact fun m => h.sendMsg hmsg
  | nfwControlCommand enable =>
    intro m hm
    by_cases hsupport : w.adapter.mSupportNfwControl = true
    · simp only [WatchedLock.step, LockAdapter.step, if_pos hsupport] at hm
      have hmsg : (LockMsg.controlNfwLocationAccess enable).Named := trivial
      exact h.sendMsg hmsg hm
    · simp only [WatchedLock.step, LockAdapter.step, if_neg hsupport] at hm
      exact h m hm
  | gnssUpdateConfigCommand gpsLock =>
    have hmsg : (LockMsg.gnssUpdateConfig gpsLock).Named := trivial
    exact fun m => h.sendMsg hmsg
  | handleEngineUpEvent =>
    have hmsg : LockMsg.handleEngineUpEvent.Named := trivial
    exact fun m => h.sendMsg hmsg
  | engineLockState state => exact h
  | generateSessionId => exact h
  | proc =>
    cases htask : w.adapter.mMsgTask with
    | nil =>
      rw [step_idle htask]
      exact h
    | cons msg msgs =>
      have htail : ∀ m ∈ msg :: (msgs ++ w.adapter.mPendingMsgs), m.Named := by
        intro m hm
        refine h m ?_
        rw [htask]
        exact hm
      rw [step_proc htask]
      intro m hm
      rcases mem_procMsg hm with rfl | hm
      · exact htail m mem_cons_self
      · exact htail m (mem_cons_of_mem _ hm)

theorem step_same (he : e ≠ .proc) : SameLock w (w.step e).1 := by
  cases e with
  | proc => exact absurd rfl he
  | nfwControlCommand enable =>
    by_cases hsupport : w.adapter.mSupportNfwControl = true
    · refine ⟨rfl, ?_, ?_, ?_, rfl, rfl, rfl⟩ <;>
        simp only [step, LockAdapter.step, if_pos hsupport, LockAdapter.sendMsg]
    · refine ⟨rfl, ?_, ?_, ?_, rfl, rfl, rfl⟩ <;>
        simp only [step, LockAdapter.step, if_neg hsupport]
  | _ => exact ⟨rfl, rfl, rfl, rfl, rfl, rfl, rfl⟩

theorem fits_of_ne (he : e ≠ .proc) : w.Fits e := by
  cases e with
  | proc => exact absurd rfl he
  | _ => trivial

theorem Sound.step (hs : w.Sound) (e : LockEvent) : (w.step e).1.Sound := by
  by_cases he : e = .proc
  · subst he
    cases htask : w.adapter.mMsgTask with
    | nil =>
      rw [step_idle htask]
      exact hs
    | cons msg msgs =>
      rw [step_proc htask]
      exact Sound.process (w := popped w msgs) ⟨hs.disabled, hs.ni, hs.mo⟩ msg
  · exact (step_same he).sound hs

theorem Locked.step_iff (hnamed : w.Named) (hs : w.Sound) (h : w.Locked) (e : LockEvent) :
    (w.step e).1.Locked ↔ w.Fits e := by
  by_cases he : e = .proc
  · subst he
    cases htask : w.adapter.mMsgTask with
    | nil =>
      rw [step_idle htask]
      exact iff_of_true h (by simp only [Fits, htask])
    | cons msg msgs =>
      have hmsg : msg.Named := hnamed msg (by simp [htask])
      rw [step_proc htask, fits_proc htask]
      exact Locked.process_iff (w := popped w msgs) ⟨hs.disabled, hs.ni, hs.mo⟩ h hmsg
  · exact iff_of_true ((step_same he).locked_iff.mpr h) (fits_of_ne he)

/-- From the first enable or disable on the modem has the lock it is to
have, in every state of a run, if and only if every message that is taken
once NFW control is withdrawn keeps the mask. -/
theorem locked_iff_fits (GPS_LOCK : BitVec 32) (engineCapabilitiesKnown : Bool)
    (mSessionIdCounter : Fin 0xFFFFFFFF) (es : List LockEvent) :
    StatesMeet step Locked (new GPS_LOCK engineCapabilitiesKnown mSessionIdCounter) es ↔
      StepsMeet step Fits (new GPS_LOCK engineCapabilitiesKnown mSessionIdCounter) es := by
  refine statesMeet_iff_stepsMeet (Q := fun w => w.Named ∧ w.Sound)
    (fun w e hq => ⟨hq.1.step e, hq.2.step e⟩) (fun w e hq h => h.step_iff hq.1 hq.2 e) ?_ ?_
  · exact ⟨fun m hm => (nomatch hm), fun _ => rfl, fun _ => rfl, fun h => (nomatch h)⟩
  · exact fun h => nomatch h

/-- A lock is configured for the first time while Gnss is enabled, and NI is
locked just before; the message of the second command comes last. -/
def lateNfw : List LockEvent :=
  [.enableCommand 0, .proc, .gnssUpdateConfigCommand (some 0), .nfwControlCommand false,
    .proc, .proc]

/-- The modem is locked while Gnss is enabled. -/
theorem not_locked_lateNfw : ¬ StatesMeet step Locked (new 3 true 0) lateNfw := by
  intro h
  have hsent : (after step (new 3 true 0) lateNfw).sent = some 0 := h.last (by decide)
  exact absurd hsent (by decide)

end WatchedLock

end LocStack.Gnss
