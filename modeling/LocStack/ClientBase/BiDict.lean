/-
# `LocStack.ClientBase.BiDict` — ids and sessions

`BiDict` keeps the session of each id, the id of each session, and
something more about each session, in three maps.  As functions they are

    forward : id → session    backward : session → id    ext : session → τ

and each operation updates them at one place.  `MutuallyInverse` says
that the first two lead to each other: an id that is set
keeps them so exactly if neither it nor the session is of another.
-/
import LocStack.Base.TwoMaps

namespace LocStack.ClientBase

open Base Function

/-- What a map has nothing for is 0 to `operator[]`. -/
structure BiDict (τ : Type*) where
  (mForwardMap mBackwardMap : Std.TreeMap UInt32 UInt32)
  mExtMap : Std.TreeMap UInt32 τ

namespace BiDict

variable {τ : Type*}

section Operations

variable (d : BiDict τ)

def new : BiDict τ where
  mForwardMap := ∅
  mBackwardMap := ∅
  mExtMap := ∅

def hasId (id : UInt32) : Bool := d.mForwardMap.contains id

def hasSession (session : UInt32) : Bool := d.mBackwardMap.contains session

def set (id session : UInt32) (ext : τ) : BiDict τ where
  mForwardMap := d.mForwardMap.insert id session
  mBackwardMap := d.mBackwardMap.insert session id
  mExtMap := d.mExtMap.insert session ext

def rmById (id : UInt32) : BiDict τ where
  mForwardMap := d.mForwardMap.erase id
  mBackwardMap := d.mBackwardMap.erase (d.mForwardMap.getD id 0)
  mExtMap := d.mExtMap.erase (d.mForwardMap.getD id 0)

def rmBySession (session : UInt32) : BiDict τ where
  mForwardMap := d.mForwardMap.erase (d.mBackwardMap.getD session 0)
  mBackwardMap := d.mBackwardMap.erase session
  mExtMap := d.mExtMap.erase session

def getId (session : UInt32) : UInt32 := d.mBackwardMap.getD session 0

def getSession (id : UInt32) : UInt32 := d.mForwardMap.getD id 0

/-- Of an id that is there: `mForwardMap[id]` leaves the others behind
with 0, but every caller has asked `hasId`. -/
def getExtById (id : UInt32) (zero : τ) : τ :=
  let session := d.getSession id
  if session > 0 then d.mExtMap.getD session zero else zero

def getExtBySession (session : UInt32) (zero : τ) : τ := d.mExtMap.getD session zero

def getAllSessions : List UInt32 := d.mBackwardMap.keys

end Operations

/-! ## The maps as functions -/

def forward (d : BiDict τ) (id : UInt32) : Option UInt32 := d.mForwardMap[id]?

def backward (d : BiDict τ) (session : UInt32) : Option UInt32 := d.mBackwardMap[session]?

def ext (d : BiDict τ) (session : UInt32) : Option τ := d.mExtMap[session]?

variable {d : BiDict τ} {id session : UInt32}

@[simp] theorem forward_new : (new : BiDict τ).forward = fun _ => none := by
  funext id
  exact Std.TreeMap.getElem?_emptyc

@[simp] theorem backward_new : (new : BiDict τ).backward = fun _ => none := by
  funext session
  exact Std.TreeMap.getElem?_emptyc

@[simp] theorem ext_new : (new : BiDict τ).ext = fun _ => none := by
  funext session
  exact Std.TreeMap.getElem?_emptyc

@[simp] theorem forward_set (ext : τ) :
    (d.set id session ext).forward = update d.forward id (some session) :=
  getElem?_insert_eq ..

@[simp] theorem backward_set (ext : τ) :
    (d.set id session ext).backward = update d.backward session (some id) :=
  getElem?_insert_eq ..

@[simp] theorem ext_set (ext : τ) :
    (d.set id session ext).ext = update d.ext session (some ext) :=
  getElem?_insert_eq ..

theorem hasId_iff : d.hasId id = true ↔ ∃ session, d.forward id = some session := by
  unfold hasId
  rw [Std.TreeMap.contains_eq_isSome_getElem?]
  exact Option.isSome_iff_exists

theorem hasSession_iff : d.hasSession session = true ↔ ∃ id, d.backward session = some id := by
  unfold hasSession
  rw [Std.TreeMap.contains_eq_isSome_getElem?]
  exact Option.isSome_iff_exists

theorem getSession_eq (d : BiDict τ) (id : UInt32) : d.getSession id = (d.forward id).getD 0 :=
  Std.TreeMap.getD_eq_getD_getElem?

theorem getId_eq (d : BiDict τ) (session : UInt32) :
    d.getId session = (d.backward session).getD 0 :=
  Std.TreeMap.getD_eq_getD_getElem?

theorem getSession_of (h : d.forward id = some session) : d.getSession id = session := by
  rw [getSession_eq, h, Option.getD_some]

theorem getExtById_of {ext zero : τ} (h : d.forward id = some session) (hpos : session ≠ 0)
    (hext : d.ext session = some ext) : d.getExtById id zero = ext := by
  unfold getExtById
  rw [getSession_of h, if_pos (UInt32.pos_iff_ne_zero.mpr hpos), Std.TreeMap.getD_eq_getD_getElem?]
  show (d.ext session).getD zero = ext
  rw [hext, Option.getD_some]

theorem forward_rmById : (d.rmById id).forward = update d.forward id none :=
  getElem?_erase_eq ..

theorem backward_rmById (h : d.forward id = some session) :
    (d.rmById id).backward = update d.backward session none := by
  have hsession : d.mForwardMap.getD id 0 = session := getSession_of h
  rw [← hsession]
  exact getElem?_erase_eq ..

theorem ext_rmById (h : d.forward id = some session) :
    (d.rmById id).ext = update d.ext session none := by
  have hsession : d.mForwardMap.getD id 0 = session := getSession_of h
  rw [← hsession]
  exact getElem?_erase_eq ..

theorem forward_rmBySession (h : d.backward session = some id) :
    (d.rmBySession session).forward = update d.forward id none := by
  have hid : d.mBackwardMap.getD session 0 = id := by
    refine (getId_eq d session).trans ?_
    rw [h, Option.getD_some]
  rw [← hid]
  exact getElem?_erase_eq ..

theorem backward_rmBySession :
    (d.rmBySession session).backward = update d.backward session none :=
  getElem?_erase_eq ..

theorem ext_rmBySession : (d.rmBySession session).ext = update d.ext session none :=
  getElem?_erase_eq ..

/-! ## Mutually inverse -/

/-- The two maps lead to each other. -/
abbrev MutuallyInverse (d : BiDict τ) : Prop := Inverse (fun id => id) d.forward d.backward

namespace MutuallyInverse

theorem new : (new : BiDict τ).MutuallyInverse := by
  unfold MutuallyInverse
  rw [forward_new, backward_new]
  exact Inverse.empty

variable (h : d.MutuallyInverse)
include h

theorem set_iff (id session : UInt32) (ext : τ) : (d.set id session ext).MutuallyInverse ↔
      (∀ id', d.backward session = some id' → id' = id) ∧
        ∀ session', d.forward id = some session' → session' = session := by
  unfold MutuallyInverse
  rw [forward_set, backward_set]
  exact h.save_iff session id

theorem set_new (hid : d.forward id = none) (hsession : d.backward session = none) (ext : τ) :
    (d.set id session ext).MutuallyInverse := by
  rw [h.set_iff]
  constructor
  · intro id' hid'
    rw [hsession] at hid'
    cases hid'
  · intro session' hsession'
    rw [hid] at hsession'
    cases hsession'

theorem rmById (hid : d.forward id = some session) : (d.rmById id).MutuallyInverse := by
  obtain ⟨id', hsession, rfl⟩ := h.object id session hid
  unfold MutuallyInverse
  rw [forward_rmById, backward_rmById hid]
  exact h.erase hsession

theorem rmBySession (hsession : d.backward session = some id) :
    (d.rmBySession session).MutuallyInverse := by
  unfold MutuallyInverse
  rw [forward_rmBySession hsession, backward_rmBySession]
  exact h.erase hsession

theorem backward_of_forward (hid : d.forward id = some session) : d.backward session = some id := by
  obtain ⟨id', hsession, rfl⟩ := h.object id session hid
  exact hsession

theorem forward_of_backward (hsession : d.backward session = some id) :
    d.forward id = some session := h.id session id hsession

end MutuallyInverse

end BiDict

end LocStack.ClientBase
