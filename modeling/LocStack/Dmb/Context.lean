/-
# `LocStack.Dmb.Context` — what mNativeContext owns

A Dmb object of the application keeps one int, the address of a DmbContext:
an IDmb, which is a connection at the service, and the client that the service
calls back on, which holds a global reference to the object.

    native_setup      a client, a connection, a context    in mNativeContext
    native_release    disconnect, DeleteGlobalRef, delete  0
    a callback        reads mWeakThiz of its client, and posts with it

native_setup does not look at what mNativeContext holds.  What one setup makes
goes by its number here.  A callback runs on another thread, so that what it
has read can be deleted before it posts.

`owned_iff`: the open connections are the one of the context in mNativeContext,
no context is destroyed twice and no callback has a reference that is deleted,
if and only if

* native_setup connects only while mNativeContext is 0;
* native_release comes only while no callback of the client is under way.
-/
import LocStack.Base.Run
import LocStack.Dmb.Interfaces

namespace LocStack.Dmb

open Base List

/-! ## Callbacks -/

def kSignalCallback : Int32 := 0
def kVideoCallback : Int32 := 1
def kAudioCallback : Int32 := 2
def kDataCallback : Int32 := 3
def kEventCallback : Int32 := 4

inductive DmbCallback where
  | notifyCallback (msg ext1 ext2 : Int32)
  | dataCallback (msg ext1 : Int32) (mem : Option (List UInt8))

/-- The arguments of postEventFromNative, but for the reference. -/
structure PostEvent where
  (what arg1 arg2 : Int32)
  obj : Option (List UInt8)

/-- The event that a callback is posted as; none for a message that is not
mapped. -/
def DmbCallback.event : DmbCallback → Option PostEvent
  | notifyCallback msg ext1 ext2 =>
    let high := msg &&& 0xff00
    if high = 0x0100 then some ⟨kSignalCallback, msg, 0, none⟩
    else if high = 0x0200 then some ⟨kVideoCallback, ext1, ext2, none⟩
    else if high = 0x0400 then some ⟨kAudioCallback, ext1, ext2, none⟩
    else if high = 0x0800 ∨ high = 0x0c00 then
      -- the one message that is rewritten
      some ⟨kEventCallback, if msg = 0x0c17 then -32 else msg, 0, none⟩
    else none
  | dataCallback msg ext1 mem =>
    some ⟨kDataCallback, msg, ext1, mem.filter fun bytes => bytes.length > 0⟩

/-- A callback that has read mWeakThiz and is still to be posted. -/
structure Delivery where
  weakThiz : Option Nat
  event : PostEvent

/-! ## The object -/

inductive SetupOutcome where
  | noService | connectFailed | connected

inductive DmbOut where
  | throws (className msg : String)
  | transact (connection : Nat) (c : DmbCall)
  | post (delivery : Delivery)

inductive DmbEvent where
  | native_setup (outcome : SetupOutcome)
  | native_release
  /-- any of the others -/
  | native (c : DmbCall)
  | callback (client : Nat) (cb : DmbCallback)
  /-- a callback that is under way goes on -/
  | posts (i : Nat)

structure DmbObject where
  /-- `none`: 0 -/
  mNativeContext : Option Nat
  /-- how many clients were made -/
  made : Nat
  /-- those open at the service -/
  connections : List Nat
  /-- the clients whose mWeakThiz is deleted -/
  released : List Nat
  /-- the contexts that were deleted -/
  destroyed : List Nat
  underWay : List Delivery
  /-- what was posted with a reference that had been deleted -/
  stale : List Delivery

namespace DmbObject

def new : DmbObject where
  mNativeContext := none
  made := 0
  connections := []
  released := []
  destroyed := []
  underWay := []
  stale := []

variable (s : DmbObject)

/-- A client that is not connected goes, and its reference with it. -/
def nativeSetup : SetupOutcome → DmbObject × List DmbOut
  | .noService => (s, [.throws "java/lang/RuntimeException" "no DmbService"])
  | .connectFailed =>
    ({ s with made := s.made + 1, released := s.released ++ [s.made] },
      [.throws "java/lang/RuntimeException" "DmbService connect failed"])
  | .connected =>
    ({ s with
      made := s.made + 1
      connections := s.connections ++ [s.made]
      mNativeContext := some s.made }, [])

def nativeRelease : DmbObject × List DmbOut :=
  match s.mNativeContext with
  | none => (s, [])
  | some ctx =>
    ({ s with
      mNativeContext := none
      connections := s.connections.erase ctx
      released := s.released ++ [ctx]
      destroyed := s.destroyed ++ [ctx] }, [.transact ctx .disconnect])

/-- `dmbOf`, and what the other functions do with it. -/
def native (c : DmbCall) : List DmbOut :=
  match s.mNativeContext with
  | none => [.throws "java/lang/IllegalStateException" "Dmb is not connected"]
  | some ctx => [.transact ctx c]

/-- The mWeakThiz of a client. -/
def weakThiz (client : Nat) : Option Nat := if client ∈ s.released then none else some client

/-- A callback to a client that was made reads its mWeakThiz. -/
def callback (client : Nat) (cb : DmbCallback) : DmbObject :=
  match cb.event with
  | none => s
  | some event =>
    if client < s.made then
      { s with underWay := s.underWay ++ [⟨s.weakThiz client, event⟩] }
    else s

/-- Whether the reference of a callback is deleted. -/
def Stale (d : Delivery) : Prop := ∃ ref ∈ s.released, d.weakThiz = some ref
  deriving Decidable

def posts (i : Nat) : DmbObject × List DmbOut :=
  match s.underWay[i]? with
  | none => (s, [])
  | some d =>
    ({ s with
      underWay := s.underWay.eraseIdx i
      stale := s.stale ++ if s.Stale d then [d] else [] }, [.post d])

def step : DmbEvent → DmbObject × List DmbOut
  | .native_setup outcome => s.nativeSetup outcome
  | .native_release => s.nativeRelease
  | .native c => (s, s.native c)
  | .callback client cb => (s.callback client cb, [])
  | .posts i => s.posts i

/-! ## As it should be -/

/-- A callback that is under way will be posted with what it has read. -/
structure Owned : Prop where
  connections_eq : s.connections = s.mNativeContext.toList
  destroyed_nodup : s.destroyed.Nodup
  stale_eq : s.stale = []
  not_stale : ∀ d ∈ s.underWay, ¬ s.Stale d

/-- What is asked of a step. -/
def Fits : DmbEvent → Prop
  | .native_setup .connected => s.mNativeContext = none
  | .native_release => ∀ ctx, s.mNativeContext = some ctx →
      ∀ d ∈ s.underWay, d.weakThiz ≠ some ctx
  | _ => True

/-! ## What is kept -/

/-- Besides, what is released or destroyed was made, and the context in
mNativeContext is neither. -/
structure Kept : Prop where
  owned : s.Owned
  context_lt : ∀ ctx ∈ s.mNativeContext, ctx < s.made
  context_not_destroyed : ∀ ctx ∈ s.mNativeContext, ctx ∉ s.destroyed
  released_lt : ∀ ref ∈ s.released, ref < s.made
  destroyed_lt : ∀ ctx ∈ s.destroyed, ctx < s.made
  underWay_lt : ∀ d ∈ s.underWay, ∀ ref ∈ d.weakThiz, ref < s.made

variable {s}

theorem kept_new : new.Kept :=
  ⟨⟨rfl, nodup_nil, rfl, nofun⟩, nofun, nofun, nofun, nofun, nofun⟩

theorem not_stale_release {t : DmbObject} {d : Delivery} {ref : Nat}
    (ht : t.released = s.released ++ [ref]) (hd : ¬ s.Stale d) (hne : d.weakThiz ≠ some ref) :
    ¬ t.Stale d := by
  rintro ⟨r, hr, hread⟩
  rw [ht] at hr
  rcases mem_append.mp hr with hr | hr
  · exact hd ⟨r, hr, hread⟩
  · exact hne (mem_singleton.mp hr ▸ hread)

theorem Kept.nativeSetup (h : s.Kept) {outcome : SetupOutcome}
    (hok : outcome = .connected → s.mNativeContext = none) :
    (s.nativeSetup outcome).1.Kept := by
  cases outcome with
  | noService => exact h
  | connectFailed =>
    have hstale : ∀ d ∈ s.underWay, ¬ (s.nativeSetup .connectFailed).1.Stale d := by
      intro d hd
      refine not_stale_release (s := s) rfl (h.owned.not_stale d hd) fun hread => ?_
      exact (h.underWay_lt d hd _ hread).false
    refine ⟨⟨h.owned.connections_eq, h.owned.destroyed_nodup, h.owned.stale_eq, hstale⟩,
      ?_, h.context_not_destroyed, ?_, ?_, ?_⟩
    · exact fun ctx hctx => Nat.lt_succ_of_lt (h.context_lt ctx hctx)
    · intro ref href
      rcases mem_append.mp href with href | href
      · exact Nat.lt_succ_of_lt (h.released_lt ref href)
      · exact mem_singleton.mp href ▸ Nat.lt_succ_self _
    · exact fun ctx hctx => Nat.lt_succ_of_lt (h.destroyed_lt ctx hctx)
    · exact fun d hd ref href => Nat.lt_succ_of_lt (h.underWay_lt d hd ref href)
  | connected =>
    have hnone := hok rfl
    refine ⟨⟨?_, h.owned.destroyed_nodup, h.owned.stale_eq, h.owned.not_stale⟩, ?_, ?_, ?_, ?_, ?_⟩
    · show s.connections ++ [s.made] = [s.made]
      rw [h.owned.connections_eq, hnone]
      rfl
    · rintro ctx ⟨⟩
      exact Nat.lt_succ_self _
    · rintro ctx ⟨⟩ hmem
      exact (h.destroyed_lt _ hmem).false
    · exact fun ref href => Nat.lt_succ_of_lt (h.released_lt ref href)
    · exact fun ctx hctx => Nat.lt_succ_of_lt (h.destroyed_lt ctx hctx)
    · exact fun d hd ref href => Nat.lt_succ_of_lt (h.underWay_lt d hd ref href)

theorem Kept.nativeRelease (h : s.Kept) (hok : s.Fits .native_release) :
    s.nativeRelease.1.Kept := by
  unfold DmbObject.nativeRelease
  cases hctx : s.mNativeContext with
  | none => exact h
  | some ctx =>
    have hlt := h.context_lt ctx hctx
    have hmem := h.context_not_destroyed ctx hctx
    refine ⟨⟨?_, ?_, h.owned.stale_eq, fun d hd => ?_⟩, nofun, nofun, ?_, ?_, h.underWay_lt⟩
    · show s.connections.erase ctx = []
      rw [h.owned.connections_eq, hctx, Option.toList_some, erase_cons_head]
    · refine nodup_append.mpr ⟨h.owned.destroyed_nodup, nodup_cons.mpr ⟨nofun,
        nodup_nil⟩, fun a ha b hb heq => ?_⟩
      exact hmem (mem_singleton.mp hb ▸ heq ▸ ha)
    · exact not_stale_release rfl (h.owned.not_stale d hd) (hok ctx hctx d hd)
    · intro ref href
      rcases mem_append.mp href with href | href
      · exact h.released_lt ref href
      · exact mem_singleton.mp href ▸ hlt
    · intro ref href
      rcases mem_append.mp href with href | href
      · exact h.destroyed_lt ref href
      · exact mem_singleton.mp href ▸ hlt

theorem not_stale_weakThiz (s : DmbObject) (client : Nat) (event : PostEvent) :
    ¬ s.Stale ⟨s.weakThiz client, event⟩ := by
  rintro ⟨ref, href, hread⟩
  unfold weakThiz at hread
  split at hread
  · cases hread
  · rename_i hclient
    exact hclient (Option.some.inj hread ▸ href)

theorem Kept.callback (h : s.Kept) (client : Nat) (cb : DmbCallback) :
    (s.callback client cb).Kept := by
  unfold DmbObject.callback
  split
  · exact h
  · rename_i event _
    split
    · rename_i hlt
      refine ⟨⟨h.owned.connections_eq, h.owned.destroyed_nodup, h.owned.stale_eq, ?_⟩,
        h.context_lt, h.context_not_destroyed, h.released_lt, h.destroyed_lt, ?_⟩
      · intro d hd
        rcases mem_append.mp hd with hd | hd
        · exact h.owned.not_stale d hd
        · exact mem_singleton.mp hd ▸ not_stale_weakThiz s client event
      · intro d hd ref href
        rcases mem_append.mp hd with hd | hd
        · exact h.underWay_lt d hd ref href
        · obtain rfl := mem_singleton.mp hd
          simp only [weakThiz] at href
          split at href
          · cases href
          · exact Option.some.inj href ▸ hlt
    · exact h

theorem Kept.posts (h : s.Kept) (i : Nat) : (s.posts i).1.Kept := by
  unfold DmbObject.posts
  split
  · exact h
  · rename_i d hd
    have hsub : ∀ e ∈ s.underWay.eraseIdx i, e ∈ s.underWay :=
      fun e he => mem_of_mem_eraseIdx he
    have hnot := h.owned.not_stale d (mem_of_getElem? hd)
    refine ⟨⟨h.owned.connections_eq, h.owned.destroyed_nodup, ?_, ?_⟩,
      h.context_lt, h.context_not_destroyed, h.released_lt, h.destroyed_lt, ?_⟩
    · show s.stale ++ _ = []
      rw [if_neg hnot, h.owned.stale_eq]
      rfl
    · exact fun e he => h.owned.not_stale e (hsub e he)
    · exact fun e he => h.underWay_lt e (hsub e he)

theorem Kept.step (h : s.Kept) (e : DmbEvent) (hok : s.Fits e) : (s.step e).1.Kept := by
  cases e with
  | native_setup outcome => exact h.nativeSetup fun heq => by subst heq; exact hok
  | native_release => exact h.nativeRelease hok
  | native c => exact h
  | callback client cb => exact h.callback client cb
  | posts i => exact h.posts i

/-! ## Where it breaks -/

theorem Kept.of_connected (h : s.Kept) (hstep : (s.nativeSetup .connected).1.Owned) :
    s.mNativeContext = none := by
  have heq : s.connections ++ [s.made] = [] ++ [s.made] := hstep.connections_eq
  have hnil : s.connections = [] := append_cancel_right heq
  rw [h.owned.connections_eq] at hnil
  exact Option.toList_eq_nil_iff.mp hnil

theorem of_nativeRelease (hstep : s.nativeRelease.1.Owned) : s.Fits .native_release := by
  intro ctx hctx d hd hread
  unfold DmbObject.nativeRelease at hstep
  rw [hctx] at hstep
  exact hstep.not_stale d hd ⟨ctx, mem_append_right _ mem_cons_self, hread⟩

theorem Kept.fits (h : s.Kept) (e : DmbEvent) (hstep : (s.step e).1.Owned) : s.Fits e := by
  cases e with
  | native_setup outcome =>
    cases outcome with
    | connected => exact h.of_connected hstep
    | noService | connectFailed => trivial
  | native_release => exact of_nativeRelease hstep
  | native c => trivial
  | callback client cb => trivial
  | posts i => trivial

/-- The connections, contexts and references of a Dmb object are owned by its
mNativeContext in every run whose steps fit, and only there. -/
theorem owned_iff (es : List DmbEvent) :
    StatesMeet step Owned new es ↔ StepsMeet step Fits new es :=
  statesMeet_iff_stepsMeet_of_inv Kept (fun _ h => h.owned) (fun _ e h hok => h.step e hok)
    (fun _ e h hstep => h.fits e hstep) kept_new es

/-- The application sets the object up twice. -/
theorem not_owned_setupTwice :
    ¬ StatesMeet step Owned new [.native_setup .connected, .native_setup .connected] := by
  intro h
  exact absurd h.last.connections_eq (by decide)

end DmbObject

end LocStack.Dmb
