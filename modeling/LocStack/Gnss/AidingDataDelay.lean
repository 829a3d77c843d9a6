/-
# `LocStack.Gnss.AidingDataDelay` — five seconds between deletions

deleteAidingData drops a request that comes too soon after the last one that it
passed on.  The time of a request is `tv_sec * 1000000`, whole seconds in
microseconds, which is called Ms and compared with DELETE_AIDING_DATA_EXPECTED_TIME_MS:

    same second     0             dropped
    a later one     >= 1000000    > 5000, passed on

`throttled_iff`: deletions are five seconds apart, and none is dropped after that
time, if and only if each request is made in the second of the last one that was
passed on, or five seconds after it.

CLOCK_BOOTTIME counts nanoseconds in 64 bits, so that the product fits.
-/
import LocStack.Base.Run
import Mathlib.Algebra.Group.Nat.Defs

namespace LocStack.Gnss.AidingDataDelay

open Base List

def DELETE_AIDING_DATA_EXPECTED_TIME_MS : ℕ := 5000

/-- In nanoseconds. -/
def expectedTime : ℕ := DELETE_AIDING_DATA_EXPECTED_TIME_MS * 10 ^ 6

/-- The part of GnssAdapter that is about the delay, with what became of the
requests. -/
structure DelayAdapter where
  /-- CLOCK_BOOTTIME, in nanoseconds -/
  now : ℕ
  mLastDeleteAidingDataTime : Int
  /-- When requests were passed on, the last one first. -/
  passedOn : List ℕ
  /-- When others were dropped, each with the last one passed on before. -/
  dropped : List (ℕ × Option ℕ)

/-- A deletion that LocApi is told of. -/
structure Deletion (δ : Type) where
  data : δ
  sessionId : UInt32

inductive DelayEvent (δ : Type) where
  | elapsed (nanoseconds : ℕ)
  /-- `clock` says whether clock_gettime returns 0. -/
  | deleteAidingData (data : δ) (sessionId : UInt32) (clock : Bool)

namespace DelayAdapter

variable {δ : Type}

def new : DelayAdapter := ⟨0, 0, [], []⟩

/-- The time as `tv_sec`, of a clock that has not failed. -/
def tv_sec (now : ℕ) : Int := (now / 10 ^ 9 : ℕ)

def deleteAidingData (s : DelayAdapter) (data : δ) (sessionId : UInt32) (clock : Bool) :
    DelayAdapter × List (Deletion δ) :=
  if clock then
    let bootDeleteTimeMs := tv_sec s.now * 1000000
    let diffTimeBFirSecDelete := bootDeleteTimeMs - s.mLastDeleteAidingDataTime
    if diffTimeBFirSecDelete > DELETE_AIDING_DATA_EXPECTED_TIME_MS then
      ({ s with
        mLastDeleteAidingDataTime := bootDeleteTimeMs
        passedOn := s.now :: s.passedOn }, [⟨data, sessionId⟩])
    else ({ s with dropped := (s.now, s.passedOn.head?) :: s.dropped }, [])
  else (s, [])

def step (s : DelayAdapter) : DelayEvent δ → DelayAdapter × List (Deletion δ)
  | .elapsed nanoseconds => ({ s with now := s.now + nanoseconds }, [])
  | .deleteAidingData data sessionId clock => s.deleteAidingData data sessionId clock

/-- Any two deletions are as far apart as is expected, and no request was
dropped that long after the last one. -/
def Throttled (s : DelayAdapter) : Prop :=
  s.passedOn.Pairwise (fun later earlier => earlier + expectedTime ≤ later) ∧
    ∀ request ∈ s.dropped, ∀ last ∈ request.2, request.1 < last + expectedTime
  deriving Decidable

/-- The request does not come in a later second too soon. -/
def Fits (s : DelayAdapter) : DelayEvent δ → Prop
  | .elapsed _ => True
  | .deleteAidingData _ _ clock => clock → ∀ last ∈ s.passedOn.head?,
      s.now / 10 ^ 9 = last / 10 ^ 9 ∨ last + expectedTime ≤ s.now

/-- The last time is that of the last deletion. -/
structure Sound (s : DelayAdapter) : Prop where
  last : s.mLastDeleteAidingDataTime = (s.passedOn.head?.elim 0 tv_sec) * 1000000
  le_now : ∀ t ∈ s.passedOn.head?, t ≤ s.now
  throttled : s.Throttled

variable {s : DelayAdapter}

theorem sound_new : Sound new := ⟨rfl, nofun, .nil, nofun⟩

theorem Sound.elapsed (h : s.Sound) (nanoseconds : ℕ) :
    Sound { s with now := s.now + nanoseconds } :=
  ⟨h.last, fun t ht => Nat.le_add_right_of_le (h.le_now t ht), h.throttled⟩

theorem Sound.passes_iff (h : s.Sound) :
    tv_sec s.now * 1000000 - s.mLastDeleteAidingDataTime > DELETE_AIDING_DATA_EXPECTED_TIME_MS ↔
      (s.passedOn.head?.elim 0 (· / 10 ^ 9)) < s.now / 10 ^ 9 := by
  rw [h.last]
  cases s.passedOn.head? with
  | none =>
    simp only [Option.elim, tv_sec, DELETE_AIDING_DATA_EXPECTED_TIME_MS]
    omega
  | some last =>
    simp only [Option.elim, tv_sec, DELETE_AIDING_DATA_EXPECTED_TIME_MS]
    omega

theorem Sound.throttled_passedOn (h : s.Sound) : { s with
      mLastDeleteAidingDataTime := tv_sec s.now * 1000000
      passedOn := s.now :: s.passedOn }.Throttled ↔
      ∀ last ∈ s.passedOn.head?, last + expectedTime ≤ s.now := by
  obtain ⟨hapart, hdropped⟩ := h.throttled
  constructor
  · rintro ⟨hnext, -⟩ last hlast
    exact (pairwise_cons.mp hnext).1 last (mem_of_mem_head? hlast)
  · intro hlast
    refine ⟨pairwise_cons.mpr ⟨?_, hapart⟩, hdropped⟩
    cases hpassed : s.passedOn with
    | nil => nofun
    | cons last earlier =>
      rw [hpassed] at hlast hapart
      intro t ht
      have hnow : last + expectedTime ≤ s.now := hlast last rfl
      rcases mem_cons.mp ht with rfl | ht
      · exact hnow
      · exact Nat.le_trans ((pairwise_cons.mp hapart).1 t ht) (Nat.le_of_add_right_le hnow)

theorem lt_of_same_second {now last : ℕ} (h : ¬ last / 10 ^ 9 < now / 10 ^ 9) :
    now < last + expectedTime := by
  have htime : expectedTime = 5 * 10 ^ 9 := by decide
  omega

theorem Sound.throttled_dropped (h : s.Sound)
    (hsecond : ¬ (s.passedOn.head?.elim 0 (· / 10 ^ 9)) < s.now / 10 ^ 9) :
    { s with dropped := (s.now, s.passedOn.head?) :: s.dropped }.Throttled := by
  obtain ⟨hapart, hdropped⟩ := h.throttled
  refine ⟨hapart, forall_mem_cons.mpr ⟨fun last hlast => ?_, hdropped⟩⟩
  have hhead : s.passedOn.head? = some last := hlast
  rw [hhead] at hsecond
  exact lt_of_same_second hsecond

theorem Sound.step (h : s.Sound) (e : DelayEvent δ) :
    (s.Fits e → (s.step e).1.Sound) ∧ ((s.step e).1.Throttled → s.Fits e) := by
  cases e with
  | elapsed nanoseconds => exact ⟨fun _ => h.elapsed nanoseconds, fun _ => trivial⟩
  | deleteAidingData data sessionId clock =>
    cases clock with
    | false => exact ⟨fun _ => h, nofun⟩
    | true =>
      simp only [DelayAdapter.step, deleteAidingData, if_true, Fits, forall_const]
      split
      · next hpasses =>
          rw [h.passes_iff] at hpasses
          refine ⟨fun hfits => ⟨rfl, fun t ht => ?_, h.throttled_passedOn.mpr ?_⟩,
            fun hnext last hlast => .inr (h.throttled_passedOn.mp hnext last hlast)⟩
          · obtain rfl := Option.some.inj ht
            exact Nat.le_refl _
          · intro last hlast
            rw [Option.mem_def.mp hlast] at hpasses
            exact (hfits last hlast).resolve_left (Nat.ne_of_gt hpasses)
      · next hdrops =>
          rw [h.passes_iff] at hdrops
          refine ⟨fun _ => ⟨h.last, h.le_now, h.throttled_dropped hdrops⟩,
            fun _ last hlast => .inl ?_⟩
          have hle := Nat.div_le_div_right (c := 10 ^ 9) (h.le_now last hlast)
          rw [Option.mem_def.mp hlast] at hdrops
          exact Nat.le_antisymm (Nat.le_of_not_lt hdrops) hle

/-- In every run, with any time between the requests. -/
theorem throttled_iff (es : List (DelayEvent δ)) :
    StatesMeet step Throttled new es ↔ StepsMeet step Fits new es :=
  statesMeet_iff_stepsMeet_of_inv Sound (fun _ h => h.throttled)
    (fun _ e h => (h.step e).1) (fun _ e h => (h.step e).2) sound_new es

/-- Two requests a millisecond apart, when a second ends. -/
theorem not_throttled_millisecond :
    ¬ StatesMeet step Throttled new [.elapsed 1999000000, .deleteAidingData () 1 true,
      .elapsed 1000000, .deleteAidingData () 2 true] :=
  fun h => absurd h.last (by decide)

end DelayAdapter

end LocStack.Gnss.AidingDataDelay
