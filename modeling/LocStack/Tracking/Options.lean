/-
# `LocStack.Tracking.Options` — session options, and the loops over the sessions

GnssAdapter keeps the options of every tracking session, but LocApi runs at
most one time based fix: before each call the adapter folds the options of
`mTimeBasedTrackingSessions` into the one set that serves them all.  There
are two loops,

    Multiplexed.add    start, update, stop: the session with the smallest
                       interval, and apart from it the smallest power mode
    Restarted.add      engine up: the session with the smallest interval and
                       the session with the smallest power mode

and the second combines its two sessions while the callers of the first are
left to.  `Serves` is what the result is for.  Either loop computes it for
sessions of one kind, all with a power mode or all without (`OneKind`).
-/
import Mathlib.Data.List.MinMax
import Mathlib.Order.Bounds.Basic
import Std.Data.TreeMap

namespace LocStack.Tracking

open List

/-! ## The types -/

/-- `client` stands for the pointer. -/
structure LocationSessionKey where
  (client id : Nat)
  deriving DecidableEq

namespace LocationSessionKey

/-- `operator <`: by id, and by client where the ids agree. -/
instance : Ord LocationSessionKey :=
  ⟨compareLex (compareOn LocationSessionKey.id) (compareOn LocationSessionKey.client)⟩

instance : Std.TransOrd LocationSessionKey :=
  inferInstanceAs (Std.TransCmp
    (compareLex (compareOn LocationSessionKey.id) (compareOn LocationSessionKey.client)))

instance : Std.LawfulEqOrd LocationSessionKey where
  eq_of_compare {a b} h := by
    have h : (compare a.id b.id).then (compare a.client b.client) = .eq := h
    obtain ⟨hid, hclient⟩ := Ordering.then_eq_eq.mp h
    cases a
    cases b
    rw [mk.injEq]
    exact ⟨Nat.compare_eq_eq.mp hclient, Nat.compare_eq_eq.mp hid⟩

end LocationSessionKey

inductive GnssPowerMode where
  | invalid | m1 | m2 | m3 | m4 | m5
  deriving DecidableEq

/-- The value of the enumerator, by which the code compares. -/
def GnssPowerMode.toNat : GnssPowerMode → Nat
  | .invalid => 0
  | .m1 => 1
  | .m2 => 2
  | .m3 => 3
  | .m4 => 4
  | .m5 => 5

instance : LinearOrder GnssPowerMode :=
  LinearOrder.lift' GnssPowerMode.toNat fun p q h => by
    cases p <;> cases q <;> first | rfl | cases h

theorem GnssPowerMode.invalid_le (p : GnssPowerMode) : GnssPowerMode.invalid ≤ p :=
  Nat.zero_le p.toNat

inductive GnssSuplMode where
  | standalone | msb | msa
  deriving DecidableEq

structure LocationOptions where
  size : Nat
  /-- in milliseconds -/
  minInterval : Nat
  /-- in meters -/
  minDistance : Nat
  mode : GnssSuplMode
  locReqEngTypeMask : Nat
  deriving DecidableEq

structure TrackingOptions extends LocationOptions where
  powerMode : GnssPowerMode
  /-- Time between measurements, in milliseconds. -/
  tbm : Nat
  deriving DecidableEq

/-- After `memset(&options, 0, sizeof(options))`. -/
def TrackingOptions.zero : TrackingOptions where
  size := 0
  minInterval := 0
  minDistance := 0
  mode := .standalone
  locReqEngTypeMask := 0
  powerMode := .invalid
  tbm := 0

/-- `sizeof(TrackingOptions)`: seven 32-bit members. -/
def sizeofTrackingOptions : Nat := 28

/-- Options as a client fills them in. -/
def TrackingOptions.request (minInterval minDistance : Nat) (powerMode : GnssPowerMode) :
    TrackingOptions where
  size := sizeofTrackingOptions
  minInterval := minInterval
  minDistance := minDistance
  mode := .standalone
  locReqEngTypeMask := 0
  powerMode := powerMode
  tbm := 0

def TrackingOptions.setLocationOptions (o : TrackingOptions) (options : LocationOptions) :
    TrackingOptions :=
  { o with
    size := sizeofTrackingOptions
    minInterval := options.minInterval
    minDistance := options.minDistance
    mode := options.mode
    locReqEngTypeMask := options.locReqEngTypeMask }

def MIN_TRACKING_INTERVAL : Nat := 100

def TRACKING_TBM_THRESHOLD_MILLIS : Nat := 480000

/-- `if (mOptions.minInterval < MIN_TRACKING_INTERVAL)` of the start and the
update command. -/
def TrackingOptions.clampInterval (o : TrackingOptions) : TrackingOptions :=
  if o.minInterval < MIN_TRACKING_INTERVAL then { o with minInterval := MIN_TRACKING_INTERVAL }
  else o

/-- "Falling back to M2 power mode". -/
def TrackingOptions.fallBackToM2 (o : TrackingOptions) : TrackingOptions :=
  if o.powerMode = .m4 ∧ TRACKING_TBM_THRESHOLD_MILLIS < o.tbm then { o with powerMode := .m2 }
  else o

@[simp] theorem TrackingOptions.clampInterval_size (o : TrackingOptions) :
    o.clampInterval.size = o.size := by
  simp only [clampInterval]
  split <;> rfl

@[simp] theorem TrackingOptions.clampInterval_minDistance (o : TrackingOptions) :
    o.clampInterval.minDistance = o.minDistance := by
  simp only [clampInterval]
  split <;> rfl

@[simp] theorem TrackingOptions.fallBackToM2_size (o : TrackingOptions) :
    o.fallBackToM2.size = o.size := by
  simp only [fallBackToM2]
  split <;> rfl

@[simp] theorem TrackingOptions.fallBackToM2_minDistance (o : TrackingOptions) :
    o.fallBackToM2.minDistance = o.minDistance := by
  simp only [fallBackToM2]
  split <;> rfl

/-- `mTimeBasedTrackingSessions` -/
abbrev TrackingSessions := Std.TreeMap LocationSessionKey TrackingOptions

/-- `mDistanceBasedTrackingSessions` -/
abbrev DistanceSessions := Std.TreeMap LocationSessionKey LocationOptions

/-! ## The loops -/

/-- `multiplexedOptions` and `multiplexedPowerMode`. -/
structure Multiplexed where
  options : TrackingOptions
  powerMode : GnssPowerMode

def Multiplexed.unset : Multiplexed := ⟨.zero, .invalid⟩

/-- The body of the loop. -/
def Multiplexed.add (m : Multiplexed) (o : TrackingOptions) : Multiplexed where
  options :=
    if m.options.size = 0 ∨ o.minInterval < m.options.minInterval then o else m.options
  powerMode :=
    if m.powerMode = .invalid ∨ o.powerMode < m.powerMode then o.powerMode else m.powerMode

/-- The loop of `startTimeBasedTrackingMultiplex`. -/
def multiplexAll (sessions : TrackingSessions) : Multiplexed :=
  sessions.foldl (fun m _ o => m.add o) .unset

/-- The loop of `updateTrackingMultiplex` and `stopTimeBasedTrackingMultiplex`,
which leaves out the session the command is about. -/
def multiplexOthers (sessions : TrackingSessions) (key : LocationSessionKey) : Multiplexed :=
  sessions.foldl (fun m k o => if k ≠ key then m.add o else m) .unset

/-- `updateOptions`: does a session ask for more than those of the loop? -/
def Multiplexed.updateOptions (m : Multiplexed) (o : TrackingOptions) : Bool :=
  o.minInterval < m.options.minInterval || o.powerMode < m.powerMode

/-- The loop's options, lowered to what the session asks for.  Where only
the interval is, the power mode stays that of the session found first. -/
def Multiplexed.lowered (m : Multiplexed) (o : TrackingOptions) : TrackingOptions :=
  let multiplexedOptions :=
    if o.minInterval < m.options.minInterval then { m.options with minInterval := o.minInterval }
    else m.options
  if o.powerMode < m.powerMode then { multiplexedOptions with powerMode := o.powerMode }
  else multiplexedOptions

/-- `smallestIntervalOptions` and `highestPowerTrackingOptions`. -/
structure Restarted where
  (smallestInterval highestPower : TrackingOptions)

def Restarted.unset : Restarted := ⟨.zero, .zero⟩

/-- The body of the loop of `checkAndRestartTimeBasedSession`. -/
def Restarted.add (r : Restarted) (o : TrackingOptions) : Restarted where
  smallestInterval :=
    if r.smallestInterval.size = 0 ∨ o.minInterval < r.smallestInterval.minInterval then o
    else r.smallestInterval
  highestPower :=
    if r.highestPower.size = 0 ∨
        (o.powerMode ≠ .invalid ∧ o.powerMode < r.highestPower.powerMode) then o
    else r.highestPower

/-- What `checkAndRestartTimeBasedSession` hands to LocApi. -/
def restartOptions (sessions : TrackingSessions) : TrackingOptions :=
  let r : Restarted := sessions.foldl (fun r _ o => r.add o) .unset
  r.highestPower.setLocationOptions r.smallestInterval.toLocationOptions

/-! ## What the loops are for -/

/-- The least power mode that is one, or INVALID where there is none. -/
def LeastPowerMode (ps : Set GnssPowerMode) (p : GnssPowerMode) : Prop :=
  IsLeast {q | q ∈ ps ∧ q ≠ .invalid} p ∨ (p = .invalid ∧ ∀ q ∈ ps, q = .invalid)

/-- A fix of these options serves each of `os`, and asks for no more than
some of them do. -/
structure Serves (h : TrackingOptions) (os : Set TrackingOptions) : Prop where
  interval : IsLeast ((·.minInterval) '' os) h.minInterval
  power : LeastPowerMode ((·.powerMode) '' os) h.powerMode

/-- All options have a power mode or none has. -/
def OneKind (os : Set TrackingOptions) : Prop :=
  ∀ o ∈ os, ∀ o' ∈ os, (o.powerMode = .invalid ↔ o'.powerMode = .invalid)

/-- The options of the sessions in the map, in the order of the loops. -/
def optionsList (sessions : TrackingSessions) : List TrackingOptions :=
  sessions.toList.map Prod.snd

/-- Those of all sessions but one. -/
def othersList (sessions : TrackingSessions) (key : LocationSessionKey) : List TrackingOptions :=
  (sessions.toList.filter (·.1 ≠ key)).map Prod.snd

/-- The options of the sessions in the map. -/
def optionsOf (sessions : TrackingSessions) : Set TrackingOptions :=
  {o | ∃ k : LocationSessionKey, sessions[k]? = some o}

variable {os : Set TrackingOptions} {p : GnssPowerMode} {h h' o : TrackingOptions}

theorem OneKind.mono {os' : Set TrackingOptions} (h : OneKind os) (hsub : os' ⊆ os) : OneKind os' :=
  fun o ho o' ho' => h o (hsub ho) o' (hsub ho')

theorem LeastPowerMode.insert {ps : Set GnssPowerMode} {q : GnssPowerMode} (h : LeastPowerMode ps q)
    (hkind : p = .invalid ↔ q = .invalid) : LeastPowerMode (insert p ps) (min p q) := by
  rcases h with h | ⟨rfl, hall⟩
  · have hp : p ≠ .invalid := fun hp => h.1.2 (hkind.mp hp)
    refine .inl ?_
    have hset : {r | r ∈ Insert.insert p ps ∧ r ≠ .invalid}
        = Insert.insert p {r | r ∈ ps ∧ r ≠ .invalid} := by
      ext r
      simp only [Set.mem_insert_iff, Set.mem_ofPred_eq]
      constructor
      · rintro ⟨rfl | hr, hne⟩
        · exact .inl rfl
        · exact .inr ⟨hr, hne⟩
      · rintro (rfl | ⟨hr, hne⟩)
        · exact ⟨.inl rfl, hp⟩
        · exact ⟨.inr hr, hne⟩
    rw [hset]
    exact h.insert p
  · obtain rfl := hkind.mpr rfl
    refine .inr ⟨min_self _, ?_⟩
    rintro q (rfl | hq)
    · rfl
    · exact hall q hq

theorem LeastPowerMode.invalid_iff (hkind : OneKind os)
    (h : LeastPowerMode ((·.powerMode) '' os) p) :
    ∀ o ∈ os, (o.powerMode = .invalid ↔ p = .invalid) := by
  intro o ho
  rcases h with h | ⟨rfl, hall⟩
  · obtain ⟨⟨o', ho', rfl⟩, hne⟩ := h.1
    exact hkind o ho o' ho'
  · exact ⟨fun _ => rfl, fun _ => hall _ ⟨o, ho, rfl⟩⟩

theorem Serves.insert (hs : Serves h os) (hkind : o.powerMode = .invalid ↔ h.powerMode = .invalid)
    (hi : h'.minInterval = min o.minInterval h.minInterval)
    (hp : h'.powerMode = min o.powerMode h.powerMode) : Serves h' (insert o os) where
  interval := by
    rw [Set.image_insert_eq, hi]
    exact hs.interval.insert o.minInterval
  power := by
    rw [Set.image_insert_eq, hp]
    exact hs.power.insert hkind

theorem Serves.congr (hs : Serves h os) (hi : h'.minInterval = h.minInterval)
    (hp : h'.powerMode = h.powerMode) : Serves h' os :=
  ⟨hi ▸ hs.interval, hp ▸ hs.power⟩

theorem serves_singleton (o : TrackingOptions) : Serves o {o} where
  interval := by simp
  power := by
    rw [Set.image_singleton]
    rcases eq_or_ne o.powerMode .invalid with hp | hp
    · exact .inr ⟨hp, fun q hq => hq.trans hp⟩
    · exact .inl ⟨⟨rfl, hp⟩, fun q hq => hq.1.ge⟩

/-! ## What the loops compute -/

/-- What the loop has found out about the sessions it has been over. -/
structure Multiplexed.Of (m : Multiplexed) (os : Set TrackingOptions) : Prop where
  mem : m.options ∈ os
  interval : IsLeast ((·.minInterval) '' os) m.options.minInterval
  power : LeastPowerMode ((·.powerMode) '' os) m.powerMode

theorem Multiplexed.Of.add {m : Multiplexed} (hm : m.Of os) (hsize : m.options.size ≠ 0)
    (hkind : o.powerMode = .invalid ↔ m.powerMode = .invalid) : (m.add o).Of (insert o os) where
  mem := by
    simp only [Multiplexed.add]
    split
    · exact Set.mem_insert o os
    · exact Set.mem_insert_of_mem o hm.mem
  interval := by
    rw [Set.image_insert_eq]
    have hmin : (m.add o).options.minInterval = min o.minInterval m.options.minInterval := by
      simp only [Multiplexed.add, hsize, false_or]
      split <;> omega
    rw [hmin]
    exact hm.interval.insert o.minInterval
  power := by
    rw [Set.image_insert_eq]
    have hmin : (m.add o).powerMode = min o.powerMode m.powerMode := by
      simp only [Multiplexed.add]
      split
      case isTrue h =>
        rcases h with h | h
        · rw [hkind.mpr h, h, min_self]
        · exact (min_eq_left h.le).symm
      case isFalse h =>
        exact (min_eq_right (not_lt.mp fun hlt => h (.inr hlt))).symm
    rw [hmin]
    exact hm.power.insert hkind

theorem Multiplexed.add_unset (o : TrackingOptions) : (unset.add o) = ⟨o, o.powerMode⟩ := by
  simp [Multiplexed.add, unset, TrackingOptions.zero]

theorem setOf_mem_append_singleton (os : List TrackingOptions) (o : TrackingOptions) :
    {x | x ∈ os ++ [o]} = insert o {x | x ∈ os} := by
  ext x
  simp [or_comm]

theorem multiplexed_of_list {os : List TrackingOptions} (hne : os ≠ [])
    (hsize : ∀ o ∈ os, o.size ≠ 0) (hkind : OneKind {o | o ∈ os}) :
    (os.foldl Multiplexed.add .unset).Of {o | o ∈ os} := by
  induction os using List.reverseRecOn with
  | nil => exact absurd rfl hne
  | append_singleton os o ih =>
    rw [foldl_append, setOf_mem_append_singleton]
    rcases os.eq_nil_or_concat' with rfl | ⟨os', o', rfl⟩
    · have hs := serves_singleton o
      simp only [foldl_nil, foldl_cons, Multiplexed.add_unset, not_mem_nil,
        Set.ofPred_false, insert_empty_eq]
      exact ⟨rfl, hs.interval, hs.power⟩
    · have hkind' : OneKind {x | x ∈ os' ++ [o']} :=
        hkind.mono fun x hx => mem_append_left [o] hx
      have hm := ih (by simp) (fun x hx => hsize x (mem_append_left [o] hx)) hkind'
      refine hm.add (hsize _ (mem_append_left [o] hm.mem)) ?_
      rw [← hm.power.invalid_iff hkind' o' (by simp)]
      exact hkind o (by simp) o' (by simp)

theorem argmin_of_list {os : List TrackingOptions} (hne : os ≠ [])
    (hsize : ∀ o ∈ os, o.size ≠ 0) :
    os.argmin (·.minInterval) = some (os.foldl Multiplexed.add .unset).options := by
  induction os using List.reverseRecOn with
  | nil => exact absurd rfl hne
  | append_singleton os o ih =>
    rw [foldl_append, argmin_concat]
    rcases eq_or_ne os [] with rfl | hos
    · rw [foldl_nil, foldl_cons, foldl_nil, Multiplexed.add_unset]
      rfl
    · have hmin := ih hos fun x hx => hsize x (mem_append_left [o] hx)
      have hmem := argmin_mem (Option.mem_def.mpr hmin)
      have hset : (os.foldl Multiplexed.add .unset).options.size ≠ 0 :=
        hsize _ (mem_append_left [o] hmem)
      rw [hmin, foldl_cons, foldl_nil]
      simp only [Multiplexed.add, hset, false_or]
      split <;> rfl

/-! ## Who serves whom -/

theorem Serves.unique (hs : Serves h os) (hs' : Serves h' os) :
    h.minInterval = h'.minInterval ∧ h.powerMode = h'.powerMode := by
  refine ⟨hs.interval.unique hs'.interval, ?_⟩
  rcases hs.power with hp | ⟨hp, hall⟩
  · rcases hs'.power with hp' | ⟨_, hall'⟩
    · exact hp.unique hp'
    · exact absurd (hall' _ hp.1.1) hp.1.2
  · rcases hs'.power with hp' | ⟨hp', _⟩
    · exact absurd (hall _ hp'.1.1) hp'.1.2
    · rw [hp, hp']

section Multiplex

variable {m : Multiplexed} {os : Set TrackingOptions} {h o old : TrackingOptions}

theorem Multiplexed.Of.serves (hm : m.Of os) :
    Serves { m.options with powerMode := m.powerMode } os :=
  ⟨hm.interval, hm.power⟩

/-- A session joins and asks for more: its interval may come alone only if
the session with the smallest interval has the smallest power mode. -/
theorem Multiplexed.Of.lowered_serves (hm : m.Of os)
    (hkind : o.powerMode = .invalid ↔ m.powerMode = .invalid) (hup : m.updateOptions o = true)
    (hlead : o.minInterval < m.options.minInterval →
      o.powerMode < m.powerMode ∨ m.options.powerMode = m.powerMode) :
    Serves (m.lowered o) (insert o os) := by
  simp only [Multiplexed.updateOptions, Bool.or_eq_true, decide_eq_true_eq] at hup
  refine hm.serves.insert hkind ?_ ?_
  · have hmin : (m.lowered o).minInterval
        = if o.minInterval < m.options.minInterval then o.minInterval
          else m.options.minInterval := by
      simp only [Multiplexed.lowered]
      split <;> split <;> rfl
    rw [hmin]
    show _ = min o.minInterval m.options.minInterval
    split <;> omega
  · show _ = min o.powerMode m.powerMode
    simp only [Multiplexed.lowered]
    split
    case isTrue hlt => exact (min_eq_left hlt.le).symm
    case isFalse hlt =>
      rcases hup with hi | hp
      · rw [min_eq_right (not_lt.mp hlt), if_pos hi]
        exact (hlead hi).resolve_left hlt
      · exact absurd hp hlt

theorem Multiplexed.Of.kept_serves (hm : m.Of os) (hs : Serves h os)
    (hkind : o.powerMode = .invalid ↔ m.powerMode = .invalid)
    (hup : m.updateOptions o = false) : Serves h (insert o os) := by
  simp only [Multiplexed.updateOptions, Bool.or_eq_false_iff, decide_eq_false_iff_not] at hup
  obtain ⟨hi, hp⟩ := hs.unique hm.serves
  have hi : h.minInterval = m.options.minInterval := hi
  have hp : h.powerMode = m.powerMode := hp
  refine hs.insert (hp ▸ hkind) ?_ ?_
  · rw [hi]
    exact (min_eq_right (not_lt.mp hup.1)).symm
  · rw [hp]
    exact (min_eq_right (not_lt.mp hup.2)).symm

theorem Multiplexed.Of.left_serves (hm : m.Of os) (hs : Serves h (insert old os))
    (hkind : old.powerMode = .invalid ↔ m.powerMode = .invalid)
    (hup : m.updateOptions old = false) : Serves h os := by
  obtain ⟨hi, hp⟩ := hs.unique (hm.kept_serves hm.serves hkind hup)
  exact hm.serves.congr hi hp

end Multiplex

/-- What the engine-up loop has found out about the sessions it has been over. -/
structure Restarted.Of (r : Restarted) (os : Set TrackingOptions) : Prop where
  memSmallest : r.smallestInterval ∈ os
  memHighest : r.highestPower ∈ os
  interval : IsLeast ((·.minInterval) '' os) r.smallestInterval.minInterval
  power : LeastPowerMode ((·.powerMode) '' os) r.highestPower.powerMode

theorem Restarted.Of.add {r : Restarted} (hr : r.Of os) (hsmall : r.smallestInterval.size ≠ 0)
    (hhigh : r.highestPower.size ≠ 0)
    (hkind : o.powerMode = .invalid ↔ r.highestPower.powerMode = .invalid) :
    (r.add o).Of (insert o os) where
  memSmallest := by
    simp only [Restarted.add]
    split
    · exact Set.mem_insert o os
    · exact Set.mem_insert_of_mem o hr.memSmallest
  memHighest := by
    simp only [Restarted.add]
    split
    · exact Set.mem_insert o os
    · exact Set.mem_insert_of_mem o hr.memHighest
  interval := by
    rw [Set.image_insert_eq]
    have hmin : (r.add o).smallestInterval.minInterval
        = min o.minInterval r.smallestInterval.minInterval := by
      simp only [Restarted.add, hsmall, false_or]
      split <;> omega
    rw [hmin]
    exact hr.interval.insert o.minInterval
  power := by
    rw [Set.image_insert_eq]
    have hmin : (r.add o).highestPower.powerMode
        = min o.powerMode r.highestPower.powerMode := by
      simp only [Restarted.add, hhigh, false_or]
      split
      case isTrue h => exact (min_eq_left h.2.le).symm
      case isFalse h =>
        by_cases hp : o.powerMode = .invalid
        · rw [hp, hkind.mp hp, min_self]
        · exact (min_eq_right (not_lt.mp fun hlt => h ⟨hp, hlt⟩)).symm
    rw [hmin]
    exact hr.power.insert hkind

theorem restarted_of_list {os : List TrackingOptions} (hne : os ≠ [])
    (hsize : ∀ o ∈ os, o.size ≠ 0) (hkind : OneKind {o | o ∈ os}) :
    (os.foldl Restarted.add .unset).Of {o | o ∈ os} := by
  induction os using List.reverseRecOn with
  | nil => exact absurd rfl hne
  | append_singleton os o ih =>
    rw [foldl_append, setOf_mem_append_singleton]
    rcases os.eq_nil_or_concat' with rfl | ⟨os', o', rfl⟩
    · have hs := serves_singleton o
      have hadd : Restarted.unset.add o = ⟨o, o⟩ := by
        simp [Restarted.add, Restarted.unset, TrackingOptions.zero]
      simp only [foldl_nil, foldl_cons, hadd, not_mem_nil, Set.ofPred_false, insert_empty_eq]
      exact ⟨rfl, rfl, hs.interval, hs.power⟩
    · have hkind' : OneKind {x | x ∈ os' ++ [o']} :=
        hkind.mono fun x hx => mem_append_left [o] hx
      have hr := ih (by simp) (fun x hx => hsize x (mem_append_left [o] hx)) hkind'
      refine hr.add (hsize _ (mem_append_left [o] hr.memSmallest))
        (hsize _ (mem_append_left [o] hr.memHighest)) ?_
      rw [← hr.power.invalid_iff hkind' o' (by simp)]
      exact hkind o (by simp) o' (by simp)

/-! ## The same over the map -/

section Sessions

variable {sessions : TrackingSessions} {key : LocationSessionKey} {o : TrackingOptions}

theorem mem_optionsList : o ∈ optionsList sessions ↔ o ∈ optionsOf sessions := by
  simp only [optionsList, optionsOf, Set.mem_ofPred_eq, mem_map, Prod.exists,
    Std.TreeMap.mem_toList_iff_getElem?_eq_some]
  simp

theorem mem_othersList : o ∈ othersList sessions key ↔ o ∈ optionsOf (sessions.erase key) := by
  simp only [othersList, optionsOf, Set.mem_ofPred_eq, mem_map, mem_filter, Prod.exists,
    Std.TreeMap.mem_toList_iff_getElem?_eq_some, Std.TreeMap.getElem?_erase,
    Std.compare_eq_iff_eq, decide_eq_true_eq]
  constructor
  · rintro ⟨k, o', ⟨hk, hne⟩, rfl⟩
    exact ⟨k, by rw [if_neg fun h => hne h.symm, hk]⟩
  · rintro ⟨k, hk⟩
    split at hk
    · cases hk
    · exact ⟨k, o, ⟨hk, fun h => ‹¬ key = k› h.symm⟩, rfl⟩

theorem setOf_mem_optionsList : {o | o ∈ optionsList sessions} = optionsOf sessions :=
  Set.ext fun _ => mem_optionsList

theorem setOf_mem_othersList :
    {o | o ∈ othersList sessions key} = optionsOf (sessions.erase key) :=
  Set.ext fun _ => mem_othersList

theorem optionsOf_insert : optionsOf (sessions.insert key o)
    = insert o (optionsOf (sessions.erase key)) := by
  ext x
  simp only [optionsOf, Set.mem_insert_iff, Set.mem_ofPred_eq, Std.TreeMap.getElem?_insert,
    Std.TreeMap.getElem?_erase, Std.compare_eq_iff_eq]
  constructor
  · rintro ⟨k, hk⟩
    split at hk
    · exact .inl (Option.some.inj hk).symm
    · exact .inr ⟨k, by rwa [if_neg ‹_›]⟩
  · rintro (rfl | ⟨k, hk⟩)
    · exact ⟨key, if_pos rfl⟩
    · split at hk
      · cases hk
      · exact ⟨k, by rwa [if_neg ‹_›]⟩

theorem optionsOf_erase_of_not_mem (h : sessions[key]? = none) :
    optionsOf (sessions.erase key) = optionsOf sessions := by
  ext x
  simp only [optionsOf, Set.mem_ofPred_eq, Std.TreeMap.getElem?_erase, Std.compare_eq_iff_eq]
  refine exists_congr fun k => ?_
  split
  case isTrue hk => simp [← hk, h]
  case isFalse => rfl

theorem optionsOf_eq_insert (h : sessions[key]? = some o) :
    optionsOf sessions = insert o (optionsOf (sessions.erase key)) := by
  ext x
  simp only [optionsOf, Set.mem_insert_iff, Set.mem_ofPred_eq, Std.TreeMap.getElem?_erase,
    Std.compare_eq_iff_eq]
  constructor
  · rintro ⟨k, hk⟩
    by_cases hkey : key = k
    · rw [← hkey, h] at hk
      exact .inl (Option.some.inj hk).symm
    · exact .inr ⟨k, by rwa [if_neg hkey]⟩
  · rintro (rfl | ⟨k, hk⟩)
    · exact ⟨key, h⟩
    · split at hk
      · cases hk
      · exact ⟨k, hk⟩

theorem optionsOf_erase_subset : optionsOf (sessions.erase key) ⊆ optionsOf sessions := by
  rintro x ⟨k, hk⟩
  rw [Std.TreeMap.getElem?_erase] at hk
  split at hk
  · cases hk
  · exact ⟨k, hk⟩

theorem optionsOf_nonempty_iff : (optionsOf sessions).Nonempty ↔ sessions.isEmpty = false := by
  rw [Std.TreeMap.isEmpty_eq_false_iff_exists_mem]
  constructor
  · rintro ⟨o, k, hk⟩
    exact ⟨k, (Std.TreeMap.getElem?_eq_some_iff.mp hk).fst⟩
  · rintro ⟨k, hk⟩
    obtain ⟨o, ho⟩ := Option.isSome_iff_exists.mp (Std.TreeMap.mem_iff_isSome_getElem?.mp hk)
    exact ⟨o, k, ho⟩

/-- All the options in the map have been set. -/
def Sized (sessions : TrackingSessions) : Prop :=
  ∀ o ∈ optionsOf sessions, o.size ≠ 0

theorem size_eq_one_iff (hkey : key ∈ sessions) :
    sessions.size = 1 ↔ (sessions.erase key).isEmpty = true := by
  have hsome : sessions.isEmpty = false :=
    Std.TreeMap.isEmpty_eq_false_iff_exists_mem.mpr ⟨key, hkey⟩
  rw [Std.TreeMap.isEmpty_erase, hsome, Std.TreeMap.contains_iff_mem.mpr hkey]
  simp

theorem multiplexAll_eq :
    multiplexAll sessions = (optionsList sessions).foldl Multiplexed.add .unset := by
  rw [multiplexAll, optionsList, Std.TreeMap.foldl_eq_foldl_toList, foldl_map]

theorem multiplexOthers_eq :
    multiplexOthers sessions key = (othersList sessions key).foldl Multiplexed.add .unset := by
  rw [multiplexOthers, othersList, Std.TreeMap.foldl_eq_foldl_toList, foldl_map, foldl_filter]
  simp only [decide_eq_true_eq]

theorem multiplexAll_of (hne : optionsList sessions ≠ []) (hsize : Sized sessions)
    (hkind : OneKind (optionsOf sessions)) : (multiplexAll sessions).Of (optionsOf sessions) := by
  rw [multiplexAll_eq, ← setOf_mem_optionsList]
  refine multiplexed_of_list hne (fun x hx => hsize x (mem_optionsList.mp hx)) ?_
  rwa [setOf_mem_optionsList]

theorem multiplexOthers_of (hne : othersList sessions key ≠ []) (hsize : Sized sessions)
    (hkind : OneKind (optionsOf (sessions.erase key))) :
    (multiplexOthers sessions key).Of (optionsOf (sessions.erase key)) := by
  rw [multiplexOthers_eq, ← setOf_mem_othersList]
  refine multiplexed_of_list hne
    (fun x hx => hsize x (optionsOf_erase_subset (mem_othersList.mp hx))) ?_
  rwa [setOf_mem_othersList]

theorem argmin_optionsList (hne : optionsList sessions ≠ []) (hsize : Sized sessions) :
    (optionsList sessions).argmin (·.minInterval) = some (multiplexAll sessions).options := by
  rw [multiplexAll_eq]
  exact argmin_of_list hne fun x hx => hsize x (mem_optionsList.mp hx)

theorem argmin_othersList (hne : othersList sessions key ≠ []) (hsize : Sized sessions) :
    (othersList sessions key).argmin (·.minInterval)
      = some (multiplexOthers sessions key).options := by
  rw [multiplexOthers_eq]
  exact argmin_of_list hne fun x hx => hsize x (optionsOf_erase_subset (mem_othersList.mp hx))

theorem restartOptions_serves (hne : optionsList sessions ≠ []) (hsize : Sized sessions)
    (hkind : OneKind (optionsOf sessions)) :
    Serves (restartOptions sessions) (optionsOf sessions) := by
  have hfold : sessions.foldl (fun (r : Restarted) _ o => r.add o) .unset
      = (optionsList sessions).foldl Restarted.add .unset := by
    rw [optionsList, Std.TreeMap.foldl_eq_foldl_toList, foldl_map]
  have hr := restarted_of_list hne (fun x hx => hsize x (mem_optionsList.mp hx))
    (setOf_mem_optionsList ▸ hkind)
  rw [← hfold, setOf_mem_optionsList] at hr
  exact ⟨hr.interval, hr.power⟩

theorem optionsList_ne_nil_iff : optionsList sessions ≠ [] ↔ sessions.isEmpty = false := by
  rw [optionsList, Ne, List.map_eq_nil_iff, ← List.isEmpty_iff, Std.TreeMap.isEmpty_toList,
    Bool.not_eq_true]

theorem othersList_ne_nil_iff :
    othersList sessions key ≠ [] ↔ (sessions.erase key).isEmpty = false := by
  rw [← optionsOf_nonempty_iff, ← setOf_mem_othersList]
  exact ⟨fun h => exists_mem_of_ne_nil _ h, fun ⟨x, hx⟩ => ne_nil_of_mem hx⟩

end Sessions

end LocStack.Tracking
