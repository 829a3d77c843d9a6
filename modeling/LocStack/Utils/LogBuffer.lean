/-
# `LocStack.Utils.LogBuffer` — the last logs of each level

append puts an item to the back of a SkipList, counts it, and takes items of its
level from the front as long as

    timestamp - front > mTimeDepthThres     unsigned, of 64 bits
    mCurrentSize > mMaxNumThres

The difference wraps for a front that is later than the item appended; a level
that may have no item is emptied, and then its front is read again; and flush
leaves the counters.  `log_right_of_fits`: where none of this happens, the counters
are right, no item goes without a reason, and no front of an empty level is read.

mCurrentSize is an int and compared as unsigned; it is never negative.
-/
import LocStack.Base.Keyed
import LocStack.Utils.SkipList

namespace LocStack.Utils

open Base List Function

variable {δ : Type*}

abbrev TOTAL_LOG_LEVELS : ℕ := 5

/-- The thresholds of a level. -/
structure ConfigsInLevel where
  (mTimeDepthThres mMaxNumThres : UInt32)

abbrev LogItem (δ : Type*) := UInt64 × δ

structure LogBuffer (δ : Type*) where
  mLogList : SkipList (LogItem δ)
  mCurrentSize : ℕ → ℕ

/-- An item that is taken out, with the size of its level before and the time of
the item appended. -/
structure Eviction (δ : Type*) where
  item : LogItem δ
  (level size : ℕ)
  timestamp : UInt64

namespace LogBuffer

def new : LogBuffer δ := ⟨.new TOTAL_LOG_LEVELS, fun _ => 0⟩

/-- The loop of append, or none if it reads the front of an empty level. -/
def evict (config : ConfigsInLevel) (level : ℕ) (timestamp : UInt64) :
    (turns : ℕ) → LogBuffer δ → Option (LogBuffer δ × List (Eviction δ))
  | 0, _ => none
  | turns + 1, s => do
      let front ← s.mLogList.front level
      let size := s.mCurrentSize level
      if (timestamp - front.1).toNat > config.mTimeDepthThres.toNat ∨
          size > config.mMaxNumThres.toNat then
        let mLogList ← s.mLogList.popLevel level
        let rest ← evict config level timestamp turns
          ⟨mLogList, update s.mCurrentSize level (size - 1)⟩
        return (rest.1, ⟨front, level, size, timestamp⟩ :: rest.2)
      else return (s, [])

def append (mConfigVec : ℕ → ConfigsInLevel) (s : LogBuffer δ) (data : δ) (level : ℕ)
    (timestamp : UInt64) : Option (LogBuffer δ × List (Eviction δ)) := do
  let mLogList ← s.mLogList.append (timestamp, data) level
  evict (mConfigVec level) level timestamp (mLogList.mMainList.length + 1)
    ⟨mLogList, update s.mCurrentSize level (s.mCurrentSize level + 1)⟩

def flush (s : LogBuffer δ) : LogBuffer δ := { s with mLogList := s.mLogList.flush }

/-- The items stored of a level. -/
def items (s : LogBuffer δ) (level : ℕ) : List (LogItem δ) :=
  (s.mLogList.dump.filter (·.2 == (level : Int))).map Prod.fst

end LogBuffer

/-- A level is one of those that have thresholds. -/
inductive LogEvent (δ : Type*) where
  | append (data : δ) (level : Fin TOTAL_LOG_LEVELS) (timestamp : UInt64)
  | dump | flush

/-- The buffer, none after undefined behaviour, and all that was taken out. -/
structure WatchedLog (δ : Type*) where
  buffer : Option (LogBuffer δ)
  evictions : List (Eviction δ)

/-- The item is older than the appended one by more than the level allows. -/
def ConfigsInLevel.Old (config : ConfigsInLevel) (timestamp : UInt64) (item : LogItem δ) : Prop :=
  item.1.toNat + config.mTimeDepthThres.toNat < timestamp.toNat
  deriving Decidable

/-- There may be an item, and of the last that there may be the first that is
not old, where the loop is to stop, is not taken for old. -/
def ConfigsInLevel.Timely (config : ConfigsInLevel) (timestamp : UInt64)
    (items : List (LogItem δ)) : Prop :=
  0 < config.mMaxNumThres.toNat ∧
    ∀ front ∈ ((items.drop (items.length - config.mMaxNumThres.toNat)).dropWhile
        fun item => config.Old timestamp item).head?,
      (timestamp - front.1).toNat ≤ config.mTimeDepthThres.toNat
  deriving Decidable

namespace WatchedLog

variable (mConfigVec : ℕ → ConfigsInLevel)

def new : WatchedLog δ := ⟨some .new, []⟩

def step (w : WatchedLog δ) : LogEvent δ → WatchedLog δ × List Empty
  | .append data level timestamp =>
    match w.buffer.bind fun s => s.append mConfigVec data level timestamp with
    | some (s, evictions) => (⟨some s, w.evictions ++ evictions⟩, [])
    | none => (⟨none, w.evictions⟩, [])
  | .dump => (w, [])
  | .flush => (⟨w.buffer.map LogBuffer.flush, w.evictions⟩, [])

def Right (w : WatchedLog δ) : Prop :=
  ∃ s, w.buffer = some s ∧
    (∀ level < TOTAL_LOG_LEVELS, s.mCurrentSize level = (s.items level).length) ∧
    ∀ e ∈ w.evictions, (mConfigVec e.level).mMaxNumThres.toNat < e.size ∨
      (mConfigVec e.level).Old e.timestamp e.item

/-- Items come in time, as far as it matters, and nothing is flushed. -/
def Fits (w : WatchedLog δ) : LogEvent δ → Prop
  | .append data level timestamp => ∀ s, w.buffer = some s →
      (mConfigVec level).Timely timestamp (s.items level ++ [(timestamp, data)])
  | .dump => True
  | .flush => ∀ s, w.buffer = some s → s.mLogList.dump = []

end WatchedLog

/-! ## The loop -/

section Timely

variable {config : ConfigsInLevel} {timestamp : UInt64} {front : LogItem δ}
  {rest : List (LogItem δ)}

theorem ConfigsInLevel.Timely.of_many (h : config.Timely timestamp (front :: rest))
    (hmany : config.mMaxNumThres.toNat < rest.length + 1) : config.Timely timestamp rest := by
  refine ⟨h.1, ?_⟩
  have hlast := h.2
  rwa [length_cons, Nat.succ_sub (Nat.le_of_lt_succ hmany), drop_succ_cons] at hlast

theorem ConfigsInLevel.Timely.of_late (h : config.Timely timestamp (front :: rest))
    (hfew : rest.length + 1 ≤ config.mMaxNumThres.toNat)
    (hlate : (timestamp - front.1).toNat > config.mTimeDepthThres.toNat) :
    config.Old timestamp front ∧ config.Timely timestamp rest := by
  have hlast := h.2
  rw [length_cons, Nat.sub_eq_zero_of_le hfew, drop_zero, dropWhile_cons] at hlast
  split at hlast
  · next hold =>
      refine ⟨of_decide_eq_true hold, h.1, ?_⟩
      rwa [Nat.sub_eq_zero_of_le (Nat.le_of_succ_le hfew), drop_zero]
  · exact absurd (hlast front rfl) (Nat.not_le_of_lt hlate)

end Timely

namespace LogBuffer

variable {s : LogBuffer δ} {held : List (LogItem δ × Int)} {level : ℕ}

/-- The list holds these items, and the counters say how many. -/
structure Holds (s : LogBuffer δ) (held : List (LogItem δ × Int)) : Prop where
  kept : SkipList.Kept TOTAL_LOG_LEVELS s.mLogList held
  counted : ∀ l : ℕ, s.mCurrentSize l = (ofKey Prod.snd (l : Int) held).length

theorem Holds.items_eq (h : s.Holds held) (level : ℕ) :
    s.items level = (ofKey Prod.snd (level : Int) held).map Prod.fst := by
  unfold items
  rw [h.kept.main.dump]
  rfl

theorem Holds.popped (h : s.Holds held) {mLogList : SkipList (LogItem δ)}
    (hkept : SkipList.Kept TOTAL_LOG_LEVELS mLogList (settle Prod.snd (level : Int) held)) :
    Holds ⟨mLogList, update s.mCurrentSize level (s.mCurrentSize level - 1)⟩
      (settle Prod.snd (level : Int) held) := by
  refine ⟨hkept, fun l => ?_⟩
  rcases eq_or_ne l level with rfl | hne
  · refine (update_self ..).trans ?_
    rw [h.counted, ofKey_settle_self, length_tail]
  · refine (update_of_ne hne ..).trans ?_
    rw [h.counted, ofKey_settle_of_ne (Int.ofNat_inj.not.mpr hne)]

variable {timestamp : UInt64}

theorem Holds.evict (hlevel : level < TOTAL_LOG_LEVELS) {config : ConfigsInLevel} {turns : ℕ}
    (h : s.Holds held) (hturns : (s.items level).length < turns)
    (htimely : config.Timely timestamp (s.items level))
    (hlast : ∃ before data, s.items level = before ++ [(timestamp, data)]) :
    ∃ s' evictions held', LogBuffer.evict config level timestamp turns s = some (s', evictions) ∧
      s'.Holds held' ∧ ∀ e ∈ evictions, e.level = level ∧
        (config.mMaxNumThres.toNat < e.size ∨ config.Old e.timestamp e.item) := by
  induction turns generalizing s held with
  | zero => cases hturns
  | succ turns ih =>
    have h0 : (0 : Int) ≤ level := Int.natCast_nonneg level
    have hn : (level : Int) < TOTAL_LOG_LEVELS := Int.ofNat_lt.mpr hlevel
    obtain ⟨before, data, hbefore⟩ := hlast
    have hitems := h.items_eq level
    have hfront : s.mLogList.front level = (s.items level).head? := by
      rw [h.kept.front h0 hn, hitems, List.head?_map]
      rfl
    cases hlist : s.items level with
    | nil => cases (append_eq_nil_iff.mp (hbefore.symm.trans hlist)).2
    | cons front rest =>
      have hsize : s.mCurrentSize level = rest.length + 1 := by
        rw [h.counted, ← length_map (f := Prod.fst), ← hitems, hlist, length_cons]
      unfold LogBuffer.evict
      rw [hfront, hlist]
      simp only [List.head?_cons, Option.bind_eq_bind, Option.bind_some]
      split
      · next hout =>
          rw [hlist] at htimely
          obtain ⟨hreason, hnext, hrest⟩ : (config.mMaxNumThres.toNat < s.mCurrentSize level ∨
                config.Old timestamp front) ∧ config.Timely timestamp rest ∧ rest ≠ [] := by
            rcases Nat.lt_or_ge config.mMaxNumThres.toNat (rest.length + 1) with hmany | hfew
            · refine ⟨.inl (hsize ▸ hmany), htimely.of_many hmany, ?_⟩
              rintro rfl
              exact Nat.not_le_of_lt htimely.1 (Nat.le_of_lt_succ hmany)
            · have hlate := hout.resolve_right (hsize ▸ Nat.not_lt_of_le hfew)
              obtain ⟨hold, hnext⟩ := htimely.of_late hfew hlate
              refine ⟨.inr hold, hnext, ?_⟩
              rintro rfl
              obtain ⟨-, hsame⟩ := append_eq_singleton_iff.mp
                (hbefore.symm.trans hlist) |>.resolve_right (fun h => nomatch h.2)
              cases hsame
              rw [UInt64.sub_self] at hlate
              exact Nat.not_lt_zero _ hlate
          obtain ⟨mLogList, hpop, hkept⟩ := h.kept.popLevel h0 hn
          have hpopped := h.popped hkept
          have hleft : LogBuffer.items ⟨mLogList, update s.mCurrentSize level
              (s.mCurrentSize level - 1)⟩ level = rest := by
            rw [hpopped.items_eq, ofKey_settle_self, map_tail, ← hitems, hlist, tail_cons]
          have hlast' : ∃ before data, rest = before ++ [(timestamp, data)] := by
            cases before with
            | nil => exact absurd (List.cons.inj (hlist.symm.trans hbefore)).2 hrest
            | cons first before =>
              exact ⟨before, data, (List.cons.inj (hlist.symm.trans hbefore)).2⟩
          obtain ⟨s', evictions, held', hevict, hholds, hall⟩ := ih hpopped
            (by rw [hleft]; rw [hlist] at hturns; exact Nat.lt_of_succ_lt_succ hturns)
            (by rwa [hleft]) (by rwa [hleft])
          refine ⟨s', ⟨front, level, s.mCurrentSize level, timestamp⟩ :: evictions, held', ?_,
            hholds, forall_mem_cons.mpr ⟨⟨rfl, hreason⟩, hall⟩⟩
          rw [hpop, Option.bind_some, hevict]
          rfl
      · exact ⟨s, [], held, rfl, h, nofun⟩

theorem Holds.append (h : s.Holds held) {mConfigVec : ℕ → ConfigsInLevel}
    (hlevel : level < TOTAL_LOG_LEVELS) {data : δ}
    (htimely : (mConfigVec level).Timely timestamp (s.items level ++ [(timestamp, data)])) :
    ∃ s' evictions held', s.append mConfigVec data level timestamp = some (s', evictions) ∧
      s'.Holds held' ∧ ∀ e ∈ evictions, e.level = level ∧
        ((mConfigVec level).mMaxNumThres.toNat < e.size ∨
          (mConfigVec level).Old e.timestamp e.item) := by
  obtain ⟨mLogList, happend, hkept⟩ := h.kept.append (timestamp, data)
    (Int.natCast_nonneg level) (Int.ofNat_lt.mpr hlevel)
  have hlevels : ofKey Prod.snd (level : Int) (held ++ [((timestamp, data), (level : Int))]) =
      ofKey Prod.snd (level : Int) held ++ [((timestamp, data), (level : Int))] :=
    ofKey_concat_self Prod.snd rfl
  have hadded : Holds ⟨mLogList, update s.mCurrentSize level (s.mCurrentSize level + 1)⟩
      (held ++ [((timestamp, data), (level : Int))]) := by
    refine ⟨hkept, fun l => ?_⟩
    rcases eq_or_ne l level with rfl | hne
    · refine (update_self ..).trans ?_
      rw [h.counted, hlevels, length_append, length_singleton]
    · refine (update_of_ne hne ..).trans ?_
      rw [h.counted, ofKey_concat_of_ne Prod.snd (Int.ofNat_inj.not.mpr hne.symm)]
  have hitems : LogBuffer.items
      ⟨mLogList, update s.mCurrentSize level (s.mCurrentSize level + 1)⟩ level =
      s.items level ++ [(timestamp, data)] := by
    rw [hadded.items_eq, hlevels, map_append, ← h.items_eq]
    rfl
  have hlength : (LogBuffer.items
      ⟨mLogList, update s.mCurrentSize level (s.mCurrentSize level + 1)⟩ level).length ≤
      mLogList.mMainList.length := by
    unfold items
    rw [length_map]
    exact Nat.le_trans (length_filter_le ..) (length_filterMap_le ..)
  obtain ⟨s', evictions, held', hevict, hholds, hall⟩ :=
    hadded.evict hlevel (Nat.lt_succ_of_le hlength) (hitems ▸ htimely) ⟨_, data, hitems⟩
  refine ⟨s', evictions, held', ?_, hholds, hall⟩
  unfold LogBuffer.append
  rw [happend]
  exact hevict

theorem Holds.flush (h : s.Holds held) (hdump : s.mLogList.dump = []) : s.flush.Holds [] := by
  refine ⟨h.kept.flush, fun l => ?_⟩
  rw [h.kept.main.dump] at hdump
  subst hdump
  exact h.counted l

end LogBuffer

namespace WatchedLog

variable {mConfigVec : ℕ → ConfigsInLevel} {w : WatchedLog δ}

/-- What an append or a dump keeps: the counters, and a reason for each that went. -/
def Sound (mConfigVec : ℕ → ConfigsInLevel) (w : WatchedLog δ) : Prop :=
  ∃ s held, w.buffer = some s ∧ s.Holds held ∧
    ∀ e ∈ w.evictions, (mConfigVec e.level).mMaxNumThres.toNat < e.size ∨
      (mConfigVec e.level).Old e.timestamp e.item

theorem Sound.right (h : w.Sound mConfigVec) : w.Right mConfigVec := by
  obtain ⟨s, held, hs, hholds, hall⟩ := h
  refine ⟨s, hs, fun level _ => ?_, hall⟩
  rw [hholds.counted, hholds.items_eq, length_map]

theorem Sound.step (h : w.Sound mConfigVec) (e : LogEvent δ) (hfits : w.Fits mConfigVec e) :
    (w.step mConfigVec e).1.Sound mConfigVec := by
  obtain ⟨s, held, hs, hholds, hall⟩ := h
  cases e with
  | append data level timestamp =>
    obtain ⟨s', evictions, held', happend, hholds', hall'⟩ :=
      hholds.append level.isLt (hfits s hs)
    have hstep : w.buffer.bind (fun s => s.append mConfigVec data level timestamp) =
        some (s', evictions) := by rw [hs, Option.bind_some, happend]
    unfold WatchedLog.step
    simp only [hstep]
    refine ⟨s', held', rfl, hholds', fun e he => ?_⟩
    rcases mem_append.mp he with he | he
    · exact hall e he
    · obtain ⟨hlevel, hreason⟩ := hall' e he
      rwa [hlevel]
  | dump => exact ⟨s, held, hs, hholds, hall⟩
  | flush => exact ⟨s.flush, [], congrArg (Option.map _) hs, hholds.flush (hfits s hs), hall⟩

/-- Where appended items are in time and what is stored is not flushed, the
counters are the numbers of items, and each that went had a reason. -/
theorem log_right_of_fits (mConfigVec : ℕ → ConfigsInLevel) (es : List (LogEvent δ))
    (hfits : StepsMeet (step mConfigVec) (Fits mConfigVec) new es) :
    StatesMeet (step mConfigVec) (Right mConfigVec) new es := by
  have hnew : (new : WatchedLog δ).Sound mConfigVec :=
    ⟨.new, [], rfl, ⟨SkipList.kept_new _, fun _ => rfl⟩, nofun⟩
  exact (statesMeet_of_stepsMeet (fun _ e h hfits => h.step e hfits) hnew hfits).mono
    fun _ h => h.right

/-- Two items a level: the first of three goes. -/
theorem right_of_fits_three : StatesMeet (step fun _ => ⟨60, 2⟩) (Right fun _ => ⟨60, 2⟩) new
      [.flush, .append 'a' 0 5, .append 'b' 0 7, .append 'c' 0 9, .dump] := by
  refine log_right_of_fits _ _ ⟨?_, ?_, ?_, ?_, trivial, trivial⟩
  · rintro s ⟨⟩
    rfl
  all_goals
    rintro s ⟨⟩
    decide

/-- The counter of a level that is flushed. -/
theorem not_right_flush : ¬ ∀ (mConfigVec : ℕ → ConfigsInLevel) (es : List (LogEvent Char)),
      StatesMeet (step mConfigVec) (Right mConfigVec) new es := by
  intro h
  obtain ⟨s, hs, hsizes, -⟩ := (h (fun _ => ⟨60, 50⟩) [.append 'a' 0 5, .flush]).last
  cases hs
  exact absurd (hsizes 0 (by decide)) (by decide)

end WatchedLog

end LocStack.Utils
