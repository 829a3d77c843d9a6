/-
# `LocStack.LocApi.GeofenceEvents` — breaches and dwells of many geofences at once

The modem names the geofences of a batched event in two lists, as ids and as
ranges of ids.  Both events count the ids, fill an array of that many, and
pass it on.

    count     of a range idHigh - idLow + 1, in 32 bits
    the loop  j = idLow; j <= idHigh; j++
    index     in 32 bits

The loop over a range that ends with the last id never ends.  A range whose
low end is above the next id after its high end is counted for nearly all ids,
and adds none; of the array that is passed on, as much was never written.

`events_right_iff`: the ids passed on are those of the lists if and only if
there is no such range and there are at most 2^32 ids.
-/
import LocStack.LocApi.BatchedLocations

namespace LocStack.LocApi.GeofenceEvents

open Base List Option
open BatchedLocations (LOCATION_HAS_LAT_LONG_BIT LOCATION_HAS_ALTITUDE_BIT LOCATION_HAS_SPEED_BIT
  LOCATION_HAS_BEARING_BIT LOCATION_HAS_ACCURACY_BIT LOCATION_TECHNOLOGY_GNSS_BIT sizeofLocation
  bitIf)

/-! ## The location -/

/-- `qmiLocGeofencePositionStructT_v02`, as far as it is read. -/
structure GeofencePosition where
  timestampUtc : UInt64
  (latitude longitude : Float)
  (horUncEllipseSemiMinor horUncEllipseSemiMajor : Float32)
  speedHorizontal_valid : UInt8
  (speedHorizontal altitudeWrtEllipsoid : Float32)
  heading_valid : UInt8
  heading : Float32

/-- A `Location`, but for what these events leave zero. -/
structure Location where
  size : UInt32
  flags : UInt16
  timestamp : UInt64
  (latitude longitude altitude : Float)
  (speed bearing accuracy : Float32)
  techMask : UInt16

def LAT_LONG_TO_RADIANS : Float := 0.000005364418

/-- The latitude and the longitude look to be in the expected format. -/
def GeofencePosition.InDegrees (p : GeofencePosition) : Prop :=
  p.latitude ≥ -90 ∧ p.latitude ≤ 90 ∧ p.longitude ≥ -180 ∧ p.longitude ≤ 180
  deriving Decidable

/-- What both events make of the position; only a breach names a technology. -/
def locationOf (geofencePosition : Option GeofencePosition) (techMask : UInt16) : Location :=
  match geofencePosition with
  | none => ⟨sizeofLocation, 0, 0, 0, 0, 0, 0, 0, 0, 0⟩
  | some p =>
    let hasSpeed := p.speedHorizontal_valid == 1
    let hasHeading := p.heading_valid == 1
    { size := sizeofLocation
      flags := LOCATION_HAS_LAT_LONG_BIT ||| LOCATION_HAS_ALTITUDE_BIT |||
        bitIf hasSpeed LOCATION_HAS_SPEED_BIT ||| bitIf hasHeading LOCATION_HAS_BEARING_BIT |||
        LOCATION_HAS_ACCURACY_BIT
      timestamp := p.timestampUtc
      latitude := if p.InDegrees then p.latitude else p.latitude * LAT_LONG_TO_RADIANS
      longitude := if p.InDegrees then p.longitude else p.longitude * LAT_LONG_TO_RADIANS
      altitude := p.altitudeWrtEllipsoid.toFloat
      speed := if hasSpeed then p.speedHorizontal else 0
      bearing := if hasHeading then p.heading else 0
      accuracy := (p.horUncEllipseSemiMinor * p.horUncEllipseSemiMinor +
        p.horUncEllipseSemiMajor * p.horUncEllipseSemiMajor).sqrt
      techMask := techMask }

/-! ## The ids -/

/-- `qmiLocGeofenceIdContinuousStructT_v02`. -/
structure GeofenceIdContinuous where
  (idLow idHigh : UInt32)

/-- The lists of an indication, which are there if their flag is 1. -/
structure GeofenceIds where
  geofenceIdDiscreteList_valid : UInt8
  geofenceIdDiscreteList : List UInt32
  geofenceIdContinuousList_valid : UInt8
  geofenceIdContinuousList : List GeofenceIdContinuous

namespace GeofenceIds

def discrete (l : GeofenceIds) : List UInt32 :=
  if 1 = l.geofenceIdDiscreteList_valid then l.geofenceIdDiscreteList else []

def continuous (l : GeofenceIds) : List GeofenceIdContinuous :=
  if 1 = l.geofenceIdContinuousList_valid then l.geofenceIdContinuousList else []

end GeofenceIds

/-- `count`; the ids of a range are counted in 32 bits. -/
def countIds (l : GeofenceIds) : ℕ :=
  l.continuous.foldl (fun count r => count + (r.idHigh - r.idLow + 1).toNat) l.discrete.length

/-- The array and the index while it is filled. -/
structure Filling (count : ℕ) where
  hwIds : Cells count UInt32
  index : UInt32

variable {count : ℕ}

/-- `if (index < count) hwIds[index++] = id`. -/
def Filling.put (s : Filling count) (id : UInt32) : Option (Filling count) :=
  if s.index.toNat < count then
    (s.hwIds.write s.index.toNat id).map fun hwIds => ⟨hwIds, s.index + 1⟩
  else some s

/-- The loop over a range from `j` on, or none if it does not end within
`fuel` turns. -/
def Filling.putRange (idHigh : UInt32) : ℕ → UInt32 → Filling count → Option (Filling count)
  | 0, _, _ => none
  | fuel + 1, j, s =>
    if j ≤ idHigh then do Filling.putRange idHigh fuel (j + 1) (← s.put j) else some s

/-- What the array has for each of its ids; nothing where it was not
written. -/
def fillIds (fuel : ℕ) (l : GeofenceIds) : Option (List (Option UInt32)) := do
  let s ← l.discrete.foldlM Filling.put (⟨.empty, 0⟩ : Filling (countIds l))
  let s ← l.continuous.foldlM (fun s r => s.putRange r.idHigh fuel r.idLow) s
  some ((List.range (countIds l)).map s.hwIds.read)

/-! ## The events -/

inductive GeofenceBreachType where
  | GEOFENCE_BREACH_ENTER | GEOFENCE_BREACH_EXIT | GEOFENCE_BREACH_DWELL_IN
  | GEOFENCE_BREACH_DWELL_OUT | GEOFENCE_BREACH_UNKNOWN

/-- What is passed to `geofenceBreach`. -/
structure GeofenceBreach where
  hwIds : List (Option UInt32)
  location : Location
  breachType : GeofenceBreachType
  timestamp : ℤ

/-- `qmiLocEventGeofenceBatchedBreachIndMsgT_v02`. -/
structure GeofenceBatchedBreachInd extends GeofenceIds where
  breachType : ℤ
  geofencePosition : Option GeofencePosition

/-- `qmiLocEventGeofenceBatchedDwellIndMsgT_v02`. -/
structure GeofenceBatchedDwellInd extends GeofenceIds where
  dwellType : ℤ
  geofencePosition : Option GeofencePosition

def eQMI_LOC_GEOFENCE_BREACH_TYPE_ENTERING : ℤ := 1
def eQMI_LOC_GEOFENCE_BREACH_TYPE_LEAVING : ℤ := 2
def eQMI_LOC_GEOFENCE_DWELL_TYPE_INSIDE : ℤ := 1
def eQMI_LOC_GEOFENCE_DWELL_TYPE_OUTSIDE : ℤ := 2

/-- The end of both events: there is no call without ids, and none at all if
the array is not filled within `fuel` turns for each range. -/
def passIds (fuel : ℕ) (l : GeofenceIds) (call : List (Option UInt32) → GeofenceBreach) :
    Option (Option GeofenceBreach) :=
  if 0 = countIds l then some none else (fillIds fuel l).map fun hwIds => some (call hwIds)

def geofenceBreachEvent (fuel : ℕ) (breachInfo : Option GeofenceBatchedBreachInd) (timestamp : ℤ) :
    Option (Option GeofenceBreach) :=
  match breachInfo with
  | none => some none
  | some info =>
    let location := locationOf info.geofencePosition LOCATION_TECHNOLOGY_GNSS_BIT
    let breachType : GeofenceBreachType :=
      if info.breachType = eQMI_LOC_GEOFENCE_BREACH_TYPE_ENTERING then .GEOFENCE_BREACH_ENTER
      else if info.breachType = eQMI_LOC_GEOFENCE_BREACH_TYPE_LEAVING then .GEOFENCE_BREACH_EXIT
      else .GEOFENCE_BREACH_UNKNOWN
    passIds fuel info.toGeofenceIds fun hwIds => ⟨hwIds, location, breachType, timestamp⟩

def geofenceDwellEvent (fuel : ℕ) (dwellInfo : Option GeofenceBatchedDwellInd) (timestamp : ℤ) :
    Option (Option GeofenceBreach) :=
  match dwellInfo with
  | none => some none
  | some info =>
    let breachType : GeofenceBreachType :=
      if eQMI_LOC_GEOFENCE_DWELL_TYPE_INSIDE = info.dwellType then .GEOFENCE_BREACH_DWELL_IN
      else if eQMI_LOC_GEOFENCE_DWELL_TYPE_OUTSIDE = info.dwellType then
        .GEOFENCE_BREACH_DWELL_OUT
      else .GEOFENCE_BREACH_UNKNOWN
    let location := locationOf info.geofencePosition 0
    passIds fuel info.toGeofenceIds fun hwIds => ⟨hwIds, location, breachType, timestamp⟩

/-! ## What is right -/

/-- The ids from `j` to `idHigh`, none if there are none. -/
def idRange (j idHigh : UInt32) : List UInt32 :=
  (List.range' j.toNat (idHigh.toNat + 1 - j.toNat)).map .ofNat

/-- The discrete ids, followed by all ids of each range. -/
def GeofenceIds.ids (l : GeofenceIds) : List UInt32 :=
  l.discrete ++ l.continuous.flatMap fun r => idRange r.idLow r.idHigh

/-- The event ends, and has passed on these ids, or nothing if there are
none. -/
def PassesOn (ids : List UInt32) (event : ℕ → Option (Option GeofenceBreach)) : Prop :=
  ∃ fuel call, event fuel = some call ∧
    call.map GeofenceBreach.hwIds = if ids = [] then none else some (ids.map some)

/-- No range ends with the last id, or has its low end above the next one
after its high end, and there are no more ids than an index counts. -/
def GeofenceIds.Fits (l : GeofenceIds) : Prop :=
  (∀ r ∈ l.continuous, r.idHigh ≠ 0xFFFFFFFF ∧ r.idLow.toNat ≤ r.idHigh.toNat + 1) ∧
    l.ids.length ≤ 2 ^ 32

/-! ## A range -/

section Range

variable {j idHigh : UInt32}

@[simp] theorem length_idRange (j idHigh : UInt32) :
    (idRange j idHigh).length = idHigh.toNat + 1 - j.toNat := by
  simp [idRange]

theorem idRange_of_lt (h : idHigh < j) : idRange j idHigh = [] := by
  have hlt := UInt32.lt_iff_toNat_lt.mp h
  refine eq_nil_of_length_eq_zero ?_
  rw [length_idRange]
  omega

theorem toNat_succ (h : j ≠ 0xFFFFFFFF) : (j + 1).toNat = j.toNat + 1 := by
  have hne : j.toNat ≠ 0xFFFFFFFF := fun heq => h (UInt32.toNat_inj.mp heq)
  have hlt := j.toNat_lt
  rw [UInt32.toNat_add]
  show (j.toNat + 1) % 2 ^ 32 = _
  omega

theorem ne_last_of_le (h : j ≤ idHigh) (hhigh : idHigh ≠ 0xFFFFFFFF) : j ≠ 0xFFFFFFFF := by
  rintro rfl
  have hle : idHigh ≤ 0xFFFFFFFF :=
    UInt32.le_iff_toNat_le.mpr (Nat.le_of_lt_succ idHigh.toNat_lt)
  exact hhigh (UInt32.le_antisymm hle h)

theorem idRange_cons (h : j ≤ idHigh) (hj : j ≠ 0xFFFFFFFF) :
    idRange j idHigh = j :: idRange (j + 1) idHigh := by
  have hle := UInt32.le_iff_toNat_le.mp h
  have hlength : idHigh.toNat + 1 - j.toNat = idHigh.toNat + 1 - (j.toNat + 1) + 1 := by omega
  unfold idRange
  rw [toNat_succ hj, hlength, List.range'_succ, map_cons, UInt32.ofNat_toNat]

variable {fuel : ℕ}

/-- A loop over a range that ends has put the ids of the range, and the range
does not end with the last id. -/
theorem of_putRange {s s' : Filling count} (h : Filling.putRange idHigh fuel j s = some s') :
    idHigh ≠ 0xFFFFFFFF ∧ (idRange j idHigh).foldlM Filling.put s = some s' := by
  induction fuel generalizing j s with
  | zero => cases h
  | succ fuel ih =>
    unfold Filling.putRange at h
    by_cases hle : j ≤ idHigh
    · rw [if_pos hle] at h
      obtain ⟨s₁, hput, hrest⟩ := bind_eq_some_iff.mp h
      obtain ⟨hhigh, hfold⟩ := ih hrest
      refine ⟨hhigh, ?_⟩
      rw [idRange_cons hle (ne_last_of_le hle hhigh), foldlM_cons, hput]
      exact hfold
    · rw [if_neg hle] at h
      have hlt := UInt32.not_le.mp hle
      refine ⟨?_, ?_⟩
      · rintro rfl
        exact hle (UInt32.le_iff_toNat_le.mpr (Nat.le_of_lt_succ j.toNat_lt))
      · rw [idRange_of_lt hlt]
        exact h

theorem putRange_eq (hhigh : idHigh ≠ 0xFFFFFFFF) (hfuel : idHigh.toNat + 1 - j.toNat < fuel)
    (s : Filling count) :
    Filling.putRange idHigh fuel j s = (idRange j idHigh).foldlM Filling.put s := by
  induction fuel generalizing j s with
  | zero => exact absurd hfuel (Nat.not_lt_zero _)
  | succ fuel ih =>
    unfold Filling.putRange
    by_cases hle : j ≤ idHigh
    · have hle' := UInt32.le_iff_toNat_le.mp hle
      have hj := ne_last_of_le hle hhigh
      rw [if_pos hle, idRange_cons hle hj, foldlM_cons]
      refine congrArg (Option.bind (s.put j)) (funext fun s₁ => ih ?_ s₁)
      rw [toNat_succ hj]
      omega
    · rw [if_neg hle, idRange_of_lt (UInt32.not_le.mp hle)]
      rfl

end Range

/-! ## Both lists -/

variable {fuel : ℕ} {rs : List GeofenceIdContinuous} {s s' : Filling count} {l : GeofenceIds}
  {ids : List UInt32}

theorem of_putRanges (h : rs.foldlM (fun s r => s.putRange r.idHigh fuel r.idLow) s = some s') :
    (∀ r ∈ rs, r.idHigh ≠ 0xFFFFFFFF) ∧
      (rs.flatMap fun r => idRange r.idLow r.idHigh).foldlM Filling.put s = some s' := by
  induction rs generalizing s with
  | nil => exact ⟨fun r hr => absurd hr not_mem_nil, h⟩
  | cons r rs ih =>
    obtain ⟨s₁, hr, hrest⟩ := bind_eq_some_iff.mp h
    obtain ⟨hhigh, hput⟩ := of_putRange hr
    obtain ⟨hhighs, hputs⟩ := ih hrest
    refine ⟨forall_mem_cons.mpr ⟨hhigh, hhighs⟩, ?_⟩
    rw [flatMap_cons, foldlM_append, hput]
    exact hputs

theorem putRanges_eq (hfuel : 2 ^ 32 < fuel) (h : ∀ r ∈ rs, r.idHigh ≠ 0xFFFFFFFF)
    (s : Filling count) :
    rs.foldlM (fun s r => s.putRange r.idHigh fuel r.idLow) s =
      (rs.flatMap fun r => idRange r.idLow r.idHigh).foldlM Filling.put s := by
  induction rs generalizing s with
  | nil => rfl
  | cons r rs ih =>
    obtain ⟨hhigh, hhighs⟩ := forall_mem_cons.mp h
    have hturns : r.idHigh.toNat + 1 - r.idLow.toNat < fuel := by
      have hlt := r.idHigh.toNat_lt
      omega
    rw [foldlM_cons, putRange_eq hhigh hturns, flatMap_cons, foldlM_append]
    exact congrArg (Option.bind _) (funext fun s₁ => ih hhighs s₁)

theorem countRange (r : GeofenceIdContinuous) (h : r.idHigh ≠ 0xFFFFFFFF) :
    (idRange r.idLow r.idHigh).length ≤ (r.idHigh - r.idLow + 1).toNat ∧
      ((r.idHigh - r.idLow + 1).toNat = (idRange r.idLow r.idHigh).length ↔
        r.idLow.toNat ≤ r.idHigh.toNat + 1) := by
  have hne : r.idHigh.toNat ≠ 0xFFFFFFFF := fun heq => h (UInt32.toNat_inj.mp heq)
  have hlow := r.idLow.toNat_lt
  have hhigh := r.idHigh.toNat_lt
  have hcount : (r.idHigh - r.idLow + 1).toNat =
      ((2 ^ 32 - r.idLow.toNat + r.idHigh.toNat) % 2 ^ 32 + 1) % 2 ^ 32 := by
    rw [UInt32.toNat_add, UInt32.toNat_sub]
    rfl
  rw [hcount, length_idRange]
  omega

theorem countRanges (h : ∀ r ∈ rs, r.idHigh ≠ 0xFFFFFFFF) (start : ℕ) :
    start + (rs.flatMap fun r => idRange r.idLow r.idHigh).length ≤
        rs.foldl (fun count r => count + (r.idHigh - r.idLow + 1).toNat) start ∧
      (rs.foldl (fun count r => count + (r.idHigh - r.idLow + 1).toNat) start =
          start + (rs.flatMap fun r => idRange r.idLow r.idHigh).length ↔
        ∀ r ∈ rs, r.idLow.toNat ≤ r.idHigh.toNat + 1) := by
  induction rs generalizing start with
  | nil => simp
  | cons r rs ih =>
    obtain ⟨hhigh, hhighs⟩ := forall_mem_cons.mp h
    obtain ⟨hle, hiff⟩ := countRange r hhigh
    obtain ⟨hles, hiffs⟩ := ih hhighs (start + (r.idHigh - r.idLow + 1).toNat)
    rw [foldl_cons, flatMap_cons, length_append, forall_mem_cons, ← hiff, ← hiffs]
    omega

theorem countIds_spec (h : ∀ r ∈ l.continuous, r.idHigh ≠ 0xFFFFFFFF) :
    countIds l = l.ids.length ↔ ∀ r ∈ l.continuous, r.idLow.toNat ≤ r.idHigh.toNat + 1 := by
  rw [GeofenceIds.ids, length_append]
  exact (countRanges h l.discrete.length).2

/-! ## The array -/

/-- The array with the first of some ids. -/
def filled (ids : List UInt32) (k : ℕ) : Filling count := ⟨.firsts k (ids[·]?), .ofNat k⟩

theorem put_filled {k : ℕ} {id : UInt32} (hk : k < count) (hcount : count ≤ 2 ^ 32)
    (hid : ids[k]? = some id) :
    (filled ids k : Filling count).put id = some (filled ids (k + 1)) := by
  have hindex : (UInt32.ofNat k).toNat = k := UInt32.toNat_ofNat_of_lt' (hk.trans_le hcount)
  have hwrite : (Cells.firsts k (ids[·]?) : Cells count UInt32).write k id =
      some (.firsts (k + 1) (ids[·]?)) := Cells.write_firsts hk hid
  have hput : (filled ids k : Filling count).put id =
      ((Cells.firsts k (ids[·]?) : Cells count UInt32).write (UInt32.ofNat k).toNat id).map
        fun hwIds => ⟨hwIds, .ofNat k + 1⟩ := if_pos (hindex.symm ▸ hk)
  rw [hput, hindex, hwrite]
  refine congrArg some (congrArg (Filling.mk _) ?_)
  rw [UInt32.ofNat_add]
  rfl

theorem foldlM_put (hcount : ids.length ≤ count) (hindex : count ≤ 2 ^ 32) :
    ids.foldlM Filling.put (⟨.empty, 0⟩ : Filling count) = some (filled ids ids.length) := by
  have hall : ∀ k ≤ ids.length,
      (ids.take k).foldlM Filling.put (⟨.empty, 0⟩ : Filling count) = some (filled ids k) := by
    intro k hk
    induction k with
    | zero => rfl
    | succ k ih =>
      have hget : ids[k]? = some ids[k] := List.getElem?_eq_getElem hk
      rw [take_add_one, hget, foldlM_append, ih (Nat.le_of_succ_le hk)]
      show (Filling.put _ _).bind _ = _
      rw [put_filled (Nat.lt_of_lt_of_le hk hcount) hindex hget]
      rfl
  have hlast := hall ids.length le_rfl
  rwa [take_length] at hlast

theorem reads_filled (h : count = ids.length) :
    (List.range count).map (filled ids ids.length : Filling count).hwIds.read = ids.map some := by
  subst h
  refine ext_getElem? fun i => ?_
  by_cases hi : i < ids.length
  · rw [List.getElem?_map, List.getElem?_range hi, List.getElem?_map,
      List.getElem?_eq_getElem hi, map_some, map_some]
    exact congrArg some ((Cells.read_firsts hi le_rfl).trans (List.getElem?_eq_getElem hi))
  · rw [List.getElem?_eq_none (by simpa using hi), List.getElem?_eq_none (by simpa using hi)]

theorem read_of_foldlM_put (h : ids.foldlM Filling.put s = some s')
    (hs : s.hwIds.read (2 ^ 32) = none) : s'.hwIds.read (2 ^ 32) = none := by
  induction ids generalizing s with
  | nil =>
    cases h
    exact hs
  | cons id ids ih =>
    obtain ⟨s₁, hput, hrest⟩ := bind_eq_some_iff.mp h
    refine ih hrest ?_
    unfold Filling.put at hput
    split at hput
    · obtain ⟨hwIds, hwrite, rfl⟩ := map_eq_some_iff.mp hput
      exact (Cells.read_of_write hwrite s.index.toNat_lt.ne').trans hs
    · cases hput
      exact hs

theorem of_fillIds {hwIds : List (Option UInt32)} (h : fillIds fuel l = some hwIds) :
    (∀ r ∈ l.continuous, r.idHigh ≠ 0xFFFFFFFF) ∧ hwIds.length = countIds l ∧
      (2 ^ 32 < countIds l → hwIds[2 ^ 32]? = some none) := by
  obtain ⟨s₁, hdiscrete, hrest⟩ := bind_eq_some_iff.mp h
  obtain ⟨s₂, hcontinuous, hlast⟩ := bind_eq_some_iff.mp hrest
  cases hlast
  obtain ⟨hhighs, hput⟩ := of_putRanges hcontinuous
  refine ⟨hhighs, by simp, fun hmany => ?_⟩
  have hempty : (Cells.empty : Cells (countIds l) UInt32).read (2 ^ 32) = none := by
    unfold Cells.read
    rw [dif_pos hmany]
    rfl
  rw [List.getElem?_map, List.getElem?_range hmany]
  exact congrArg some (read_of_foldlM_put hput (read_of_foldlM_put hdiscrete hempty))

theorem fillIds_eq (hfuel : 2 ^ 32 < fuel) (h : l.Fits) :
    fillIds fuel l = some (l.ids.map some) := by
  obtain ⟨hranges, hfew⟩ := h
  have hhighs : ∀ r ∈ l.continuous, r.idHigh ≠ 0xFFFFFFFF := fun r hr => (hranges r hr).1
  have hcount : countIds l = l.ids.length :=
    (countIds_spec hhighs).mpr fun r hr => (hranges r hr).2
  have hput : l.ids.foldlM Filling.put (⟨.empty, 0⟩ : Filling (countIds l)) =
      some (filled l.ids l.ids.length) := foldlM_put hcount.ge (hcount ▸ hfew)
  rw [GeofenceIds.ids, foldlM_append] at hput
  obtain ⟨s₁, hdiscrete, hcontinuous⟩ := bind_eq_some_iff.mp hput
  unfold fillIds
  rw [hdiscrete]
  show Option.bind (List.foldlM _ s₁ _) _ = _
  rw [putRanges_eq hfuel hhighs, hcontinuous]
  exact congrArg some (reads_filled hcount)

/-! ## The events -/

theorem fits_of_ids_eq_nil (hids : l.ids = []) (hcount : countIds l = 0) : l.Fits := by
  have hhighs : ∀ r ∈ l.continuous, r.idHigh ≠ 0xFFFFFFFF := by
    intro r hr hhigh
    have hnone := flatMap_eq_nil_iff.mp (append_eq_nil_iff.mp hids).2 r hr
    have hlength := congrArg List.length hnone
    have hlow := r.idLow.toNat_lt
    rw [length_idRange, hhigh] at hlength
    simp at hlength
    omega
  have hlows := (countIds_spec hhighs).mp (by rw [hcount, hids]; rfl)
  refine ⟨fun r hr => ⟨hhighs r hr, hlows r hr⟩, ?_⟩
  rw [hids]
  exact Nat.zero_le _

theorem passIds_iff (l : GeofenceIds) (call : List (Option UInt32) → GeofenceBreach)
    (hcall : ∀ hwIds, (call hwIds).hwIds = hwIds) :
    PassesOn l.ids (fun fuel => passIds fuel l call) ↔ l.Fits := by
  constructor
  · rintro ⟨fuel, c, hevent, hpassed⟩
    change passIds fuel l call = some c at hevent
    unfold passIds at hevent
    by_cases hzero : 0 = countIds l
    · rw [if_pos hzero] at hevent
      cases hevent
      refine fits_of_ids_eq_nil ?_ hzero.symm
      by_contra hne
      rw [if_neg hne] at hpassed
      cases hpassed
    · rw [if_neg hzero] at hevent
      obtain ⟨hwIds, hfill, rfl⟩ := map_eq_some_iff.mp hevent
      obtain ⟨hhighs, hlength, hmany⟩ := of_fillIds hfill
      have hne : l.ids ≠ [] := fun hnil => by
        rw [if_pos hnil] at hpassed
        cases hpassed
      rw [if_neg hne] at hpassed
      have hids : hwIds = l.ids.map some :=
        (hcall hwIds).symm.trans (some.inj hpassed)
      have hcount : countIds l = l.ids.length := by
        rw [← hlength, hids, length_map]
      have hlows := (countIds_spec hhighs).mp hcount
      refine ⟨fun r hr => ⟨hhighs r hr, hlows r hr⟩, ?_⟩
      by_contra hover
      have hgarbage := hmany (by omega)
      rw [hids, List.getElem?_map, List.getElem?_eq_getElem (by omega)] at hgarbage
      cases hgarbage
  · intro hfits
    have hhighs : ∀ r ∈ l.continuous, r.idHigh ≠ 0xFFFFFFFF := fun r hr => (hfits.1 r hr).1
    have hcount : countIds l = l.ids.length :=
      (countIds_spec hhighs).mpr fun r hr => (hfits.1 r hr).2
    by_cases hnil : l.ids = []
    · refine ⟨0, none, if_pos ?_, (if_pos hnil).symm⟩
      rw [hcount, hnil]
      rfl
    · have hzero : ¬ 0 = countIds l := by
        rw [hcount]
        exact fun heq => hnil (eq_nil_of_length_eq_zero heq.symm)
      refine ⟨2 ^ 32 + 1, some (call (l.ids.map some)), ?_, ?_⟩
      · show passIds _ l call = _
        unfold passIds
        rw [if_neg hzero, fillIds_eq (Nat.lt_succ_self _) hfits]
        rfl
      · rw [if_neg hnil]
        exact congrArg some (hcall _)

/-- Every batched breach and every batched dwell. -/
theorem events_right_iff (breachInfo : GeofenceBatchedBreachInd)
    (dwellInfo : GeofenceBatchedDwellInd) (timestamp : ℤ) :
    (PassesOn breachInfo.ids (fun fuel => geofenceBreachEvent fuel (some breachInfo) timestamp) ↔
        breachInfo.Fits) ∧
      (PassesOn dwellInfo.ids (fun fuel => geofenceDwellEvent fuel (some dwellInfo) timestamp) ↔
        dwellInfo.Fits) :=
  ⟨passIds_iff breachInfo.toGeofenceIds _ fun _ => rfl,
    passIds_iff dwellInfo.toGeofenceIds _ fun _ => rfl⟩

/-- A breach of the geofence with the last id. -/
theorem not_right_lastId : ¬ ∀ (breachInfo : GeofenceBatchedBreachInd)
    (dwellInfo : GeofenceBatchedDwellInd) (timestamp : ℤ),
    PassesOn breachInfo.ids (fun fuel => geofenceBreachEvent fuel (some breachInfo) timestamp) ∧
      PassesOn dwellInfo.ids (fun fuel => geofenceDwellEvent fuel (some dwellInfo) timestamp) := by
  intro h
  have hbreach := (h ⟨⟨0, [], 1, [⟨0xFFFFFFFF, 0xFFFFFFFF⟩]⟩, 1, none⟩
    ⟨⟨0, [], 0, []⟩, 1, none⟩ 0).1
  obtain ⟨hranges, -⟩ := (passIds_iff _ _ fun _ => rfl).mp hbreach
  exact (hranges _ mem_cons_self).1 rfl

end LocStack.LocApi.GeofenceEvents
