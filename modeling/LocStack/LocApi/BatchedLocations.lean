/-
# `LocStack.LocApi.BatchedLocations` — what is read from the batches of the modem

The batched locations are read in pieces, until as many have come as there
are to read, or none comes.

    readModemLocations            one piece, of up to five
    getBatchedLocationsSync       routine: the newest come first, and fill the
                                  buffer from its end; it has one cell more
                                  than there are locations to read, for one that
                                  is added meanwhile
    getBatchedTripLocationsSync   trip: the buffer is filled from its start

Locations for which there is no room are dropped, but they are counted as the
others are, and what is reported are so many cells.

`Stores.readAll` is the rule of the loop: what is kept location by location is
kept of all that come, and these are the ones there are to be delivered, or
too many.  By it `trip_right_iff` says when the trips are right; the routine
batches are in `BatchedOrder`.
-/
import LocStack.Base.Cells

namespace LocStack.LocApi.BatchedLocations

open Base List Option

/-! ## One piece -/

variable {F : Type}

/-- `qmiLocBatchedReportStructT_v02`, as far as it is read; floats and doubles
are of one type. -/
structure BatchedReport (F : Type) where
  validFields : UInt64
  (latitude longitude horUncCircular speedHorizontal speedUnc altitudeWrtEllipsoid heading : F)
  headingUnc : F
  technologyMask : UInt32
  timestampUtc : UInt64
  vertUnc : F

def QMI_LOC_BATCHED_REPORT_MASK_VALID_LATITUDE : UInt64 := 0x00000001
def QMI_LOC_BATCHED_REPORT_MASK_VALID_LONGITUDE : UInt64 := 0x00000002
def QMI_LOC_BATCHED_REPORT_MASK_VALID_HOR_CIR_UNC : UInt64 := 0x00000004
def QMI_LOC_BATCHED_REPORT_MASK_VALID_SPEED_HOR : UInt64 := 0x00000008
def QMI_LOC_BATCHED_REPORT_MASK_VALID_SPEED_UNC : UInt64 := 0x00000010
def QMI_LOC_BATCHED_REPORT_MASK_VALID_ALT_WRT_ELP : UInt64 := 0x00000020
def QMI_LOC_BATCHED_REPORT_MASK_VALID_HEADING : UInt64 := 0x00000080
def QMI_LOC_BATCHED_REPORT_MASK_VALID_HEADING_UNC : UInt64 := 0x00000100
def QMI_LOC_BATCHED_REPORT_MASK_VALID_TECH_MASK : UInt64 := 0x00000200
def QMI_LOC_BATCHED_REPORT_MASK_VALID_TIMESTAMP_UTC : UInt64 := 0x00000400
def QMI_LOC_BATCHED_REPORT_MASK_VALID_VERT_UNC : UInt64 := 0x00002000

def QMI_LOC_POS_TECH_MASK_SATELLITE : UInt32 := 0x00000001
def QMI_LOC_POS_TECH_MASK_CELLID : UInt32 := 0x00000002
def QMI_LOC_POS_TECH_MASK_WIFI : UInt32 := 0x00000004
def QMI_LOC_POS_TECH_MASK_SENSORS : UInt32 := 0x00000008

def LOCATION_HAS_LAT_LONG_BIT : UInt16 := 0x01
def LOCATION_HAS_ALTITUDE_BIT : UInt16 := 0x02
def LOCATION_HAS_SPEED_BIT : UInt16 := 0x04
def LOCATION_HAS_BEARING_BIT : UInt16 := 0x08
def LOCATION_HAS_ACCURACY_BIT : UInt16 := 0x10
def LOCATION_HAS_VERTICAL_ACCURACY_BIT : UInt16 := 0x20
def LOCATION_HAS_SPEED_ACCURACY_BIT : UInt16 := 0x40
def LOCATION_HAS_BEARING_ACCURACY_BIT : UInt16 := 0x80

def LOCATION_TECHNOLOGY_GNSS_BIT : UInt16 := 0x01
def LOCATION_TECHNOLOGY_CELL_BIT : UInt16 := 0x02
def LOCATION_TECHNOLOGY_WIFI_BIT : UInt16 := 0x04
def LOCATION_TECHNOLOGY_SENSORS_BIT : UInt16 := 0x08

/-- A `Location`, but for what batched ones leave zero. -/
structure Location (F : Type) where
  size : UInt32
  flags : UInt16
  timestamp : UInt64
  (latitude longitude altitude speed bearing accuracy verticalAccuracy speedAccuracy : F)
  bearingAccuracy : F
  techMask : UInt16

def sizeofLocation : UInt32 := 96

/-- What `memset` makes of a location. -/
def Location.zero [Zero F] : Location F := ⟨0, 0, 0, 0, 0, 0, 0, 0, 0, 0, 0, 0, 0⟩

def BatchedReport.has (r : BatchedReport F) (mask : UInt64) : Bool := r.validFields &&& mask != 0

/-- A bit that is added under a condition. -/
def bitIf (b : Bool) (bit : UInt16) : UInt16 := if b then bit else 0

/-- The body of the loop of `readModemLocations`. -/
def BatchedReport.location [Zero F] (r : BatchedReport F) : Location F :=
  let hasLatLong := r.has QMI_LOC_BATCHED_REPORT_MASK_VALID_LATITUDE &&
    r.has QMI_LOC_BATCHED_REPORT_MASK_VALID_LONGITUDE
  let hasAltitude := r.has QMI_LOC_BATCHED_REPORT_MASK_VALID_ALT_WRT_ELP
  let hasAccuracy := r.has QMI_LOC_BATCHED_REPORT_MASK_VALID_HOR_CIR_UNC
  let hasBearing := r.has QMI_LOC_BATCHED_REPORT_MASK_VALID_HEADING
  let hasSpeed := r.has QMI_LOC_BATCHED_REPORT_MASK_VALID_SPEED_HOR
  let hasTech := r.has QMI_LOC_BATCHED_REPORT_MASK_VALID_TECH_MASK
  let hasVerticalAccuracy := r.has QMI_LOC_BATCHED_REPORT_MASK_VALID_VERT_UNC
  let hasSpeedAccuracy := r.has QMI_LOC_BATCHED_REPORT_MASK_VALID_SPEED_UNC
  let hasBearingAccuracy := r.has QMI_LOC_BATCHED_REPORT_MASK_VALID_HEADING_UNC
  let tech (mask : UInt32) (bit : UInt16) := bitIf (hasTech && mask &&& r.technologyMask != 0) bit
  { size := sizeofLocation
    flags := bitIf hasLatLong LOCATION_HAS_LAT_LONG_BIT |||
      bitIf hasAltitude LOCATION_HAS_ALTITUDE_BIT |||
      bitIf hasAccuracy LOCATION_HAS_ACCURACY_BIT |||
      bitIf hasBearing LOCATION_HAS_BEARING_BIT |||
      bitIf hasSpeed LOCATION_HAS_SPEED_BIT |||
      bitIf hasVerticalAccuracy LOCATION_HAS_VERTICAL_ACCURACY_BIT |||
      bitIf hasSpeedAccuracy LOCATION_HAS_SPEED_ACCURACY_BIT |||
      bitIf hasBearingAccuracy LOCATION_HAS_BEARING_ACCURACY_BIT
    timestamp :=
      if r.has QMI_LOC_BATCHED_REPORT_MASK_VALID_TIMESTAMP_UTC then r.timestampUtc else 0
    latitude := if hasLatLong then r.latitude else 0
    longitude := if hasLatLong then r.longitude else 0
    altitude := if hasAltitude then r.altitudeWrtEllipsoid else 0
    speed := if hasSpeed then r.speedHorizontal else 0
    bearing := if hasBearing then r.heading else 0
    accuracy := if hasAccuracy then r.horUncCircular else 0
    verticalAccuracy := if hasVerticalAccuracy then r.vertUnc else 0
    speedAccuracy := if hasSpeedAccuracy then r.speedUnc else 0
    bearingAccuracy := if hasBearingAccuracy then r.headingUnc else 0
    techMask := tech QMI_LOC_POS_TECH_MASK_SATELLITE LOCATION_TECHNOLOGY_GNSS_BIT |||
      tech QMI_LOC_POS_TECH_MASK_CELLID LOCATION_TECHNOLOGY_CELL_BIT |||
      tech QMI_LOC_POS_TECH_MASK_WIFI LOCATION_TECHNOLOGY_WIFI_BIT |||
      tech QMI_LOC_POS_TECH_MASK_SENSORS LOCATION_TECHNOLOGY_SENSORS_BIT }

abbrev MAX_SIZE : ℕ := 5

/-- `qmiLocReadFromBatchIndMsgT_v02`, with no more entries than there is room
for in its list (QMI_LOC_READ_FROM_BATCH_MAX_SIZE). -/
structure ReadFromBatchInd (F : Type) where
  numberOfEntries_valid : Bool
  numberOfEntries : ℕ
  batchedReportList_valid : Bool
  batchedReportList : Fin MAX_SIZE → BatchedReport F
  fits : numberOfEntries ≤ MAX_SIZE

/-- What the modem answers, or none if the request fails. -/
abbrev Answer (F : Type) := Option (ReadFromBatchInd F)

/-- The locations in an answer. -/
def entries [Zero F] : Answer F → List (Location F)
  | some ind =>
    if ind.numberOfEntries_valid ∧ ind.batchedReportList_valid then
      List.ofFn fun i : Fin ind.numberOfEntries =>
        (ind.batchedReportList (i.castLE ind.fits)).location
    else []
  | none => []

/-- `readModemLocations`: what it writes to `pLocationPiece`, and
`numbOfEntries`. -/
def readModemLocations [Zero F] (pLocationPiece : Cells MAX_SIZE (Location F)) :
    Answer F → Option (Cells MAX_SIZE (Location F) × ℕ)
  | some ind =>
    if ind.numberOfEntries_valid ∧ ind.batchedReportList_valid then
      (forTo ind.numberOfEntries (fun piece i =>
        if h : i < MAX_SIZE then piece.write i (ind.batchedReportList ⟨i, h⟩).location
        else none) pLocationPiece).map fun piece => (piece, ind.numberOfEntries)
    else some (pLocationPiece, 0)
  | none => some (pLocationPiece, 0)

/-! ## The loops -/

/-- The buffer, how many locations have come, how many of them were stored,
and for how many the modem was asked at each time.  The locations that come
are counted by a natural number. -/
structure Reading (n : ℕ) (F : Type) where
  pLocationsFromModem : Cells n (Location F)
  (entriesGotInTotal stored : ℕ)
  requests : List ℕ

variable {n : ℕ} [Zero F]

def Reading.new : Reading n F := ⟨Cells.ofFun fun _ => .zero, 0, 0, []⟩

/-- `(int)index >= 0`. -/
def intNonneg (index : UInt64) : Prop := index.toNat % 2 ^ 32 < 2 ^ 31
  deriving Decidable

/-- A location is put in its cell, or dropped. -/
def Reading.store (s : Reading n F) (place : Option ℕ) (l : Location F) : Option (Reading n F) :=
  match place with
  | some index =>
    (s.pLocationsFromModem.write index l).map fun buffer =>
      { s with pLocationsFromModem := buffer, stored := s.stored + 1 }
  | none => some s

/-- Where the `i`th location of a piece goes in the routine buffer. -/
def storeRoutine (entriesToReadInTotal : UInt64) (s : Reading n F) (i : ℕ) (l : Location F) :
    Option (Reading n F) :=
  let index := entriesToReadInTotal - .ofNat s.entriesGotInTotal - .ofNat i
  s.store (if index ≤ entriesToReadInTotal ∧ intNonneg index then some index.toNat else none) l

/-- And in the trip buffer; `idxLocationFromModem` has counted as many as came
before. -/
def storeTrip (entriesToReadInTotal : UInt64) (s : Reading n F) (i : ℕ) (l : Location F) :
    Option (Reading n F) :=
  let idxLocationFromModem := s.entriesGotInTotal + i
  s.store (if idxLocationFromModem < entriesToReadInTotal.toNat then some idxLocationFromModem
      else none) l

/-- `entriesToRead`, which wraps when too many have come. -/
def entriesToRead (entriesToReadInTotal : UInt64) (entriesGotInTotal : ℕ) : ℕ :=
  min (entriesToReadInTotal - .ofNat entriesGotInTotal).toNat MAX_SIZE

/-- The loop; when there are no more answers, the modem answers with none. -/
def readAll (store : Reading n F → ℕ → Location F → Option (Reading n F))
    (entriesToReadInTotal : UInt64) : List (Answer F) → Reading n F → Option (Reading n F)
  | [], s =>
    let toRead := entriesToRead entriesToReadInTotal s.entriesGotInTotal
    some { s with requests := s.requests ++ [toRead] }
  | a :: answers, s => do
      let toRead := entriesToRead entriesToReadInTotal s.entriesGotInTotal
      let (tempLocationP, entriesGotInEachTime) ← readModemLocations (.ofFun fun _ => .zero) a
      let s ← forTo entriesGotInEachTime (fun s i => do store s i (← tempLocationP.read i)) s
      let s := { s with
        entriesGotInTotal := s.entriesGotInTotal + entriesGotInEachTime
        requests := s.requests ++ [toRead] }
      if entriesGotInEachTime > 0 ∧ entriesToRead entriesToReadInTotal s.entriesGotInTotal > 0 then
        readAll store entriesToReadInTotal answers s
      else some s

/-! ## The report -/

/-- What comes of a call: the requests, how many locations were stored, those
that are reported, and the distance of the completed trips. -/
structure Outcome (F : Type) where
  requests : List ℕ
  stored : ℕ
  reported : List (Location F)
  completedTrips : Option UInt32

/-- `reportLocations(p + offset, count)`. -/
def reportLocations (p : Cells n (Location F)) (offset count : ℕ) : Option (List (Location F)) :=
  Cells.gather count fun i => p.read (offset + i)

/-- The loop that looks for the location that is out of order, from `i - 1`
downwards. -/
def findOutOfOrder (p : Cells n (Location F)) : ℕ → UInt64 → Option (Option ℕ)
  | 0, _ => some none
  | i + 1, currentTimeStamp => do
      let l ← p.read i
      if currentTimeStamp < l.timestamp then some (some i)
      else findOutOfOrder p i l.timestamp

/-- The location at `i` is taken out, and put at the end. -/
def moveToEnd (p : Cells n (Location F)) (i entriesToReadInTotal : ℕ) :
    Option (Cells n (Location F)) := do
  let tempLocation ← p.read i
  let p ← forTo (entriesToReadInTotal - i) (fun p k => do p.write (i + k) (← p.read (i + k + 1))) p
  p.write entriesToReadInTotal tempLocation

/-- What is done where more have come than there are to read. -/
def putInOrder (p : Cells n (Location F)) (entriesToReadInTotal : UInt64) :
    Option (Cells n (Location F)) := do
  let last ← p.read entriesToReadInTotal.toNat
  let i := (entriesToReadInTotal - 1).toNat % 2 ^ 32
  match ← findOutOfOrder p (if i < 2 ^ 31 then i + 1 else 0) last.timestamp with
  | some i => moveToEnd p i entriesToReadInTotal.toNat
  | none => some p

/-- What is reported of the routine buffer; the offset is 1 for the cell more
that it has. -/
def reportRoutine (entriesToReadInTotal : UInt64) (s : Reading n F) : Option (List (Location F)) :=
  if entriesToReadInTotal.toNat > s.entriesGotInTotal then
    let offset := (1 + entriesToReadInTotal.toNat - s.entriesGotInTotal) % 2 ^ 32
    reportLocations s.pLocationsFromModem offset s.entriesGotInTotal
  else if s.entriesGotInTotal > entriesToReadInTotal.toNat then do
    let p ← putInOrder s.pLocationsFromModem entriesToReadInTotal
    reportLocations p 0 s.entriesGotInTotal
  else reportLocations s.pLocationsFromModem 1 s.entriesGotInTotal

/-- `getBatchedLocationsSync`, or none where it leaves a buffer. -/
def getBatchedLocationsSync (mBatchSize count : UInt64) (answers : List (Answer F)) :
    Option (Outcome F) :=
  let entriesToReadInTotal := min mBatchSize count
  if entriesToReadInTotal = 0 then some ⟨[], 0, [], none⟩
  else do
    let s ← readAll (storeRoutine entriesToReadInTotal) entriesToReadInTotal answers
      (.new : Reading (entriesToReadInTotal + 1).toNat F)
    let reported ← reportRoutine entriesToReadInTotal s
    some ⟨s.requests, s.stored, reported, none⟩

def getBatchedTripLocationsSync (mTripBatchSize count : UInt64) (accumulatedDistance : UInt32)
    (answers : List (Answer F)) : Option (Outcome F) :=
  let entriesToReadInTotal := min mTripBatchSize count
  if entriesToReadInTotal = 0 then some ⟨[], 0, [], none⟩
  else do
    let s ← readAll (storeTrip entriesToReadInTotal) entriesToReadInTotal answers
      (.new : Reading entriesToReadInTotal.toNat F)
    let reported ← reportLocations s.pLocationsFromModem 0 s.entriesGotInTotal
    some ⟨s.requests, s.stored, reported,
      if accumulatedDistance ≠ 0 then some accumulatedDistance else none⟩

/-! ## What is right -/

/-- The locations that came in the answers that were read. -/
def Outcome.received (o : Outcome F) (answers : List (Answer F)) : List (Location F) :=
  (answers.take o.requests.length).flatMap entries

omit [Zero F] in
/-- In ascending order of time. -/
def Ascending (l : List (Location F)) : Prop :=
  l.Pairwise fun a b => a.timestamp ≤ b.timestamp

omit [Zero F] in
def NewestFirst (l : List (Location F)) : Prop :=
  l.Pairwise fun a b => b.timestamp ≤ a.timestamp

omit [Zero F] in
/-- The newest first, but for at most one newer than all of them that was
added meanwhile. -/
def NewestFirstButLate (l : List (Location F)) : Prop :=
  ∃ before after : List (Location F), ∃ late : Option (Location F),
    l = before ++ late.toList ++ after ∧ NewestFirst (before ++ after) ∧
      ∀ n ∈ late, ∀ x ∈ before ++ after, x.timestamp ≤ n.timestamp

/-- No buffer is left, as many locations are reported as were stored, and each
of them is one that came. -/
def Safe (answers : List (Answer F)) (r : Option (Outcome F)) : Prop :=
  ∃ o, r = some o ∧ o.reported.length = o.stored ∧ List.Subperm o.reported (o.received answers)

/-- And in order, if the modem has them in order. -/
def RoutineRight (answers : List (Answer F)) (r : Option (Outcome F)) : Prop :=
  ∃ o, r = some o ∧ o.reported.length = o.stored ∧ List.Subperm o.reported (o.received answers) ∧
      (NewestFirstButLate (o.received answers) → Ascending o.reported)

/-- The locations up to the answer that makes them as many as there are to
read, or up to an answer without any. -/
def delivered (total : ℕ) : ℕ → List (Answer F) → List (Location F)
  | _, [] => []
  | got, a :: answers =>
    if entries a = [] then []
    else if got + (entries a).length = total then entries a
    else entries a ++ delivered total (got + (entries a).length) answers

/-- Nothing comes, or at most one more than there are to read, and these fewer
than 2^31; and if one comes late, it comes on top, or before all others. -/
def RoutineFits (total : ℕ) (answers : List (Answer F)) : Prop :=
  let l := delivered total 0 answers
  total ≠ 0 → l ≠ [] → total < 2 ^ 31 ∧ l.length ≤ total + 1 ∧
    (NewestFirstButLate l → l.length = total + 1 ∨ NewestFirst l)

/-- No more come than there are to read. -/
def TripFits (total : ℕ) (answers : List (Answer F)) : Prop :=
  total ≠ 0 → (delivered total 0 answers).length ≤ total

/-! ## A piece -/

theorem entries_of_valid {ind : ReadFromBatchInd F}
    (h : ind.numberOfEntries_valid ∧ ind.batchedReportList_valid) :
    entries (some ind) = List.ofFn fun i : Fin ind.numberOfEntries =>
      (ind.batchedReportList (i.castLE ind.fits)).location := if_pos h

theorem length_entries_le (a : Answer F) : (entries a).length ≤ MAX_SIZE := by
  cases a with
  | none => exact Nat.zero_le _
  | some ind =>
    by_cases hvalid : ind.numberOfEntries_valid ∧ ind.batchedReportList_valid
    · rw [entries_of_valid hvalid, length_ofFn]
      exact ind.fits
    · have hnone : entries (some ind) = [] := if_neg hvalid
      rw [hnone]
      exact Nat.zero_le _

theorem readModemLocations_eq (a : Answer F) :
    ∃ f, readModemLocations (.ofFun fun _ => .zero) a = some (.ofFun f, (entries a).length) ∧
      ∀ i < (entries a).length, (entries a)[i]? = some (f i) := by
  cases a with
  | none => exact ⟨_, rfl, fun i hi => absurd hi i.not_lt_zero⟩
  | some ind =>
    by_cases hvalid : ind.numberOfEntries_valid ∧ ind.batchedReportList_valid
    · rw [entries_of_valid hvalid]
      have hread : readModemLocations (.ofFun fun _ => .zero) (some ind) =
          (forTo ind.numberOfEntries (fun piece i =>
            if h : i < MAX_SIZE then piece.write i (ind.batchedReportList ⟨i, h⟩).location
            else none) (.ofFun fun _ => .zero)).map fun piece => (piece, ind.numberOfEntries) :=
        if_pos hvalid
      obtain ⟨v, hv⟩ : ∃ v : ℕ → Location F, ∀ i, (h : i < MAX_SIZE) →
          v i = (ind.batchedReportList ⟨i, h⟩).location :=
        ⟨fun i => if h : i < MAX_SIZE then (ind.batchedReportList ⟨i, h⟩).location else .zero,
          fun i h => dif_pos h⟩
      have hbody : ∀ (piece : Cells MAX_SIZE (Location F)) (i : ℕ), i < MAX_SIZE →
          (if h : i < MAX_SIZE then piece.write i (ind.batchedReportList ⟨i, h⟩).location
            else none) = piece.write i (v i) :=
        fun piece i hi => by rw [dif_pos hi, hv i hi]
      rw [hread, Cells.forTo_write ind.fits hbody, length_ofFn]
      refine ⟨_, rfl, fun i hi => ?_⟩
      rw [List.getElem?_ofFn, dif_pos hi, if_pos hi, hv i (hi.trans_le ind.fits)]
      rfl
    · have hread : readModemLocations (.ofFun fun _ => .zero) (some ind) =
          some (.ofFun fun _ => .zero, 0) := if_neg hvalid
      have hnone : entries (some ind) = [] := if_neg hvalid
      rw [hread, hnone]
      exact ⟨_, rfl, fun i hi => absurd hi i.not_lt_zero⟩

/-! ## What holds throughout the reading -/

variable {s s' : Reading n F} {place : Option ℕ} {l : Location F}

omit [Zero F] in
theorem Reading.store_frame (h : s.store place l = some s') :
    s'.entriesGotInTotal = s.entriesGotInTotal ∧ s'.requests = s.requests := by
  cases place with
  | none =>
    cases h
    exact ⟨rfl, rfl⟩
  | some index =>
    obtain ⟨buffer, -, rfl⟩ := map_eq_some_iff.mp h
    exact ⟨rfl, rfl⟩

omit [Zero F] in
theorem Reading.of_store_some {index : ℕ} {f : ℕ → Location F}
    (h : s.store (some index) l = some s') (hbuffer : s.pLocationsFromModem = .ofFun f) :
    s'.pLocationsFromModem = .ofFun (Function.update f index l) ∧ s'.stored = s.stored + 1 := by
  obtain ⟨buffer, hwrite, rfl⟩ := map_eq_some_iff.mp h
  have hindex : index < n := by
    by_contra hout
    have hnone : s.pLocationsFromModem.write index l = none := dif_neg hout
    rw [hnone] at hwrite
    cases hwrite
  rw [hbuffer, Cells.write_ofFun hindex] at hwrite
  exact ⟨(some.inj hwrite).symm, rfl⟩

omit [Zero F] in
theorem Reading.isSome_store (s : Reading n F) (l : Location F) (h : ∀ index ∈ place, index < n) :
    (s.store place l).isSome := by
  cases place with
  | none => rfl
  | some index =>
    have hwrite : (s.pLocationsFromModem.write index l).isSome := by
      unfold Cells.write
      rw [dif_pos (h index rfl)]
      rfl
    exact isSome_map.trans hwrite

theorem getElem?_of_concat {α : Type*} {l : List α} {x y : α} {k : ℕ}
    (h : (l ++ [x])[k]? = some y) (hne : k ≠ l.length) : l[k]? = some y := by
  have hk : k < (l ++ [x]).length := (List.getElem?_eq_some_iff.mp h).1
  rw [length_append, length_singleton] at hk
  rwa [List.getElem?_append_left (by omega)] at h

/-- How the locations are stored one by one: `Inv` is kept of the buffer, of
the number that was stored and of the locations that came. -/
structure Stores (store : Reading n F → ℕ → Location F → Option (Reading n F))
    (Inv : Cells n (Location F) → ℕ → List (Location F) → Prop) : Prop where
  frame : ∀ {s i l s'}, store s i l = some s' →
    s'.entriesGotInTotal = s.entriesGotInTotal ∧ s'.requests = s.requests
  keeps : ∀ {s i l s' came}, store s i l = some s' → came.length = s.entriesGotInTotal + i →
    Inv s.pLocationsFromModem s.stored came → Inv s'.pLocationsFromModem s'.stored (came ++ [l])

section Rule

variable {store : Reading n F → ℕ → Location F → Option (Reading n F)}
variable {Inv : Cells n (Location F) → ℕ → List (Location F) → Prop} {came : List (Location F)}
  {total : UInt64} {got : ℕ} {a : Answer F} {answers : List (Answer F)}

omit [Zero F] in
theorem Stores.piece (h : Stores store Inv) {e : List (Location F)} {f : ℕ → Location F} {count : ℕ}
    (hcount : count ≤ e.length) (hf : ∀ i < e.length, e[i]? = some (f i))
    (hfits : e.length ≤ MAX_SIZE) (hrun : forTo count (fun s i => do
      store s i (← (Cells.ofFun f : Cells MAX_SIZE (Location F)).read i)) s = some s')
    (hcame : came.length = s.entriesGotInTotal) (hInv : Inv s.pLocationsFromModem s.stored came) :
    (s'.entriesGotInTotal = s.entriesGotInTotal ∧ s'.requests = s.requests) ∧
      Inv s'.pLocationsFromModem s'.stored (came ++ e.take count) := by
  induction count generalizing s' with
  | zero =>
    cases hrun
    rw [take_zero, append_nil]
    exact ⟨⟨rfl, rfl⟩, hInv⟩
  | succ count ih =>
    rw [forTo_succ] at hrun
    obtain ⟨s₁, hs₁, hstore⟩ := bind_eq_some_iff.mp hrun
    obtain ⟨⟨hgot, hrequests⟩, hInv₁⟩ := ih (by omega) hs₁
    rw [Cells.read_ofFun (by omega)] at hstore
    have hframe := h.frame hstore
    refine ⟨⟨hframe.1.trans hgot, hframe.2.trans hrequests⟩, ?_⟩
    have hlength : (came ++ e.take count).length = s₁.entriesGotInTotal + count := by
      rw [length_append, length_take, hcame, hgot]
      omega
    rw [take_add_one, hf count hcount, ← append_assoc]
    exact h.keeps hstore hlength hInv₁

theorem toNat_sub_ofNat (h : got ≤ total.toNat) :
    (total - .ofNat got).toNat = total.toNat - got := by
  have hgot : (UInt64.ofNat got).toNat = got :=
    UInt64.toNat_ofNat_of_lt' (h.trans_lt total.toNat_lt)
  have hle : UInt64.ofNat got ≤ total := UInt64.le_iff_toNat_le.mpr (hgot.symm ▸ h)
  rw [UInt64.toNat_sub_of_le _ _ hle, hgot]

theorem toNat_sub_ofNat_succ (total : UInt64) :
    (total - .ofNat (total.toNat + 1)).toNat = 2 ^ 64 - 1 := by
  have hone : UInt64.ofNat (total.toNat + 1) = total + 1 := by
    rw [UInt64.ofNat_add, UInt64.ofNat_toNat]
    rfl
  have hminus : total - (total + 1) = -1 := by grind
  rw [hone, hminus]
  rfl

/-- Nothing is asked for when exactly as many have come as there are to read;
one more, and much is asked for. -/
theorem entriesToRead_pos_iff (hgot : got ≤ total.toNat + 1) :
    entriesToRead total got > 0 ↔ got ≠ total.toNat := by
  show 0 < min _ 5 ↔ _
  rcases Nat.le_or_eq_of_le_succ hgot with hle | rfl
  · rw [toNat_sub_ofNat hle]
    omega
  · rw [toNat_sub_ofNat_succ]
    exact iff_of_true (by decide) (Nat.succ_ne_self _)

theorem delivered_cons {total : ℕ} (answers : List (Answer F)) (ha : entries a ≠ [])
    (hne : got + (entries a).length ≠ total) :
    delivered total got (a :: answers) =
      entries a ++ delivered total (got + (entries a).length) answers :=
  (if_neg ha).trans (if_neg hne)

theorem Stores.turn (h : Stores store Inv) (hrun : readAll store total (a :: answers) s = some s')
    (hcame : came.length = s.entriesGotInTotal) (hInv : Inv s.pLocationsFromModem s.stored came) :
    ∃ s₁ : Reading n F, s₁.entriesGotInTotal = s.entriesGotInTotal + (entries a).length ∧
      s₁.requests.length = s.requests.length + 1 ∧
      Inv s₁.pLocationsFromModem s₁.stored (came ++ entries a) ∧
      (if (entries a).length > 0 ∧ entriesToRead total s₁.entriesGotInTotal > 0 then
        readAll store total answers s₁ else some s₁) = some s' := by
  obtain ⟨f, hread, hf⟩ := readModemLocations_eq a
  rw [readAll, hread] at hrun
  obtain ⟨_, ⟨⟩, hpiece⟩ := bind_eq_some_iff.mp hrun
  obtain ⟨s₂, hs₂, hrest⟩ := bind_eq_some_iff.mp hpiece
  obtain ⟨⟨hgot, hrequests⟩, hInv₂⟩ :=
    h.piece le_rfl hf (length_entries_le a) hs₂ hcame hInv
  rw [take_length] at hInv₂
  let s₁ : Reading n F :=
    { s₂ with
      entriesGotInTotal := s₂.entriesGotInTotal + (entries a).length
      requests := s₂.requests ++ [entriesToRead total s.entriesGotInTotal] }
  refine ⟨s₁, ?_, ?_, hInv₂, hrest⟩
  · exact congrArg (· + (entries a).length) hgot
  · show (s₂.requests ++ [_]).length = _
    rw [length_append, hrequests]
    rfl

/-- The whole loop: what came in the answers that were read is what is there
to be delivered, or more than there is room for. -/
theorem Stores.readAll (h : Stores store Inv) (hrun : readAll store total answers s = some s')
    (hcame : came.length = s.entriesGotInTotal) (hInv : Inv s.pLocationsFromModem s.stored came) :
    ∃ k, s'.requests.length = s.requests.length + k ∧ s'.entriesGotInTotal =
        s.entriesGotInTotal + ((answers.take k).flatMap entries).length ∧
      Inv s'.pLocationsFromModem s'.stored (came ++ (answers.take k).flatMap entries) ∧
      (s.entriesGotInTotal ≤ total.toNat + 1 → s.entriesGotInTotal ≠ total.toNat →
        (answers.take k).flatMap entries = delivered total.toNat s.entriesGotInTotal answers ∨
          total.toNat + 1 < s'.entriesGotInTotal ∧ total.toNat + 1 <
            s.entriesGotInTotal + (delivered total.toNat s.entriesGotInTotal answers).length) := by
  induction answers generalizing s came with
  | nil =>
    cases hrun
    refine ⟨1, ?_, rfl, ?_, fun _ _ => Or.inl rfl⟩
    · rw [length_append]
      rfl
    · rw [take_nil, flatMap_nil, append_nil]
      exact hInv
  | cons a answers ih =>
    obtain ⟨s₁, hgot, hrequests, hInv₁, hrest⟩ := h.turn hrun hcame hInv
    have hcame₁ : (came ++ entries a).length = s₁.entriesGotInTotal := by
      rw [length_append, hcame, hgot]
    split at hrest
    · next hmore =>
        obtain ⟨k, hk, hgot', hInv', hdelivered⟩ := ih hrest hcame₁ hInv₁
        refine ⟨k + 1, by omega, ?_, ?_, fun hle hne => ?_⟩
        · rw [hgot', hgot, take_succ_cons, flatMap_cons, length_append, add_assoc]
        · rw [take_succ_cons, flatMap_cons, ← append_assoc]
          exact hInv'
        · have ha : entries a ≠ [] := length_pos_iff.mp hmore.1
          by_cases hle₁ : s₁.entriesGotInTotal ≤ total.toNat + 1
          · have hne₁ := (entriesToRead_pos_iff hle₁).mp hmore.2
            rw [delivered_cons answers ha (hgot ▸ hne₁), take_succ_cons, flatMap_cons,
              length_append, ← hgot]
            refine (hdelivered hle₁ hne₁).imp (fun heq => congrArg _ heq) fun hover => ?_
            exact ⟨hover.1, by omega⟩
          · right
            rw [delivered_cons answers ha (by omega), length_append]
            exact ⟨by omega, by omega⟩
    · next hlast =>
        cases hrest
        refine ⟨1, hrequests, ?_, ?_, fun hle hne => ?_⟩
        · rw [hgot, take_succ_cons, flatMap_cons, length_append]
          rfl
        · rw [take_succ_cons, flatMap_cons, take_zero, flatMap_nil, append_nil]
          exact hInv₁
        · rw [take_succ_cons, flatMap_cons, take_zero, flatMap_nil, append_nil]
          by_cases ha : entries a = []
          · left
            rw [ha]
            exact (if_pos ha).symm
          · have hpos := length_pos_iff.mpr ha
            by_cases htotal : s.entriesGotInTotal + (entries a).length = total.toNat
            · left
              exact ((if_neg ha).trans (if_pos htotal)).symm
            · right
              rw [delivered_cons answers ha htotal, length_append]
              have hover : ¬ s'.entriesGotInTotal ≤ total.toNat + 1 := fun hle₁ =>
                hlast ⟨hpos, (entriesToRead_pos_iff hle₁).mpr (hgot ▸ htotal)⟩
              exact ⟨by omega, by omega⟩

theorem isSome_readAll (hstore : ∀ s i l, (store s i l).isSome) (total : UInt64)
    (answers : List (Answer F)) (s : Reading n F) : (readAll store total answers s).isSome := by
  induction answers generalizing s with
  | nil => rfl
  | cons a answers ih =>
    obtain ⟨f, hread, -⟩ := readModemLocations_eq a
    have hpiece : ∀ count ≤ (entries a).length, (forTo count (fun s i => do
        store s i (← (Cells.ofFun f : Cells MAX_SIZE (Location F)).read i)) s).isSome := by
      intro count hcount
      induction count with
      | zero => rfl
      | succ count ih =>
        obtain ⟨s₁, hs₁⟩ := isSome_iff_exists.mp (ih (by omega))
        rw [forTo_succ, hs₁, bind_some, Cells.read_ofFun (hcount.trans (length_entries_le a))]
        exact hstore s₁ count (f count)
    obtain ⟨s₂, hs₂⟩ := isSome_iff_exists.mp (hpiece _ le_rfl)
    rw [readAll, hread]
    show (Option.bind (forTo _ _ s) _).isSome
    rw [hs₂, bind_some]
    dsimp only
    split
    · exact ih _
    · rfl

theorem Stores.fromNew (h : Stores store Inv) (hzero : total ≠ 0)
    (hrun : LocApi.BatchedLocations.readAll store total answers .new = some s)
    (hInv : Inv (Reading.new : Reading n F).pLocationsFromModem 0 []) :
    ∃ came, (answers.take s.requests.length).flatMap entries = came ∧
      s.entriesGotInTotal = came.length ∧ Inv s.pLocationsFromModem s.stored came ∧
      (came = delivered total.toNat 0 answers ∨ total.toNat + 1 < came.length ∧
        total.toNat + 1 < (delivered total.toNat 0 answers).length) := by
  have hnone : ([] : List (Location F)).length = (Reading.new : Reading n F).entriesGotInTotal :=
    rfl
  obtain ⟨k, hrequests, hgot, hInv', hdelivered⟩ := h.readAll hrun hnone hInv
  have hk : s.requests.length = k := hrequests.trans (Nat.zero_add k)
  have hgot' : s.entriesGotInTotal = ((answers.take k).flatMap entries).length :=
    hgot.trans (Nat.zero_add _)
  have hne : 0 ≠ total.toNat := fun heq => hzero (UInt64.toNat_inj.mp heq.symm)
  refine ⟨_, rfl, hk ▸ hgot', hk ▸ hInv', ?_⟩
  rw [hk, ← hgot', ← Nat.zero_add (delivered total.toNat 0 answers).length]
  exact hdelivered (Nat.zero_le _) hne

theorem isSome_readAll_of_none (h : delivered total.toNat got answers = []) (s : Reading n F) :
    (readAll store total answers s).isSome := by
  cases answers with
  | nil => rfl
  | cons a answers =>
    have ha : entries a = [] := by
      by_contra hne
      unfold delivered at h
      rw [if_neg hne] at h
      split at h
      · exact hne h
      · exact hne (append_eq_nil_iff.mp h).1
    obtain ⟨f, hread, -⟩ := readModemLocations_eq a
    rw [readAll, hread, ha]
    rfl

end Rule

/-! ## Trips -/

/-- The buffer of the trips has what came, as far as there is room. -/
def InTrip (total : UInt64) (buffer : Cells n (Location F)) (stored : ℕ)
    (came : List (Location F)) : Prop :=
  stored = min came.length total.toNat ∧
    ∃ f, buffer = .ofFun f ∧ ∀ k, k < total.toNat → ∀ l, came[k]? = some l → f k = l

omit [Zero F] in
theorem stores_storeTrip (total : UInt64) :
    Stores (storeTrip total : Reading total.toNat F → _) (InTrip total) := by
  constructor
  · intro s i l s' hstore
    exact Reading.store_frame hstore
  · rintro s i l s' came hstore hlength ⟨hstored, f, hbuffer, hf⟩
    by_cases hroom : came.length < total.toNat
    · have hplace : storeTrip total s i l = s.store (some came.length) l := by
        unfold storeTrip
        rw [← hlength]
        exact congrArg (s.store · l) (if_pos hroom)
      rw [hplace] at hstore
      obtain ⟨hbuffer', hstored'⟩ := Reading.of_store_some hstore hbuffer
      refine ⟨?_, _, hbuffer', fun k hk l' hl' => ?_⟩
      · rw [hstored', length_append, length_singleton]
        omega
      · rcases eq_or_ne k came.length with rfl | hne
        · rw [List.getElem?_concat_length] at hl'
          rw [Function.update_self, some.inj hl']
        · rw [Function.update_of_ne hne]
          exact hf k hk l' (getElem?_of_concat hl' hne)
    · have hplace : storeTrip total s i l = some s := by
        unfold storeTrip
        rw [← hlength]
        exact congrArg (s.store · l) (if_neg hroom)
      rw [hplace] at hstore
      cases hstore
      refine ⟨?_, f, hbuffer, fun k hk l' hl' => hf k hk l' (getElem?_of_concat hl' (by omega))⟩
      rw [length_append, length_singleton]
      omega

omit [Zero F] in
theorem isSome_storeTrip (total : UInt64) (s : Reading total.toNat F) (i : ℕ) (l : Location F) :
    (storeTrip total s i l).isSome := by
  refine s.isSome_store l fun index hindex => ?_
  split at hindex
  · next hroom => exact some.inj hindex ▸ hroom
  · cases hindex

omit [Zero F] in
theorem length_reportLocations {p : Cells n (Location F)} {offset count : ℕ}
    {l : List (Location F)} (h : reportLocations p offset count = some l) : l.length = count :=
  (Cells.of_gather h).1

omit [Zero F] in
theorem reportLocations_eq {f : ℕ → Location F} {offset : ℕ} {came : List (Location F)}
    (hfits : offset + came.length ≤ n) (hf : ∀ i l, came[i]? = some l → f (offset + i) = l) :
    reportLocations (.ofFun f : Cells n (Location F)) offset came.length = some came := by
  unfold reportLocations
  rw [Cells.gather_eq (f := fun i => f (offset + i)) fun i hi => Cells.read_ofFun (by omega)]
  refine congrArg some (ext_getElem? fun i => ?_)
  by_cases hi : i < came.length
  · rw [List.getElem?_map, List.getElem?_range hi, map_some,
      hf i came[i] (List.getElem?_eq_getElem hi), List.getElem?_eq_getElem hi]
  · rw [List.getElem?_eq_none (by simpa using hi), List.getElem?_eq_none (by omega)]

theorem trip_right_iff (mTripBatchSize count : UInt64) (accumulatedDistance : UInt32)
    (answers : List (Answer F)) :
    Safe answers (getBatchedTripLocationsSync mTripBatchSize count accumulatedDistance answers) ↔
      TripFits (min mTripBatchSize count).toNat answers := by
  unfold getBatchedTripLocationsSync
  generalize min mTripBatchSize count = total
  by_cases hzero : total = 0
  · subst hzero
    refine iff_of_true ⟨_, if_pos rfl, rfl, nil_subperm⟩ fun h => absurd rfl h
  · have hne : total.toNat ≠ 0 := fun h => hzero (UInt64.toNat_inj.mp h)
    obtain ⟨s, hs⟩ := isSome_iff_exists.mp
      (isSome_readAll (isSome_storeTrip total) total answers .new)
    obtain ⟨came, hcame, hgot, ⟨hstored, f, hbuffer, hf⟩, hdelivered⟩ :=
      (stores_storeTrip total).fromNew hzero hs
        ⟨(Nat.zero_min _).symm, fun _ => .zero, rfl, fun k _ l hl => by cases hl⟩
    have hfits : TripFits total.toNat answers ↔ came.length ≤ total.toNat := by
      refine (forall_prop_of_true hne).trans ?_
      rcases hdelivered with heq | ⟨hmore, hmore'⟩
      · rw [heq]
      · exact iff_of_false (by omega) (by omega)
    rw [if_neg hzero, hs, hfits]
    constructor
    · rintro ⟨o, hcall, hcount, -⟩
      obtain ⟨_, ⟨⟩, hrest⟩ := bind_eq_some_iff.mp hcall
      obtain ⟨reported, hreported, ⟨⟩⟩ := bind_eq_some_iff.mp hrest
      have hlength : reported.length = s.entriesGotInTotal := length_reportLocations hreported
      have hcount' : reported.length = s.stored := hcount
      omega
    · intro hle
      have hreport : reportLocations s.pLocationsFromModem 0 s.entriesGotInTotal = some came := by
        rw [hbuffer, hgot]
        refine reportLocations_eq (by omega) fun i l hl => ?_
        rw [Nat.zero_add]
        exact hf i ((List.getElem?_eq_some_iff.mp hl).1.trans_le hle) l hl
      refine ⟨_, by rw [bind_eq_bind, bind_some, hreport]; rfl, ?_, ?_⟩
      · show came.length = s.stored
        omega
      · unfold Outcome.received
        rw [hcame]

end LocStack.LocApi.BatchedLocations
