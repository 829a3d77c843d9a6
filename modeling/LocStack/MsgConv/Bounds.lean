/-
# `LocStack.MsgConv.Bounds` — what the decoders read and write

A message comes from another process and can have any number of elements and
any count in it.  Of the decoders nine read repeated fields into arrays; the
others read and write members only.

`sound_iff`: a decoder reads elements that are there, writes cells that are
there and sets the count to the cells it has written, if and only if

    collectiveRes, batch          there is at most one element
    gfBreach                      never: it sets no count
    locInfo                       measUsageInfo has the elements the count
                                  announces, and enuVelocityVRPBased has three
    sv                            always
    data                          each of the three fields has the elements
                                  the count announces
    meas                          there are at most GNSS_MEASUREMENTS_MAX
    gfAddReq, gfReqClientId       there are at most MAX_GEOFENCE_ENTRY
-/
import LocStack.MsgConv.Payloads
import LocStack.MsgConv.Satellites

namespace LocStack.MsgConv

open Base

/-! ## The contract -/

/-- What is decoded into arrays. -/
inductive PBArrays where
  | collectiveRes (pb : PBCollectiveResPayload)
  | batch (pb : PBLocAPIBatchNotification)
  | gfBreach (pb : PBLocAPIGeofenceBreachNotification)
  | locInfo (pb : PBGnssLocationInfoNotification)
  | sv (pb : PBLocApiGnssSvNotification)
  | data (pb : PBGnssDataNotification)
  | meas (pb : PBGnssMeasurementsNotification)
  | gfAddReq (pb : PBGeofencesAddedReqPayload)
  | gfReqClientId (pb : PBGeofencesReqClientIdPayload)

namespace PBArrays

/-- The decoder comes to no fault, and its count is that of the cells. -/
def Sound : PBArrays → Prop
  | collectiveRes pb =>
    ∃ d, pbConvertToCollectiveResPayload pb = some d ∧ d.count.toNat = d.resp.written
  | batch pb =>
    ∃ d, pbConvertToLocAPIBatchNotification pb = some d ∧ d.count.toNat = d.location.written
  | gfBreach pb =>
    ∃ d, pbConvertToLocAPIGfBreachNotification pb = some d ∧
      d.count.map UInt32.toNat = some d.id.written
  | locInfo pb =>
    ∃ d, pbConvertToGnssLocInfoNotif pb = some d ∧
      d.numOfMeasReceived.toNat = d.measUsageInfo.written
  | sv pb => ∃ d, pbConvertToGnssSvNotif pb = some d ∧ d.count.toNat = d.gnssSvs.written
  | data pb => ∃ d, pbConvertToGnssDataNotification pb = some d
  | meas pb =>
    ∃ d, pbConvertToGnssMeasNotification pb = some d ∧ d.count.toNat = d.measurements.written
  | gfAddReq pb =>
    ∃ d, pbConvertToGfAddReqPayload pb = some d ∧ d.count.toNat = d.gfPayload.written
  | gfReqClientId pb =>
    ∃ d, pbConvertToGfReqClientIdPayload pb = some d ∧ d.count.toNat = d.gfIds.written

/-- The elements are as many as the decoder takes for granted. -/
def Fits : PBArrays → Prop
  | collectiveRes pb => pb.resp.length ≤ 1
  | batch pb => pb.location.length ≤ 1
  | gfBreach _ => False
  | locInfo pb =>
    min pb.numOfMeasReceived.toNat GNSS_SV_MAX ≤ pb.measUsageInfo.length ∧
      3 ≤ pb.enuVelocityVRPBased.length
  | sv _ => True
  | data pb =>
    let arrMaxLen := min pb.numberSignalTypes.toNat GNSS_LOC_MAX_NUMBER_OF_SIGNAL_TYPES
    arrMaxLen ≤ pb.gnssDataMask.length ∧ arrMaxLen ≤ pb.jammerInd.length ∧ arrMaxLen ≤ pb.agc.length
  | meas pb => pb.measurements.length ≤ GNSS_MEASUREMENTS_MAX
  | gfAddReq pb => pb.gfPayload.length ≤ MAX_GEOFENCE_ENTRY
  | gfReqClientId pb => pb.gfIds.length ≤ MAX_GEOFENCE_ENTRY

/-! ## One loop -/

section Loops

variable {α β δ : Type} {n count : ℕ} {xs : List β} {f : β → α} {mk : Cells n α → δ}
  {P : δ → Prop}

theorem fill_sound (hP : ∀ a : Cells n α, count ≤ n → a.written = count → P (mk a)) :
    (∃ d, ((Cells.fill count (Cells.each xs f) (Cells.empty : Cells n α)).bind
        fun a => some (mk a)) = some d ∧ P d) ↔ count ≤ n ∧ count ≤ xs.length := by
  rw [Cells.fill_each]
  constructor
  · rintro ⟨d, hd, -⟩
    by_contra hnot
    rw [if_neg hnot] at hd
    cases hd
  · intro h
    rw [if_pos h]
    exact ⟨_, rfl, hP _ h.1 (Cells.written_firsts_each h)⟩

theorem fill_all_sound
    (hP : ∀ a : Cells n α, xs.length ≤ n → a.written = xs.length → P (mk a)) :
    (∃ d, ((Cells.fill xs.length (Cells.each xs f) (Cells.empty : Cells n α)).bind
        fun a => some (mk a)) = some d ∧ P d) ↔ xs.length ≤ n :=
  (fill_sound hP).trans (and_iff_left le_rfl)

theorem toNat_toUInt32 {k : ℕ} (hn : n ≤ 128) (hk : k ≤ n) : k.toUInt32.toNat = k :=
  UInt32.toNat_ofNat_of_lt' (lt_of_le_of_lt (hk.trans hn) (by decide))

theorem toNat_toUInt8 {k : ℕ} (hk : k ≤ 128) : k.toUInt8.toNat = k :=
  UInt8.toNat_ofNat_of_lt' (lt_of_le_of_lt hk (by decide))

theorem turn_each {i : ℕ} (next : Cells n α → Option δ) :
    (xs[i]?.bind fun x =>
        ((Cells.firsts i (Cells.each xs f) : Cells n α).write i (f x)).bind next) =
      if i < n ∧ i < xs.length then next (Cells.firsts (i + 1) (Cells.each xs f)) else none := by
  have hturn := @Cells.turn_firsts α n (Cells.each xs f) i
  have hbind : (xs[i]?.bind fun x =>
        ((Cells.firsts i (Cells.each xs f) : Cells n α).write i (f x)).bind next) =
      ((Cells.each xs f i).bind
        ((Cells.firsts i (Cells.each xs f) : Cells n α).write i)).bind next := by
    unfold Cells.each
    cases xs[i]? <;> rfl
  rw [hbind, hturn]
  simp only [Cells.isSome_each]
  split <;> rfl

end Loops

theorem gfBreach_not_sound (pb : PBLocAPIGeofenceBreachNotification) : ¬ (gfBreach pb).Sound := by
  rintro ⟨d, hd, hcount⟩
  rw [count_eq_none hd] at hcount
  cases hcount

theorem locInfo_sound (pb : PBGnssLocationInfoNotification) :
    (locInfo pb).Sound ↔ (locInfo pb).Fits := by
  have hmeas := Cells.fill_each (n := GNSS_SV_MAX)
    (min pb.numOfMeasReceived.toNat GNSS_SV_MAX) pb.measUsageInfo pbConvertToGnssMeasUsageInfo
  have henu := Cells.fill_each (n := 3) 3 pb.enuVelocityVRPBased (id : Float32 → Float32)
  unfold Sound Fits pbConvertToGnssLocInfoNotif
  simp only [hmeas, henu]
  constructor
  · rintro ⟨d, hd, -⟩
    split at hd
    · next hle =>
        split at hd
        · next hthree => exact ⟨hle.2, hthree.2⟩
        · cases hd
    · cases hd
  · rintro ⟨hle, hthree⟩
    rw [if_pos ⟨min_le_right .., hle⟩, if_pos ⟨le_rfl, hthree⟩]
    refine ⟨_, rfl, (toNat_toUInt8 (min_le_right ..)).trans ?_⟩
    exact (Cells.written_firsts_each ⟨min_le_right .., hle⟩).symm

/-- The arrays when `i` signals have been read. -/
def dataAt (pb : PBGnssDataNotification) (i : ℕ) : GnssDataNotification where
  gnssDataMask := Cells.firsts i (Cells.each pb.gnssDataMask getGnssDataMaskFromPB)
  jammerInd := Cells.firsts i (Cells.each pb.jammerInd id)
  agc := Cells.firsts i (Cells.each pb.agc id)

/-- There is a cell for signal `i`, and an element of each field. -/
def DataOk (pb : PBGnssDataNotification) (i : ℕ) : Prop :=
  i < GNSS_LOC_MAX_NUMBER_OF_SIGNAL_TYPES ∧ i < pb.gnssDataMask.length ∧
    i < pb.jammerInd.length ∧ i < pb.agc.length
  deriving Decidable

theorem data_turn (pb : PBGnssDataNotification) (i : ℕ) : pbConvertToGnssData pb (dataAt pb i) i =
      if DataOk pb i then some (dataAt pb (i + 1)) else none := by
  refine (turn_each _).trans ?_
  split
  · next hmask =>
      refine (turn_each (f := id) _).trans ?_
      split
      · next hjammer =>
          refine (turn_each (f := id) _).trans (ite_congr (propext ?_) (fun _ => rfl) fun _ => rfl)
          exact ⟨fun hagc => ⟨hmask.1, hmask.2, hjammer.2, hagc.2⟩, fun h => ⟨h.1, h.2.2.2⟩⟩
      · next hjammer => exact (if_neg fun h => hjammer ⟨h.1, h.2.2.1⟩).symm
  · next hmask => exact (if_neg fun h => hmask ⟨h.1, h.2.1⟩).symm

theorem data_sound (pb : PBGnssDataNotification) : (data pb).Sound ↔ (data pb).Fits := by
  have hloop : pbConvertToGnssDataNotification pb = _ :=
    forTo_eq (dataAt pb) (DataOk pb) (data_turn pb)
  show (∃ d, pbConvertToGnssDataNotification pb = some d) ↔ _
  rw [hloop]
  constructor
  · rintro ⟨d, hd⟩
    split at hd
    · next hall =>
        exact ⟨le_of_forall_lt fun i hi => (hall i hi).2.1,
          le_of_forall_lt fun i hi => (hall i hi).2.2.1,
          le_of_forall_lt fun i hi => (hall i hi).2.2.2⟩
    · cases hd
  · rintro ⟨hmask, hjammer, hagc⟩
    refine ⟨_, if_pos fun i hi => ⟨hi.trans_le (min_le_right ..), ?_, ?_, ?_⟩⟩
    · exact hi.trans_le hmask
    · exact hi.trans_le hjammer
    · exact hi.trans_le hagc

/-- Where each decoder stays inside, for any elements and any count. -/
theorem sound_iff (m : PBArrays) : m.Sound ↔ m.Fits := by
  cases m with
  | collectiveRes pb =>
    exact fill_all_sound fun a hle hw => (toNat_toUInt32 (by decide) hle).trans hw.symm
  | batch pb =>
    exact fill_all_sound fun a hle hw => (toNat_toUInt32 (by decide) hle).trans hw.symm
  | gfBreach pb => exact iff_of_false (gfBreach_not_sound pb) id
  | locInfo pb => exact locInfo_sound pb
  | sv pb =>
    refine (fill_sound fun a hle hw => ?_).trans (iff_true_intro ?_)
    · exact (toNat_toUInt32 le_rfl hle).trans hw.symm
    · exact ⟨min_le_right .., min_le_left ..⟩
  | data pb => exact data_sound pb
  | meas pb =>
    exact fill_all_sound fun a hle hw => (toNat_toUInt32 (by decide) hle).trans hw.symm
  | gfAddReq pb =>
    exact fill_all_sound fun a hle hw => (toNat_toUInt32 (by decide) hle).trans hw.symm
  | gfReqClientId pb =>
    exact fill_all_sound fun a hle hw => (toNat_toUInt32 (by decide) hle).trans hw.symm

/-- A response for two geofences is written into the one cell there is. -/
theorem not_sound_twoResponses :
    ¬ (collectiveRes ⟨[⟨1, .member .SUCCESS⟩, ⟨2, .member .SUCCESS⟩]⟩).Sound := by
  rintro ⟨d, hd, -⟩
  cases hd

end PBArrays

end LocStack.MsgConv
