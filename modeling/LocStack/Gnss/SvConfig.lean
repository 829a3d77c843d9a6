/-
# `LocStack.Gnss.SvConfig` — the SV blacklist GnssAdapter keeps in the modem

Two configurations decide which satellites the modem may use: a blacklist of
single SVs, one mask for each constellation (`mGnssSvIdConfig`), and the
constellations that are disabled as a whole (`mGnssSvTypeConfig`).  The
modem knows one blacklist, so the second has to be merged into the first
when it is sent: a disabled constellation gets the mask with all bits set.

    gnssSvTypeConfigUpdate     merges and sends
    gnssSvIdConfigUpdate       sends mGnssSvIdConfig as it is
    gnssUpdateSvConfig         the same, with both configurations new
    handleEngineUpEvent        the second, then the first
    gnssResetSvTypeConfig      nothing is disabled, so the second is enough

`svBlacklist_iff`: the modem has the merged blacklist throughout a run if
and only if every blacklist sent as it is has nothing to merge (`Unmerged`),
and no type configuration that is not of the size expected, which is stored
and not sent, asks for another one.
-/
import LocStack.Base.Run

namespace LocStack.Gnss

open Base

/-! ## The configurations -/

inductive GnssSvType where
  | unknown | gps | sbas | glonass | qzss | beidou | galileo | navic
  deriving DecidableEq

structure GnssSvIdSource where
  size : UInt32
  constellation : GnssSvType
  svId : UInt32
  deriving DecidableEq

structure GnssSvIdConfig where
  size : UInt32
  (gloBlacklistSvMask bdsBlacklistSvMask qzssBlacklistSvMask galBlacklistSvMask : BitVec 64)
  (sbasBlacklistSvMask navicBlacklistSvMask : BitVec 64)
  deriving DecidableEq

structure GnssSvTypeConfig where
  size : UInt32
  (enabledSvTypesMask blacklistedSvTypesMask : BitVec 64)
  deriving DecidableEq

def GnssSvIdSource.sizeof : UInt32 := 12
def GnssSvIdConfig.sizeof : UInt32 := 56
def GnssSvTypeConfig.sizeof : UInt32 := 24

def GNSS_SV_CONFIG_ALL_BITS_ENABLED_MASK : BitVec 64 := 0xFFFFFFFFFFFFFFFF#64

def GNSS_SV_TYPES_MASK_GLO_BIT : BitVec 64 := 1#64
def GNSS_SV_TYPES_MASK_BDS_BIT : BitVec 64 := 2#64
def GNSS_SV_TYPES_MASK_QZSS_BIT : BitVec 64 := 4#64
def GNSS_SV_TYPES_MASK_GAL_BIT : BitVec 64 := 8#64
def GNSS_SV_TYPES_MASK_NAVIC_BIT : BitVec 64 := 16#64

def GNSS_SV_CONFIG_GLO_INITIAL_SV_ID : Nat := 65
def GNSS_SV_CONFIG_BDS_INITIAL_SV_ID : Nat := 201
def GNSS_SV_CONFIG_QZSS_INITIAL_SV_ID : Nat := 193
def GNSS_SV_CONFIG_GAL_INITIAL_SV_ID : Nat := 301
def GNSS_SV_CONFIG_SBAS_INITIAL_SV_ID : Nat := 120
def GNSS_SV_CONFIG_SBAS_INITIAL_SV_LENGTH : Nat := 39
def GNSS_SV_CONFIG_SBAS_INITIAL2_SV_ID : Nat := 183
def GNSS_SV_CONFIG_NAVIC_INITIAL_SV_ID : Nat := 401

/-- The masks of a GnssSvIdConfig. -/
inductive SvMask where
  | glo | bds | qzss | gal | sbas | navic
  deriving DecidableEq

namespace GnssSvIdConfig

def get (config : GnssSvIdConfig) : SvMask → BitVec 64
  | .glo => config.gloBlacklistSvMask
  | .bds => config.bdsBlacklistSvMask
  | .qzss => config.qzssBlacklistSvMask
  | .gal => config.galBlacklistSvMask
  | .sbas => config.sbasBlacklistSvMask
  | .navic => config.navicBlacklistSvMask

def set (config : GnssSvIdConfig) (mask : SvMask) (bits : BitVec 64) : GnssSvIdConfig :=
  match mask with
  | .glo => { config with gloBlacklistSvMask := bits }
  | .bds => { config with bdsBlacklistSvMask := bits }
  | .qzss => { config with qzssBlacklistSvMask := bits }
  | .gal => { config with galBlacklistSvMask := bits }
  | .sbas => { config with sbasBlacklistSvMask := bits }
  | .navic => { config with navicBlacklistSvMask := bits }

/-- All bytes zero. -/
def zero : GnssSvIdConfig := ⟨0, 0, 0, 0, 0, 0, 0⟩

theorem ext_get {config other : GnssSvIdConfig} :
    config = other ↔ config.size = other.size ∧ ∀ mask, config.get mask = other.get mask := by
  constructor
  · rintro rfl
    exact ⟨rfl, fun _ => rfl⟩
  · rintro ⟨hsize, hget⟩
    cases config
    cases other
    simp only [mk.injEq]
    exact ⟨hsize, hget .glo, hget .bds, hget .qzss, hget .gal, hget .sbas, hget .navic⟩

/-! ## Lists of SVs and masks -/

/-- Which mask a source is for, the SV id of its bit 0 and the offset of its
range in the mask; none where the constellation or, for SBAS, the id is
invalid. -/
def svMaskPtr (source : GnssSvIdSource) : Option (SvMask × Nat × Nat) :=
  match source.constellation with
  | .glonass => some (.glo, GNSS_SV_CONFIG_GLO_INITIAL_SV_ID, 0)
  | .beidou => some (.bds, GNSS_SV_CONFIG_BDS_INITIAL_SV_ID, 0)
  | .qzss => some (.qzss, GNSS_SV_CONFIG_QZSS_INITIAL_SV_ID, 0)
  | .galileo => some (.gal, GNSS_SV_CONFIG_GAL_INITIAL_SV_ID, 0)
  | .sbas =>
    let svId := source.svId.toNat
    if svId = 0 then some (.sbas, 0, 0)
    else if GNSS_SV_CONFIG_SBAS_INITIAL2_SV_ID ≤ svId then
      some (.sbas, GNSS_SV_CONFIG_SBAS_INITIAL2_SV_ID, GNSS_SV_CONFIG_SBAS_INITIAL_SV_LENGTH)
    else if GNSS_SV_CONFIG_SBAS_INITIAL_SV_ID ≤ svId ∧
        svId < GNSS_SV_CONFIG_SBAS_INITIAL_SV_ID + GNSS_SV_CONFIG_SBAS_INITIAL_SV_LENGTH then
      some (.sbas, GNSS_SV_CONFIG_SBAS_INITIAL_SV_ID, 0)
    else none
  | .navic => some (.navic, GNSS_SV_CONFIG_NAVIC_INITIAL_SV_ID, 0)
  | _ => none

/-- One turn of the loop in `convertToGnssSvIdConfig`.  A count above 63,
which the second range of SBAS can give, is undefined in C++. -/
def blacklistSource (config : GnssSvIdConfig) (source : GnssSvIdSource) : GnssSvIdConfig :=
  match svMaskPtr source with
  | none => config
  | some (mask, initialSvId, svIndexOffset) =>
    let svId := source.svId.toNat
    if svId = 0 then config.set mask GNSS_SV_CONFIG_ALL_BITS_ENABLED_MASK
    else if svId < initialSvId ∨ initialSvId + 64 ≤ svId then config
    else config.set mask (config.get mask ||| 1#64 <<< (svId + svIndexOffset - initialSvId))

def convertToGnssSvIdConfig (blacklistedSvIds : List GnssSvIdSource) (config : GnssSvIdConfig) :
    GnssSvIdConfig × Bool :=
  let config := { config with size := sizeof }
  match blacklistedSvIds with
  | [] => (⟨config.size, 0, 0, 0, 0, 0, 0⟩, true)
  | sources =>
    let config := sources.foldl blacklistSource config
    (config, config.gloBlacklistSvMask ≠ 0 ∨ config.bdsBlacklistSvMask ≠ 0 ∨
      config.galBlacklistSvMask ≠ 0 ∨ config.qzssBlacklistSvMask ≠ 0 ∨
      config.sbasBlacklistSvMask ≠ 0 ∨ config.navicBlacklistSvMask ≠ 0)

/-- The loop of `convertGnssSvIdMaskToList`, which is over when the mask has
no bits left. -/
def maskBits (initialSvId : Nat) (svType : GnssSvType) :
    (turns bitNumber : Nat) → BitVec 64 → List GnssSvIdSource
  | 0, _, _ => []
  | turns + 1, bitNumber, svIdMask =>
    if svIdMask = 0 then []
    else
      let svId :=
        if svType = .sbas ∧ GNSS_SV_CONFIG_SBAS_INITIAL_SV_LENGTH ≤ bitNumber then
          bitNumber - GNSS_SV_CONFIG_SBAS_INITIAL_SV_LENGTH + GNSS_SV_CONFIG_SBAS_INITIAL2_SV_ID
        else bitNumber + initialSvId
      (if svIdMask &&& 1#64 ≠ 0 then [⟨GnssSvIdSource.sizeof, svType, svId.toUInt32⟩] else []) ++
        maskBits initialSvId svType turns (bitNumber + 1) (svIdMask >>> 1)

def convertGnssSvIdMaskToList (svIdMask : BitVec 64) (initialSvId : Nat) (svType : GnssSvType) :
    List GnssSvIdSource :=
  -- SV ID 0 => All SV IDs in mask
  if svIdMask = GNSS_SV_CONFIG_ALL_BITS_ENABLED_MASK then
    [⟨GnssSvIdSource.sizeof, svType, 0⟩]
  else maskBits initialSvId svType 64 0 svIdMask

def convertFromGnssSvIdConfig (svConfig : GnssSvIdConfig) : List GnssSvIdSource :=
  let sbas := svConfig.sbasBlacklistSvMask
  let unused := 64 - GNSS_SV_CONFIG_SBAS_INITIAL_SV_LENGTH
  (if svConfig.bdsBlacklistSvMask ≠ 0 then
    convertGnssSvIdMaskToList svConfig.bdsBlacklistSvMask GNSS_SV_CONFIG_BDS_INITIAL_SV_ID .beidou
  else []) ++
  (if svConfig.galBlacklistSvMask ≠ 0 then
    convertGnssSvIdMaskToList svConfig.galBlacklistSvMask GNSS_SV_CONFIG_GAL_INITIAL_SV_ID .galileo
  else []) ++
  (if svConfig.gloBlacklistSvMask ≠ 0 then
    convertGnssSvIdMaskToList svConfig.gloBlacklistSvMask GNSS_SV_CONFIG_GLO_INITIAL_SV_ID .glonass
  else []) ++
  (if svConfig.qzssBlacklistSvMask ≠ 0 then
    convertGnssSvIdMaskToList svConfig.qzssBlacklistSvMask GNSS_SV_CONFIG_QZSS_INITIAL_SV_ID .qzss
  else []) ++
  (if sbas ≠ 0 then
    -- operate on 120 and 158 first, then on the second range
    convertGnssSvIdMaskToList (sbas <<< unused >>> unused) GNSS_SV_CONFIG_SBAS_INITIAL_SV_ID
      .sbas ++
    convertGnssSvIdMaskToList (sbas >>> GNSS_SV_CONFIG_SBAS_INITIAL_SV_LENGTH)
      GNSS_SV_CONFIG_SBAS_INITIAL2_SV_ID .sbas
  else []) ++
  (if svConfig.navicBlacklistSvMask ≠ 0 then
    convertGnssSvIdMaskToList svConfig.navicBlacklistSvMask GNSS_SV_CONFIG_NAVIC_INITIAL_SV_ID
      .navic
  else [])

end GnssSvIdConfig

/-! ## Merging -/

/-- `mGnssSvIdConfig` with the constellations that are disabled merged in,
as `gnssSvTypeConfigUpdate` makes it. -/
def blacklistConfig (types : GnssSvTypeConfig) (ids : GnssSvIdConfig) : GnssSvIdConfig :=
  let disabled (bit mask : BitVec 64) : BitVec 64 :=
    if types.blacklistedSvTypesMask &&& bit ≠ 0 then GNSS_SV_CONFIG_ALL_BITS_ENABLED_MASK else mask
  if types.blacklistedSvTypesMask ≠ 0 then
    { ids with
      gloBlacklistSvMask := disabled GNSS_SV_TYPES_MASK_GLO_BIT ids.gloBlacklistSvMask
      bdsBlacklistSvMask := disabled GNSS_SV_TYPES_MASK_BDS_BIT ids.bdsBlacklistSvMask
      qzssBlacklistSvMask := disabled GNSS_SV_TYPES_MASK_QZSS_BIT ids.qzssBlacklistSvMask
      galBlacklistSvMask := disabled GNSS_SV_TYPES_MASK_GAL_BIT ids.galBlacklistSvMask
      navicBlacklistSvMask := disabled GNSS_SV_TYPES_MASK_NAVIC_BIT ids.navicBlacklistSvMask }
  else ids

/-- The bit of a mask's constellation in a GnssSvTypesMask; SBAS has none. -/
def SvMask.typeBit : SvMask → BitVec 64
  | .glo => GNSS_SV_TYPES_MASK_GLO_BIT
  | .bds => GNSS_SV_TYPES_MASK_BDS_BIT
  | .qzss => GNSS_SV_TYPES_MASK_QZSS_BIT
  | .gal => GNSS_SV_TYPES_MASK_GAL_BIT
  | .sbas => 0
  | .navic => GNSS_SV_TYPES_MASK_NAVIC_BIT

def GnssSvTypeConfig.Blacklists (types : GnssSvTypeConfig) (mask : SvMask) : Prop :=
  types.blacklistedSvTypesMask &&& mask.typeBit ≠ 0
  deriving Decidable

/-- What the modem's blacklist is to be: `ids`, where the mask of each
constellation that `types` blacklists has all bits set. -/
def Enforces (types : GnssSvTypeConfig) (ids sent : GnssSvIdConfig) : Prop :=
  sent.size = ids.size ∧ ∀ mask, sent.get mask =
      if types.Blacklists mask then GNSS_SV_CONFIG_ALL_BITS_ENABLED_MASK else ids.get mask

/-- `ids` has all bits set where `types` would have them set. -/
def Unmerged (types : GnssSvTypeConfig) (ids : GnssSvIdConfig) : Prop :=
  ∀ mask, types.Blacklists mask → ids.get mask = GNSS_SV_CONFIG_ALL_BITS_ENABLED_MASK

theorem forall_svMask {P : SvMask → Prop} :
    (∀ mask, P mask) ↔ P .glo ∧ P .bds ∧ P .qzss ∧ P .gal ∧ P .sbas ∧ P .navic := by
  constructor
  · intro h
    exact ⟨h _, h _, h _, h _, h _, h _⟩
  · rintro ⟨hglo, hbds, hqzss, hgal, hsbas, hnavic⟩ mask
    cases mask <;> assumption

instance (types : GnssSvTypeConfig) (ids sent : GnssSvIdConfig) :
    Decidable (Enforces types ids sent) :=
  decidable_of_iff _ (and_congr_right' forall_svMask.symm)

instance (types : GnssSvTypeConfig) (ids : GnssSvIdConfig) : Decidable (Unmerged types ids) :=
  decidable_of_iff _ forall_svMask.symm

section Merge

variable {types : GnssSvTypeConfig} {ids sent : GnssSvIdConfig}

theorem blacklistConfig_get (mask : SvMask) : (blacklistConfig types ids).get mask =
      if types.Blacklists mask then GNSS_SV_CONFIG_ALL_BITS_ENABLED_MASK else ids.get mask := by
  unfold blacklistConfig
  split
  · cases mask with
    | sbas => simp [GnssSvTypeConfig.Blacklists, SvMask.typeBit, GnssSvIdConfig.get]
    | glo | bds | qzss | gal | navic => rfl
  · rename_i hnone
    have hzero : types.blacklistedSvTypesMask = 0 := not_not.mp hnone
    simp [GnssSvTypeConfig.Blacklists, hzero]

theorem blacklistConfig_size : (blacklistConfig types ids).size = ids.size := by
  unfold blacklistConfig
  split <;> rfl

theorem enforces_iff : Enforces types ids sent ↔ sent = blacklistConfig types ids := by
  rw [GnssSvIdConfig.ext_get, blacklistConfig_size]
  simp only [Enforces, blacklistConfig_get]

theorem enforces_ids_iff : Enforces types ids ids ↔ Unmerged types ids := by
  unfold Enforces Unmerged
  rw [and_iff_right rfl]
  refine forall_congr' fun mask => ?_
  split <;> simp_all

theorem unmerged_of_zero (h : types.blacklistedSvTypesMask = 0) : Unmerged types ids := by
  intro mask hmask
  simp [GnssSvTypeConfig.Blacklists, h] at hmask

end Merge

/-! ## The adapter -/

/-- What is sent to LocApi. -/
inductive SvApiCall where
  | setBlacklistSv (config : GnssSvIdConfig)
  | setConstellationControl (config : GnssSvTypeConfig)
  | resetConstellationControl

inductive SvEvent where
  /-- The modem has told which features it has. -/
  | setEngineCapabilities (constellationEnablement : Bool)
  | handleEngineUpEvent
  | gnssUpdateSvTypeConfigCommand (config : GnssSvTypeConfig)
  | gnssResetSvTypeConfigCommand
  /-- A `gnssUpdateConfigCommand` that has blacklisted SV ids. -/
  | gnssUpdateConfigCommand (blacklistedSvIds : List GnssSvIdSource)
  | gnssSvIdConfigUpdate (blacklistedSvIds : List GnssSvIdSource)
  | gnssUpdateSvConfig (constellationEnablementConfig : GnssSvTypeConfig)
      (blacklistSvConfig : GnssSvIdConfig)

/-- The part of GnssAdapter that is about SVs, and what it has been told of
the modem. -/
structure SvAdapter where
  mGnssSvIdConfig : GnssSvIdConfig
  mGnssSvTypeConfig : GnssSvTypeConfig
  mBlacklistedSvIds : List GnssSvIdSource
  engineCapabilitiesKnown : Bool
  /-- LOC_SUPPORTED_FEATURE_CONSTELLATION_ENABLEMENT_V02 -/
  constellationEnablement : Bool

namespace SvAdapter

def new : SvAdapter where
  mGnssSvIdConfig := .zero
  mGnssSvTypeConfig := ⟨0, 0, 0⟩
  mBlacklistedSvIds := []
  engineCapabilitiesKnown := false
  constellationEnablement := false

/-- The bits that the new mask takes from the enabled ones. -/
def enabledRemoved (s : SvAdapter) (config : GnssSvTypeConfig) : BitVec 64 :=
  s.mGnssSvTypeConfig.enabledSvTypesMask &&&
    (s.mGnssSvTypeConfig.enabledSvTypesMask ^^^ config.enabledSvTypesMask)

/-- `gnssSvTypeConfigUpdate(bool sendReset)`. -/
def gnssSvTypeConfigUpdate (s : SvAdapter) (sendReset : Bool) : List SvApiCall :=
  let types := s.mGnssSvTypeConfig
  if types.size = GnssSvTypeConfig.sizeof then
    (if sendReset then [.resetConstellationControl] else []) ++
      [.setBlacklistSv (blacklistConfig types s.mGnssSvIdConfig)] ++
      if types.enabledSvTypesMask ≠ 0 then
        [.setConstellationControl ⟨GnssSvTypeConfig.sizeof, types.enabledSvTypesMask, 0⟩]
      else []
  else []

/-- The command takes effect; otherwise it waits until the capabilities are
known, or is refused. -/
def Ready (s : SvAdapter) : Prop :=
  s.engineCapabilitiesKnown = true ∧ s.constellationEnablement = true
  deriving Decidable

/-- The configuration that the list gives.  The old one has been cleared. -/
def converted (blacklistedSvIds : List GnssSvIdSource) : GnssSvIdConfig × Bool :=
  GnssSvIdConfig.zero.convertToGnssSvIdConfig blacklistedSvIds

def step (s : SvAdapter) : SvEvent → SvAdapter × List SvApiCall
  | .setEngineCapabilities constellationEnablement =>
    ({ s with constellationEnablement := constellationEnablement }, [])
  | .handleEngineUpEvent =>
    ({ s with engineCapabilitiesKnown := true },
      .setBlacklistSv s.mGnssSvIdConfig :: s.gnssSvTypeConfigUpdate false)
  | .gnssUpdateSvTypeConfigCommand config =>
    if s.Ready then
      ({ s with mGnssSvTypeConfig := config },
        { s with mGnssSvTypeConfig := config }.gnssSvTypeConfigUpdate
          (s.enabledRemoved config ≠ 0))
    else (s, [])
  | .gnssResetSvTypeConfigCommand =>
    if s.Ready then
      ({ s with mGnssSvTypeConfig := ⟨GnssSvTypeConfig.sizeof, 0, 0⟩ },
        [.setBlacklistSv s.mGnssSvIdConfig, .resetConstellationControl])
    else (s, [])
  | .gnssUpdateConfigCommand blacklistedSvIds =>
    if s.Ready then
      ({ s with
          mGnssSvIdConfig := (converted blacklistedSvIds).1
          mBlacklistedSvIds := blacklistedSvIds },
        -- `gnssSvIdConfigUpdateSync` does not ask whether the conversion succeeded
        [.setBlacklistSv (converted blacklistedSvIds).1])
    else (s, [])
  | .gnssSvIdConfigUpdate blacklistedSvIds =>
    ({ s with mGnssSvIdConfig := (converted blacklistedSvIds).1 },
      if (converted blacklistedSvIds).2 then [.setBlacklistSv (converted blacklistedSvIds).1]
      else [])
  | .gnssUpdateSvConfig types ids =>
    ({ s with
        mGnssSvTypeConfig := types
        mGnssSvIdConfig := ids
        mBlacklistedSvIds := ids.convertFromGnssSvIdConfig },
      (if types.size = GnssSvTypeConfig.sizeof then
        (if s.enabledRemoved types ≠ 0 then [.resetConstellationControl] else []) ++
          [.setConstellationControl s.mGnssSvTypeConfig]
      else if types.size = 0 then [.resetConstellationControl]
      else []) ++ [.setBlacklistSv ids])

end SvAdapter

/-! ## What the modem was last sent -/

/-- The blacklist last sent, where `sent` was before the calls. -/
def sentAfter (sent : Option GnssSvIdConfig) : List SvApiCall → Option GnssSvIdConfig
  | [] => sent
  | .setBlacklistSv config :: calls => sentAfter (some config) calls
  | .setConstellationControl _ :: calls => sentAfter sent calls
  | .resetConstellationControl :: calls => sentAfter sent calls

theorem sentAfter_append (sent : Option GnssSvIdConfig) (calls more : List SvApiCall) :
    sentAfter sent (calls ++ more) = sentAfter (sentAfter sent calls) more := by
  induction calls generalizing sent with
  | nil => rfl
  | cons call calls ih => cases call <;> exact ih _

structure WatchedSv where
  adapter : SvAdapter
  sent : Option GnssSvIdConfig

namespace WatchedSv

def new : WatchedSv := ⟨.new, none⟩

def step (w : WatchedSv) (e : SvEvent) : WatchedSv × List SvApiCall :=
  (⟨(w.adapter.step e).1, sentAfter w.sent (w.adapter.step e).2⟩, (w.adapter.step e).2)

/-- The modem has what the two configurations ask for. -/
def Enforced (w : WatchedSv) : Prop :=
  ∀ sent ∈ w.sent, Enforces w.adapter.mGnssSvTypeConfig w.adapter.mGnssSvIdConfig sent
  deriving Decidable

/-- Nothing was sent yet, or the modem's blacklist stays the right one with
these configurations. -/
def NoNews (w : WatchedSv) (types : GnssSvTypeConfig) (ids : GnssSvIdConfig) : Prop :=
  w.sent = none ∨ blacklistConfig types ids =
    blacklistConfig w.adapter.mGnssSvTypeConfig w.adapter.mGnssSvIdConfig
  deriving Decidable

/-- What is sent as it is has nothing to merge, and what is not sent is no
news. -/
def NothingToMerge (w : WatchedSv) : SvEvent → Prop
  | .setEngineCapabilities _ => True
  | .handleEngineUpEvent =>
    w.adapter.mGnssSvTypeConfig.size = GnssSvTypeConfig.sizeof ∨
      Unmerged w.adapter.mGnssSvTypeConfig w.adapter.mGnssSvIdConfig
  | .gnssUpdateSvTypeConfigCommand config =>
    w.adapter.Ready → config.size = GnssSvTypeConfig.sizeof ∨
      w.NoNews config w.adapter.mGnssSvIdConfig
  | .gnssResetSvTypeConfigCommand => True
  | .gnssUpdateConfigCommand blacklistedSvIds =>
    w.adapter.Ready → Unmerged w.adapter.mGnssSvTypeConfig (SvAdapter.converted blacklistedSvIds).1
  | .gnssSvIdConfigUpdate blacklistedSvIds =>
    if (SvAdapter.converted blacklistedSvIds).2 = true then
      Unmerged w.adapter.mGnssSvTypeConfig (SvAdapter.converted blacklistedSvIds).1
    else w.NoNews w.adapter.mGnssSvTypeConfig (SvAdapter.converted blacklistedSvIds).1
  | .gnssUpdateSvConfig types ids => Unmerged types ids

instance (w : WatchedSv) (e : SvEvent) : Decidable (w.NothingToMerge e) := by
  cases e <;> unfold NothingToMerge <;> infer_instance

variable {w : WatchedSv}

theorem Enforced.noNews (h : w.Enforced) {types : GnssSvTypeConfig} {ids : GnssSvIdConfig} :
    (∀ sent ∈ w.sent, Enforces types ids sent) ↔ w.NoNews types ids := by
  unfold NoNews
  cases hs : w.sent with
  | none => simp
  | some sent =>
    have hsent := enforces_iff.mp (h sent hs)
    simp only [Option.mem_def, Option.some.injEq, forall_eq', enforces_iff, reduceCtorEq, false_or]
    rw [hsent]
    exact eq_comm

theorem sentAfter_gnssSvTypeConfigUpdate {s : SvAdapter} {sendReset : Bool}
    {sent : Option GnssSvIdConfig} :
    sentAfter sent (s.gnssSvTypeConfigUpdate sendReset) =
      if s.mGnssSvTypeConfig.size = GnssSvTypeConfig.sizeof then
        some (blacklistConfig s.mGnssSvTypeConfig s.mGnssSvIdConfig)
      else sent := by
  simp only [SvAdapter.gnssSvTypeConfigUpdate]
  split_ifs <;> rfl

theorem Enforced.step_iff (h : w.Enforced) (e : SvEvent) :
    (w.step e).1.Enforced ↔ w.NothingToMerge e := by
  cases e with
  | setEngineCapabilities constellationEnablement => exact ⟨fun _ => trivial, fun _ => h⟩
  | handleEngineUpEvent =>
    simp only [Enforced, step, SvAdapter.step, sentAfter, sentAfter_gnssSvTypeConfigUpdate,
      NothingToMerge]
    split
    · rename_i hsize
      simp [hsize, enforces_iff]
    · rename_i hsize
      simp [hsize, enforces_ids_iff]
  | gnssUpdateSvTypeConfigCommand config =>
    simp only [Enforced, step, SvAdapter.step, NothingToMerge]
    split
    · rename_i hready
      simp only [hready, true_implies, sentAfter_gnssSvTypeConfigUpdate]
      split
      · rename_i hsize
        simp [hsize, enforces_iff]
      · rename_i hsize
        simp only [hsize, false_or]
        exact h.noNews
    · rename_i hready
      exact ⟨fun _ hr => absurd hr hready, fun _ => h⟩
  | gnssResetSvTypeConfigCommand =>
    refine ⟨fun _ => trivial, fun _ => ?_⟩
    simp only [Enforced, step, SvAdapter.step]
    split
    · intro sent hsent
      cases hsent
      exact enforces_ids_iff.mpr (unmerged_of_zero rfl)
    · exact h
  | gnssUpdateConfigCommand blacklistedSvIds =>
    simp only [Enforced, step, SvAdapter.step, NothingToMerge]
    split
    · rename_i hready
      simp [hready, sentAfter, enforces_ids_iff]
    · rename_i hready
      exact ⟨fun _ hr => absurd hr hready, fun _ => h⟩
  | gnssSvIdConfigUpdate blacklistedSvIds =>
    simp only [Enforced, step, SvAdapter.step, NothingToMerge]
    split
    · simp [sentAfter, enforces_ids_iff]
    · exact h.noNews
  | gnssUpdateSvConfig types ids =>
    simp only [Enforced, step, SvAdapter.step, NothingToMerge, sentAfter_append, sentAfter]
    simp [enforces_ids_iff]

/-- The modem's blacklist is the one the two configurations ask for, in
every state of a run, if and only if no step of the run leaves something to
merge. -/
theorem svBlacklist_iff (es : List SvEvent) :
    StatesMeet step Enforced new es ↔ StepsMeet step NothingToMerge new es :=
  statesMeet_iff_stepsMeet (Q := fun _ => True) (fun _ _ _ => trivial)
    (fun _ e _ h => Enforced.step_iff h e) trivial (fun _ hsent => by cases hsent)

/-- GLONASS is disabled; then one SV of BeiDou is blacklisted, and the modem
may use GLONASS again. -/
def reenabled : List SvEvent :=
  [.setEngineCapabilities true, .handleEngineUpEvent,
    .gnssUpdateSvTypeConfigCommand ⟨24, 2#64, 1#64⟩,
    .gnssUpdateConfigCommand [⟨12, .beidou, 205⟩]]

theorem svBlacklist_reenabled :
    (after step new (reenabled.take 3)).Enforced ∧ ¬ (after step new reenabled).Enforced ∧
      (after step new reenabled).adapter.mGnssSvTypeConfig.Blacklists .glo ∧
      (after step new reenabled).sent.map (·.gloBlacklistSvMask) = some 0 := by
  decide

end WatchedSv

end LocStack.Gnss
