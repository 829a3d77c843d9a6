/-
# `LocStack.Utils.ProcessConf` — the processes of a configuration file

loc_read_process_conf counts the process names of a file, rewinds, and reads as
many blocks of parameters, each into the same variables.  What of the features is in
the file is the same for all of its processes.
-/
import LocStack.Utils.ConfFiles

namespace LocStack.Utils.ConfFiles

open Base List

/-! ## Processes -/

inductive ProcStatus where
  | ENABLED | RUNNING | DISABLED | DISABLED_FROM_CONF | DISABLED_VIA_VENDOR_ENHANCED_CHECK

/-- A loc_process_info_s_type; what is not said is 0. -/
structure ProcessInfo where
  proc_status : ProcStatus := .DISABLED
  name : List Char := []
  group_list : List UInt32 := []
  args : List (List Char) := []
  argumentString : List Char := []

/-- The properties of the device, and what is in the features before they are read. -/
structure Device where
  (platform_name socid_value baseband_name autoplatform_name : List Char)
  (low_ram_target sglte_target isXtraDaemonEnabled isVendorEnhanced useGlib : Bool)
  getgrnam : List Char → Option UInt32
  features : List Char → List Char

/-- The entry of a name and a type. -/
def entry (value : List Char × Char → ConfValue) (p : List Char × Char) : Param :=
  ⟨p.1, p.2, true, value p, none⟩

def strings (names : List String) : List (List Char × Char) := names.map fun n => (n.toList, 's')

def loc_feature_conf : List (List Char × Char) :=
  strings ["GTP_MODE", "GTP_WAA", "SAP", "ODCPI", "FREE_WIFI_SCAN_INJECT", "SUPL_WIFI",
    "WIFI_SUPPLICANT_INFO"]

def PROCESS_NAME : List Char × Char := ("PROCESS_NAME".toList, 's')

def loc_process_conf_parameters : List (List Char × Char) :=
  PROCESS_NAME :: strings ["PROCESS_ARGUMENT", "PROCESS_STATE", "PROCESS_GROUPS", "PLATFORMS",
    "SOC_IDS", "BASEBAND", "LOW_RAM_TARGETS", "HARDWARE_TYPE"] ++
  [("PREMIUM_FEATURE".toList, 'n'), ("IZAT_FEATURE_MASK".toList, 'n'),
    ("VENDOR_ENHANCED_PROCESS".toList, 'n')]

/-- A table with nothing in it. -/
def unset (ps : List (List Char × Char)) : List Param := ps.map (entry fun _ => .s [])

/-- LOC_MAX_PARAM_STRING, without the NUL -/
def maxParam : ℕ := 171

section Values

variable (value : List Char × Char → ConfValue)

def str (name : String) : List Char :=
  match value (name.toList, 's') with
  | .s v => v
  | _ => []

def num (name : String) : BitVec 32 :=
  match value (name.toList, 'n') with
  | .n v => v
  | _ => 0

/-- What the features make of `loc_service_mask`. -/
def serviceMask (useGlib : Bool) : BitVec 32 :=
  let basic (name : String) (mask : BitVec 32) : BitVec 32 :=
    if str value name = "BASIC".toList ∨ str value name = "PREMIUM".toList then mask else 0
  let gtp := str value "GTP_MODE"
  let sap := str value "SAP"
  (if gtp = "LEGACY_WWAN".toList then 0x400
    else if gtp = "SDK".toList ∨ gtp = "SDK_WIFI".toList then 0x01 else 0) |||
  (if str value "GTP_WAA" = "BASIC".toList then 0x100 else 0) |||
  (if sap = "PREMIUM".toList ∨ sap = "PREMIUM_ENV_AIDING".toList then 0x80
    else if sap = "DISABLED".toList then if useGlib then 0x40 else 0 else 0x40) |||
  basic "ODCPI" 0x1000 ||| basic "FREE_WIFI_SCAN_INJECT" 0x2000 |||
  basic "SUPL_WIFI" 0x4000 ||| basic "WIFI_SUPPLICANT_INFO" 0x8000

/-- `loc_util_split_string` at blanks, into at most `max` strings -/
def splitBlanks (s : List Char) (max : ℤ) : List (List Char) :=
  (loc_util_split_string s max ' ').split_strings

/-- The list names the value, or all values but some; or one that is `also` the one. -/
def names (list v : List Char) (also : List (List Char)) : Bool :=
  match splitBlanks list 20 with
  | first :: rest =>
    if first = "all".toList then
      match rest with
      | [] => true
      | second :: excluded => second = "exclude".toList ∧ v ∉ excluded
    else (v :: also).any (· ∈ first :: rest)
  | [] => false

/-- The arguments that the features of a process have. -/
def featureArgs (loc_feature_mask loc_service_mask : BitVec 32) : List (List Char) :=
  let has (mask : BitVec 32) := loc_service_mask &&& mask ≠ 0
  let args (mask : BitVec 32) (name mode : String) :=
    if loc_feature_mask &&& mask ≠ 0 then [name.toList, mode.toList] else []
  args 0x03 "--gtp-wifi"
    (if has 0x01 then "BASIC" else if has 0x02 then "PREMIUM" else "DISABLED") ++
  args 0x0c "--gtp-modem-cell" (if has 0x400 then "BASIC" else "DISABLED") ++
  args 0xc0 "--sap" (if has 0x40 then "BASIC" else if has 0x80 then "PREMIUM" else "DISABLED") ++
  args 0x100 "--gtp-waa" (if has 0x100 then "BASIC" else "DISABLED")

/-- One turn of the loop, with what is in `conf`; `argumentString` ends where it
is split. -/
def processInfo (d : Device) (loc_service_mask : BitVec 32) : ProcessInfo :=
  let name := str value "PROCESS_NAME"
  let hardware := splitBlanks (str value "HARDWARE_TYPE") 20
  if ∃ n ∈ ["PROCESS_NAME", "PROCESS_GROUPS", "PLATFORMS", "BASEBAND", "PROCESS_STATE",
      "HARDWARE_TYPE", "SOC_IDS"], str value n = [] then {}
  else if name = "xtra-daemon".toList ∧ ¬ d.isXtraDaemonEnabled then
    { proc_status := .DISABLED_FROM_CONF }
  else if ¬ d.isVendorEnhanced ∧ num value "VENDOR_ENHANCED_PROCESS" ≠ 0 then
    { proc_status := .DISABLED_VIA_VENDOR_ENHANCED_CHECK }
  else if str value "PROCESS_STATE" = "DISABLED".toList then
    { proc_status := .DISABLED_FROM_CONF }
  else if name.length + 1 > maxParam + 1 then {}
  else
    let process : ProcessInfo :=
      { name, group_list := (splitBlanks (str value "PROCESS_GROUPS") 20).filterMap d.getgrnam }
    if (splitBlanks (str value "LOW_RAM_TARGETS") 20).head? = some "DISABLED".toList ∧
        d.low_ram_target then process
    else if names (str value "PLATFORMS") d.platform_name [] ∧
        names (str value "BASEBAND") d.baseband_name
          (if d.sglte_target then ["sglte".toList] else []) ∧
        (hardware.head? = some "all".toList ∨ d.autoplatform_name ∈ hardware) ∧
        names (str value "SOC_IDS") d.socid_value [] then
      let loc_feature_mask := num value "IZAT_FEATURE_MASK"
      let premium := num value "PREMIUM_FEATURE" ≠ 0
      let served := loc_feature_mask &&& loc_service_mask ≠ 0
      let file := if name.head? = some '/' then (name.reverse.takeWhile (· ≠ '/')).reverse else name
      let args := file :: if premium ∧ served then featureArgs loc_feature_mask loc_service_mask
        else []
      let argument := str value "PROCESS_ARGUMENT"
      let split := if argument = [] then [] else splitBlanks argument (25 - args.length)
      { process with
        proc_status := if ¬ premium ∨ served then .ENABLED else .DISABLED
        args := (args ++ split).map (take 31)
        argumentString := split.headD [] }
    else process

end Values

/-! ## Blocks -/

variable (C : CLib)

/-- `loc_read_conf_r`: the table, and what is left of the file. -/
def loc_read_conf_r (table : List Param) (pieces : List (List Char)) :
    List Param × List (List Char) :=
  let num_params := UInt32.ofNat table.length
  let table := table.map Param.clear
  (fillLoop C maxParam num_params table pieces,
    pieces.drop (linesTaken C maxParam num_params table pieces))

/-- The first loop: names are read until one is empty. -/
def countProcesses : ℕ → List (List Char) → UInt8
  | 0, _ => 0
  | fuel + 1, pieces =>
    let (table, rest) := loc_read_conf_r C (unset [PROCESS_NAME]) pieces
    match table.map Param.value with
    | [.s (_ :: _)] => countProcesses fuel rest + 1
    | _ => 0

/-- What the entries of a table hold. -/
def valueOf (table : List Param) (p : List Char × Char) : ConfValue :=
  ((table.find? (·.param_name = p.1)).map Param.value).getD (.s [])

/-- The second loop, with `left` processes to be read. -/
def readProcesses (d : Device) (loc_service_mask : BitVec 32) :
    ℕ → List Param → List (List Char) → List ProcessInfo
  | 0, _, _ => []
  | left + 1, table, pieces =>
    let (table, rest) := loc_read_conf_r C table pieces
    processInfo (valueOf table) d loc_service_mask ::
      readProcesses d loc_service_mask left table rest

def fileServiceMask (d : Device) (file : List Char) : BitVec 32 :=
  let features := loc_feature_conf.map (entry fun p => .s (d.features p.1))
  serviceMask (valueOf ((loc_read_conf_long C maxParam file features).getD features)) d.useGlib

/-- `loc_read_process_conf`, with what is in `conf` before. -/
def loc_read_process_conf (d : Device) (conf : List Char × Char → ConfValue) (file : List Char) :
    List ProcessInfo :=
  let pieces := fgets maxParam [] file
  readProcesses C d (fileServiceMask C d file) (countProcesses C (pieces.length + 1) pieces).toNat
    (loc_process_conf_parameters.map (entry conf)) pieces

/-- The pieces put something into each entry once. -/
def Once (table : List Param) (l : List (List Char)) : Prop :=
  ∀ e ∈ table, l.countP (fun x => (setBy C maxParam e x).isSome) = 1

/-- The pieces put nothing into any entry. -/
def Foreign (table : List Param) (l : List (List Char)) : Prop :=
  ∀ x ∈ l, ∀ e ∈ table, setBy C maxParam e x = none

/-- A file of blocks, in each of which each parameter is once. -/
structure ProcessFile where
  file : List Char
  blocks : List (List (List Char))
  pieces : fgets maxParam [] file = blocks.flatten
  once : ∀ b ∈ blocks, Once C (unset loc_process_conf_parameters) b

/-- What a block says. -/
def said (b : List (List Char)) (p : List Char × Char) : ConfValue :=
  (lastSet C maxParam (entry (fun _ => .s []) p) b).getD (.s [])

/-- The name is not NULL. -/
def named (b : List (List Char)) : Bool :=
  match said C b PROCESS_NAME with
  | .s (_ :: _) => true
  | _ => false

/-- The process of a block. -/
def record (d : Device) (loc_service_mask : BitVec 32) (b : List (List Char)) : ProcessInfo :=
  processInfo (valueOf (loc_process_conf_parameters.map (entry (said C b)))) d loc_service_mask

variable {C} {table : List Param} {b j l more : List (List Char)} {bs : List (List (List Char))}
  {e : Param} {n : ℕ}

/-! ### One block -/

theorem sum_add_countP (f : List Char → ℕ) (q : List Char → Bool) :
    (l.map fun x => f x + if q x then 1 else 0).sum = (l.map f).sum + l.countP q := by
  induction l with
  | nil => rfl
  | cons x l ih =>
    simp only [map_cons, sum_cons, ih, countP_cons]
    omega

theorem Once.sum_eq (h : Once C table l) : (l.map fun x =>
    table.countP fun e => (setBy C maxParam e x).isSome).sum = table.length := by
  induction table with
  | nil => simp
  | cons e table ih =>
    have htable : Once C table l := fun e' he' => h e' (mem_cons_of_mem _ he')
    simp only [countP_cons, sum_add_countP, ih htable, h e mem_cons_self, length_cons]

theorem Once.append (hj : Foreign C table j) (hb : Once C table b) : Once C table (j ++ b) := by
  intro e he
  rw [countP_append, hb e he, countP_eq_zero.mpr]
  intro x hx
  simp [hj x hx e he]

theorem Once.lastSet_eq (hj : Foreign C table j) (he : e ∈ table) :
    lastSet C maxParam e (j ++ b) = lastSet C maxParam e b := by
  rw [lastSet, filterMap_append, filterMap_eq_nil_iff.mpr fun x hx => hj x hx e he]
  rfl

theorem reached_append (hn : (b.map fun x =>
    table.countP fun e => (setBy C maxParam e x).isSome).sum = n) (hlt : n < 4294967296) :
    ∃ head tail, b = head ++ tail ∧ Foreign C table tail ∧
      reached C maxParam table (UInt32.ofNat n) (b ++ more) = head := by
  induction b generalizing n with
  | nil =>
    obtain rfl : n = 0 := hn.symm
    refine ⟨[], [], rfl, fun x hx => absurd hx not_mem_nil, ?_⟩
    cases more <;> rfl
  | cons x b ih =>
    rw [map_cons, sum_cons] at hn
    obtain ⟨head, tail, hsplit, htail, hreached⟩ := ih rfl (by omega)
    by_cases hzero : n = 0
    · -- nothing is read of the rest, so that nothing is in it
      subst hzero
      obtain ⟨hx, hb⟩ := Nat.add_eq_zero_iff.mp hn
      have hhead : head = [] := by
        rw [← hreached, hb]
        cases b <;> cases more <;> rfl
      obtain rfl : b = tail := by rw [hsplit, hhead, nil_append]
      refine ⟨[], x :: b, rfl, fun y hy e he => ?_, rfl⟩
      rcases mem_cons.mp hy with rfl | hy
      · simpa using countP_eq_zero.mp hx e he
      · exact htail y hy e he
    · have hne : UInt32.ofNat n ≠ 0 := by
        intro h
        have htoNat := congrArg UInt32.toNat h
        rw [UInt32.toNat_ofNat', Nat.mod_eq_of_lt hlt] at htoNat
        exact hzero htoNat
      refine ⟨x :: head, tail, by rw [hsplit, cons_append], htail, ?_⟩
      rw [cons_append, reached, if_neg hne, ← hn, UInt32.ofNat_add, UInt32.add_comm]
      exact congrArg (x :: ·) ((congrArg (reached C maxParam table · (b ++ more))
        (UInt32.add_sub_cancel _ _)).trans hreached)

theorem loc_read_conf_r_append (hb : Once C table l) (hlt : table.length < 4294967296) :
    ∃ tail, Foreign C table tail ∧ loc_read_conf_r C table (l ++ more) =
      (table.map fun e => e.clear.put (lastSet C maxParam e l), tail ++ more) := by
  obtain ⟨head, tail, rfl, htail, hreached⟩ := @reached_append _ _ _ more _ hb.sum_eq hlt
  have hclear : reached C maxParam (table.map Param.clear) (UInt32.ofNat table.length)
      (head ++ tail ++ more) = head :=
    (reached_congr (f := Param.clear) fun _ _ => rfl).trans hreached
  refine ⟨tail, htail, ?_⟩
  have hlast : ∀ e ∈ table, lastSet C maxParam e (head ++ tail) = lastSet C maxParam e head := by
    intro e he
    rw [lastSet, filterMap_append, filterMap_eq_nil_iff.mpr fun x hx => htail x hx e he, append_nil]
    rfl
  rw [loc_read_conf_r, fillLoop_eq, linesTaken_eq, hclear, map_map, append_assoc, drop_left]
  refine congrArg (·, tail ++ more) (map_congr_left fun e he => ?_)
  rw [hlast e he]
  rfl

theorem Once.isSome (h : Once C table l) (he : e ∈ table) :
    ∃ v, lastSet C maxParam e l = some v := by
  have hone := h e he
  cases hlast : lastSet C maxParam e l with
  | some v => exact ⟨v, rfl⟩
  | none =>
    rw [lastSet, getLast?_eq_none_iff, filterMap_eq_nil_iff] at hlast
    rw [countP_eq_zero.mpr fun x hx => by simp [hlast x hx]] at hone
    cases hone

theorem read_block {ps : List (List Char × Char)} {value : List Char × Char → ConfValue}
    (hb : Once C (unset ps) b) (hj : Foreign C (unset ps) j) (hlt : ps.length < 4294967296) :
    ∃ tail, Foreign C (unset ps) tail ∧
      loc_read_conf_r C (ps.map (entry value)) (j ++ (b ++ more)) =
        (ps.map (entry (said C b)), tail ++ more) := by
  have honce : Once C (ps.map (entry value)) (j ++ b) := by
    intro e he
    obtain ⟨p, hp, rfl⟩ := mem_map.mp he
    exact hb.append hj (entry (fun _ => .s []) p) (mem_map_of_mem hp)
  obtain ⟨tail, htail, hread⟩ := @loc_read_conf_r_append _ _ _ more honce
    (by simpa using hlt)
  refine ⟨tail, fun x hx e he => ?_, ?_⟩
  · obtain ⟨p, hp, rfl⟩ := mem_map.mp he
    exact htail x hx (entry value p) (mem_map_of_mem hp)
  · rw [← append_assoc, hread, map_map]
    refine congrArg (·, tail ++ more) (map_congr_left fun p hp => ?_)
    have hmem : entry (fun _ => .s []) p ∈ unset ps := mem_map_of_mem hp
    obtain ⟨v, hv⟩ := hb.isSome hmem
    have hlast : lastSet C maxParam (entry value p) (j ++ b) = some v :=
      (Once.lastSet_eq hj hmem).trans hv
    have hsaid : said C b p = v := by rw [said, hv, Option.getD_some]
    rw [Function.comp_apply, hlast, entry, entry, hsaid]
    rfl

/-! ### The loops -/

theorem readProcesses_blocks (d : Device) (mask : BitVec 32)
    {value : List Char × Char → ConfValue} (hn : n ≤ bs.length)
    (hbs : ∀ b ∈ bs, Once C (unset loc_process_conf_parameters) b)
    (hj : Foreign C (unset loc_process_conf_parameters) j) :
    readProcesses C d mask n (loc_process_conf_parameters.map (entry value)) (j ++ bs.flatten) =
      (bs.take n).map (record C d mask) := by
  induction bs generalizing n j value with
  | nil =>
    obtain rfl : n = 0 := Nat.le_zero.mp hn
    rfl
  | cons b bs ih =>
    cases n with
    | zero => rfl
    | succ n =>
      obtain ⟨tail, htail, hread⟩ := @read_block _ _ _ bs.flatten _ value
        (hbs b mem_cons_self) hj (by decide)
      rw [readProcesses, flatten_cons, hread, take_succ_cons, map_cons]
      exact congrArg (record C d mask b :: ·) (ih (Nat.le_of_succ_le_succ hn)
        (fun b hb => hbs b (mem_cons_of_mem _ hb)) htail)

theorem mem_reached {x : List Char} {num : UInt32} (h : x ∈ reached C maxParam table num l) :
    x ∈ l := by
  induction l generalizing num with
  | nil => exact h
  | cons y l ih =>
    rw [reached] at h
    split at h
    · exact absurd h not_mem_nil
    · rcases mem_cons.mp h with rfl | h
      · exact mem_cons_self
      · exact mem_cons_of_mem _ (ih h)

theorem countProcesses_blocks {fuel : ℕ} (hfuel : bs.length < fuel)
    (hbs : ∀ b ∈ bs, Once C (unset [PROCESS_NAME]) b) (hj : Foreign C (unset [PROCESS_NAME]) j) :
    countProcesses C fuel (j ++ bs.flatten) = UInt8.ofNat (bs.takeWhile (named C)).length := by
  induction bs generalizing fuel j with
  | nil =>
    obtain ⟨fuel, rfl⟩ := Nat.exists_eq_succ_of_ne_zero (by omega : fuel ≠ 0)
    have hnone : ∀ num, lastSet C maxParam (entry (fun _ => .s []) PROCESS_NAME)
        (reached C maxParam (unset [PROCESS_NAME]) num j) = none := by
      intro num
      rw [lastSet, getLast?_eq_none_iff, filterMap_eq_nil_iff]
      exact fun x hx => hj x (mem_reached hx) _ mem_cons_self
    have hread : (loc_read_conf_r C (unset [PROCESS_NAME]) j).1 = unset [PROCESS_NAME] := by
      rw [loc_read_conf_r, fillLoop_eq, reached_congr (f := Param.clear) fun _ _ => rfl]
      exact congrArg (fun o => [(entry (fun _ => .s []) PROCESS_NAME).clear.put o]) (hnone 1)
    rw [flatten_nil, append_nil, countProcesses]
    simp only [hread]
    rfl
  | cons b bs ih =>
    obtain ⟨fuel, rfl⟩ := Nat.exists_eq_succ_of_ne_zero (by omega : fuel ≠ 0)
    obtain ⟨tail, htail, hread⟩ := @read_block _ _ _ bs.flatten _ (fun _ => .s [])
      (hbs b mem_cons_self) hj (by decide)
    have hrest := ih (Nat.lt_of_succ_lt_succ hfuel) (fun b hb => hbs b (mem_cons_of_mem _ hb)) htail
    have hread' : loc_read_conf_r C (unset [PROCESS_NAME]) (j ++ (b ++ bs.flatten)) =
        ([entry (said C b) PROCESS_NAME], tail ++ bs.flatten) := hread
    rw [countProcesses, flatten_cons, hread', takeWhile_cons]
    cases hsaid : said C b PROCESS_NAME with
    | s name =>
      cases name with
      | nil => simp [entry, named, hsaid]
      | cons c name => simp [entry, named, hsaid, hrest]
    | n v => simp [entry, named, hsaid]
    | f v => simp [entry, named, hsaid]

theorem length_le_length_flatten (h : ∀ b ∈ bs, b ≠ []) : bs.length ≤ bs.flatten.length := by
  induction bs with
  | nil => exact Nat.le_refl _
  | cons b bs ih =>
    have hpos := length_pos_of_ne_nil (h b mem_cons_self)
    have hrest := ih fun b hb => h b (mem_cons_of_mem _ hb)
    rw [flatten_cons, length_append, length_cons]
    omega

/-! ### Files -/

/-- A process for each block, and the one of the block. -/
def Right (d : Device) (conf : List Char × Char → ConfValue) (f : ProcessFile C) : Prop :=
  loc_read_process_conf C d conf f.file = f.blocks.map (record C d (fileServiceMask C d f.file))

theorem loc_read_process_conf_eq (d : Device) (conf : List Char × Char → ConfValue)
    (f : ProcessFile C) : loc_read_process_conf C d conf f.file =
      (f.blocks.take ((f.blocks.takeWhile (named C)).length % 256)).map
        (record C d (fileServiceMask C d f.file)) := by
  have hnames : ∀ b ∈ f.blocks, Once C (unset [PROCESS_NAME]) b := fun b hb e he =>
    f.once b hb e (mem_of_mem_head? (by rw [mem_singleton.mp he]; rfl))
  have hfuel : f.blocks.length < f.blocks.flatten.length + 1 := by
    refine Nat.lt_succ_of_le (length_le_length_flatten fun b hb => ?_)
    rintro rfl
    exact absurd (hnames [] hb _ mem_cons_self) (by simp)
  have hcount := countProcesses_blocks (j := []) hfuel hnames fun x hx => absurd hx not_mem_nil
  have hle : (f.blocks.takeWhile (named C)).length % 256 ≤ f.blocks.length :=
    (Nat.mod_le _ _).trans (takeWhile_sublist _).length_le
  have hread := @readProcesses_blocks C [] _ _ d (fileServiceMask C d f.file) conf hle f.once
    fun x hx => absurd hx not_mem_nil
  rw [nil_append] at hcount hread
  rw [loc_read_process_conf, f.pieces, hcount, UInt8.toNat_ofNat']
  exact hread

/-- Each block has its process exactly if there are fewer than 256, and no name
is NULL. -/
theorem processConf_right_iff (d : Device) (conf : List Char × Char → ConfValue)
    (f : ProcessFile C) : Right d conf f ↔ f.blocks.length < 256 ∧ ∀ b ∈ f.blocks, named C b := by
  have hle := (takeWhile_sublist (l := f.blocks) (named C)).length_le
  rw [Right, loc_read_process_conf_eq]
  constructor
  · intro h
    have hlength := congrArg length h
    rw [length_map, length_map, length_take] at hlength
    have hmod := Nat.mod_le (f.blocks.takeWhile (named C)).length 256
    have hall : f.blocks.takeWhile (named C) = f.blocks :=
      (takeWhile_sublist _).eq_of_length (by omega)
    exact ⟨by omega, takeWhile_eq_self_iff.mp hall⟩
  · rintro ⟨hlt, hall⟩
    rw [takeWhile_eq_self_iff.mpr hall, Nat.mod_eq_of_lt hlt, take_length]

def nullName : List Char :=
  ("PROCESS_NAME=NULL\nPROCESS_ARGUMENT=a\nPROCESS_STATE=ENABLED\nPROCESS_GROUPS=a\n" ++
    "PLATFORMS=all\nSOC_IDS=all\nBASEBAND=all\nLOW_RAM_TARGETS=a\nHARDWARE_TYPE=all\n" ++
    "PREMIUM_FEATURE=0\nIZAT_FEATURE_MASK=0\nVENDOR_ENHANCED_PROCESS=0\n").toList

theorem once_nullName :
    Once smallLib (unset loc_process_conf_parameters) (fgets maxParam [] nullName) := by
  rw [Once, unset, forall_mem_map]
  decide +kernel

/-- A file with one process, called NULL. -/
def nullProcess : ProcessFile smallLib where
  file := nullName
  blocks := [fgets maxParam [] nullName]
  pieces := by rw [flatten_cons, flatten_nil, append_nil]
  once := by
    rw [forall_mem_singleton]
    exact once_nullName

/-- No process is found. -/
theorem not_processConf_right :
    ¬ ∀ (d : Device) (f : ProcessFile smallLib), Right d (fun _ => .s []) f := by
  intro h
  have hnull := h ⟨[], [], [], [], false, false, false, false, false, fun _ => none, fun _ => []⟩
    nullProcess
  have hcount : countProcesses smallLib ((fgets maxParam [] nullName).length + 1)
      (fgets maxParam [] nullName) = 0 := by decide +kernel
  have hlength := congrArg length hnull
  simp only [loc_read_process_conf, nullProcess, hcount] at hlength
  cases hlength

end LocStack.Utils.ConfFiles
