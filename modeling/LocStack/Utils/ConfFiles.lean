/-
# `LocStack.Utils.ConfFiles` — configuration files, as loc_cfg.cpp reads them

A file is read piece by piece, a text line by line.  What a piece says is put into
the entries of the table with its name, and how often something is put somewhere is
counted: where the count is that of the table, nothing more is read.

    setBy e l      what the piece l puts into the entry e
    reached n l    the pieces of l that are read, with n entries to be counted

Each entry has a variable of its own.
-/
import LocStack.Utils.SplitString

namespace LocStack.Utils.ConfFiles

open Base List

/-! ## Items -/

/-- The types 's', 'n' and 'f'. -/
inductive ConfValue where
  | s (value : List Char) | n (value : BitVec 32) | f (value : Float)

/-- A loc_param_s_type with its variables; `param_set` may not be there. -/
structure Param where
  (param_name : List Char) (param_type : Char) (hasPtr : Bool)
  value : ConfValue
  param_set : Option Bool

/-- A loc_param_v_type. -/
structure ConfItem where
  (param_name param_str_value : List Char)
  param_int_value : BitVec 32
  param_double_value : Float

/-- Up to the NUL. -/
def cString (s : List Char) : List Char := s.takeWhile (· ≠ '\x00')

/-- `strtok_r(.., "=", ..)` and what is behind; trimmed, and read as a number. -/
def confItem (C : CLib) (input_buf : List Char) : Option ConfItem :=
  let line := (cString input_buf).dropWhile (· = '=')
  let value := (line.dropWhile (· ≠ '=')).tail
  if value = [] then none
  else
    let str := loc_util_trim_space value
    let name := loc_util_trim_space (line.takeWhile (· ≠ '='))
    match str with
    | '0' :: x :: d :: rest =>
      if x = 'x' ∨ x = 'X' then
        some ⟨name, str, BitVec.ofInt 32 (C.strtol 16 (d :: rest)), 0⟩
      else some ⟨name, str, C.atoi str, C.atof str⟩
    | str => some ⟨name, str, C.atoi str, C.atof str⟩

/-- `loc_set_config_entry`, for strings of at most `room` characters. -/
def loc_set_config_entry (room : ℕ) (config_entry : Param) (config_value : ConfItem) :
    Option ConfValue :=
  if config_entry.param_name = config_value.param_name ∧ config_entry.hasPtr then
    match config_entry.param_type with
    | 's' =>
      if config_value.param_str_value = ['N', 'U', 'L', 'L'] then some (.s [])
      else some (.s (config_value.param_str_value.take room))
    | 'n' => some (.n config_value.param_int_value)
    | 'f' => some (.f config_value.param_double_value)
    | _ => none
  else none

section Tables

-- `room` is the size of a string without its NUL
variable (C : CLib) (room : ℕ)

def setBy (e : Param) (input_buf : List Char) : Option ConfValue :=
  (confItem C input_buf).bind (loc_set_config_entry room e)

/-- What is put into the variables, if something is. -/
def Param.put (e : Param) : Option ConfValue → Param
  | some value => { e with value, param_set := e.param_set.map fun _ => true }
  | none => e

/-- `loc_fill_conf_item`: the table, and the number of entries that are filled. -/
def loc_fill_conf_item (input_buf : List Char) (table : List Param) : List Param × UInt32 :=
  (table.map fun e => e.put (setBy C room e input_buf),
    UInt32.ofNat (table.countP fun e => (setBy C room e input_buf).isSome))

/-- The loop, with `num_params` left to be counted. -/
def fillLoop : UInt32 → List Param → List (List Char) → List Param
  | _, table, [] => table
  | num_params, table, input_buf :: rest =>
    if num_params = 0 then table
    else
      let (table, filled) := loc_fill_conf_item C room input_buf table
      fillLoop (num_params - filled) table rest

/-- What fgets gives: up to the newline, and no more than `room` characters. -/
def fgets (room : ℕ) (cur : List Char) : List Char → List (List Char)
  | [] => if cur = [] then [] else [cur]
  | c :: file =>
    if c = '\n' ∨ cur.length + 1 = room then (cur ++ [c]) :: fgets room [] file
    else fgets room (cur ++ [c]) file

def Param.clear (e : Param) : Param := { e with param_set := e.param_set.map fun _ => false }

/-- `loc_read_conf_long`; `none` if nothing fits into the buffer, and fgets reads
nothing for ever. -/
def loc_read_conf_long (file : List Char) (table : List Param) : Option (List Param) :=
  if table = [] then some table
  else if room = 0 then none
  else some (fillLoop C room (UInt32.ofNat table.length) (table.map Param.clear)
    (fgets room [] file))

/-- `strtok_r(.., "\n", ..)` -/
def confLines (conf_data : List Char) : List (List Char) :=
  ((cString conf_data).splitOn '\n').filter (· ≠ [])

/-- How many lines the loop takes. -/
def linesTaken : UInt32 → List Param → List (List Char) → ℕ
  | _, _, [] => 0
  | num_params, table, input_buf :: rest =>
    if num_params = 0 then 0
    else
      let (table, filled) := loc_fill_conf_item C room input_buf table
      linesTaken (num_params - filled) table rest + 1

def loc_update_conf_long (conf_data : List Char) (table : List Param) : List Param × ℤ :=
  if conf_data = [] ∨ table = [] then (table, -1)
  else
    let num_params := UInt32.ofNat table.length - 1
    (fillLoop C room num_params table (confLines conf_data),
      linesTaken C room num_params table (confLines conf_data))

/-! ## Runs -/

/-- The pieces that are read. -/
def reached (table : List Param) : UInt32 → List (List Char) → List (List Char)
  | _, [] => []
  | num_params, input_buf :: rest =>
    if num_params = 0 then []
    else
      input_buf :: reached table (num_params - (loc_fill_conf_item C room input_buf table).2) rest

/-- What the last of the pieces for the entry puts into it. -/
def lastSet (e : Param) (l : List (List Char)) : Option ConfValue :=
  (l.filterMap (setBy C room e)).getLast?

variable {C room} {e : Param} {table : List Param} {l : List (List Char)} {num : UInt32}

@[simp] theorem setBy_put (o : Option ConfValue) (b : List Char) :
    setBy C room (e.put o) b = setBy C room e b := by
  cases o <;> rfl

@[simp] theorem lastSet_put (o : Option ConfValue) :
    lastSet C room (e.put o) l = lastSet C room e l := by
  cases o <;> rfl

@[simp] theorem lastSet_clear : lastSet C room e.clear l = lastSet C room e l := rfl

theorem reached_congr {f : Param → Param} (hf : ∀ e b, setBy C room (f e) b = setBy C room e b) :
    reached C room (table.map f) num l = reached C room table num l := by
  induction l generalizing num with
  | nil => rfl
  | cons b l ih =>
    have hcount : (loc_fill_conf_item C room b (table.map f)).2 =
        (loc_fill_conf_item C room b table).2 := by
      simp only [loc_fill_conf_item, countP_map, Function.comp_def, hf]
    rw [reached, reached, hcount, ih]

theorem put_lastSet_cons (b : List Char) : (e.put (setBy C room e b)).put (lastSet C room e l) =
    e.put (lastSet C room e (b :: l)) := by
  unfold lastSet
  rw [filterMap_cons]
  cases hset : setBy C room e b with
  | none => rfl
  | some v =>
    rw [getLast?_cons]
    cases (l.filterMap (setBy C room e)).getLast? with
    | none => rfl
    | some w =>
      simp only [Param.put, Option.map_map, Option.getD_some]
      rfl

theorem fillLoop_eq : fillLoop C room num table l =
    table.map fun e => e.put (lastSet C room e (reached C room table num l)) := by
  induction l generalizing num table with
  | nil => exact (map_id table).symm
  | cons b l ih =>
    rw [fillLoop, reached]
    split
    · exact (map_id table).symm
    · simp only [ih, loc_fill_conf_item, map_map, Function.comp_def, lastSet_put,
        reached_congr fun e b => setBy_put _ b, put_lastSet_cons]

theorem linesTaken_eq : linesTaken C room num table l = (reached C room table num l).length := by
  induction l generalizing num table with
  | nil => rfl
  | cons b l ih =>
    rw [linesTaken, reached]
    split
    · rfl
    · simp only [ih, loc_fill_conf_item, reached_congr fun e b => setBy_put _ b, length_cons]

/-! ## Files -/

variable (C room) (file : List Char) (table : List Param)

/-- No line is longer than the file. -/
def fileLines : List (List Char) := fgets (file.length + 1) [] file

def piecesReached : List (List Char) :=
  reached C room table (UInt32.ofNat table.length) (fgets room [] file)

/-- Each entry has what its last line says, and whether there is one. -/
def ReadsLast : Prop :=
  loc_read_conf_long C room file table =
    some (table.map fun e => e.clear.put (lastSet C room e (fileLines file)))

/-- There is a buffer, and what is not reached, or is cut off, changes nothing. -/
def ReadFits : Prop :=
  table ≠ [] → room ≠ 0 ∧ ∀ e ∈ table,
    e.clear.put (lastSet C room e (piecesReached C room file table)) =
      e.clear.put (lastSet C room e (fileLines file))

theorem read_eq (htable : table ≠ []) (hroom : room ≠ 0) : loc_read_conf_long C room file table =
      some (table.map fun e =>
        e.clear.put (lastSet C room e (piecesReached C room file table))) := by
  have hclear : reached C room (table.map Param.clear) (UInt32.ofNat table.length)
      (fgets room [] file) = piecesReached C room file table := reached_congr fun _ _ => rfl
  rw [loc_read_conf_long, if_neg htable, if_neg hroom, fillLoop_eq, hclear, map_map]
  rfl

/-- Each entry has what its last line says, as many as have one are counted, and
a file of the text puts the same into the variables. -/
def UpdatesLast : Prop :=
  let (table', ret) := loc_update_conf_long C room file table
  table' = table.map (fun e => e.put (lastSet C room e (confLines file))) ∧
    ret = table.countP (fun e => (lastSet C room e (confLines file)).isSome) ∧
    (loc_read_conf_long C room file table).map (map Param.value) = some (table'.map Param.value)

def linesReached : List (List Char) :=
  reached C room table (UInt32.ofNat table.length - 1) (confLines file)

structure UpdateFits : Prop where
  text : file ≠ []
  entries : table ≠ []
  buffer : room ≠ 0
  last : ∀ e ∈ table, e.put (lastSet C room e (linesReached C room file table)) =
    e.put (lastSet C room e (confLines file))
  counted : (linesReached C room file table).length =
    table.countP fun e => (lastSet C room e (confLines file)).isSome
  same : ∀ e ∈ table, (e.put (lastSet C room e (piecesReached C room file table))).value =
    (e.put (lastSet C room e (linesReached C room file table))).value

theorem value_clear_put (o : Option ConfValue) : (e.clear.put o).value = (e.put o).value := by
  cases o <;> rfl

end Tables

def numberOf (e : Param) : BitVec 32 :=
  match e.value with
  | .n value => value
  | _ => 0

/-- A library with a `long` of 32 bits. -/
def smallLib : CLib := ⟨2147483647, le_refl _, fun _ => 0⟩

def number (param_name : List Char) : Param := ⟨param_name, 'n', true, .n 0, none⟩

end LocStack.Utils.ConfFiles
