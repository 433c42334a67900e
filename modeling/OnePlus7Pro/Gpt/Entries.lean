import OnePlus7Pro.Gpt.Fields

open regions effects

namespace gpt_utils

/-- The characters of a C string, without its terminator. -/
def cstr (s : String) : Buffer := s.toByteArray.data.toList

def PTN_XBL : Buffer := cstr "xbl"

def BAK_PTN_NAME_EXT : Buffer := cstr "bak"

def PTN_SWAP_LIST : List Buffer :=
  [PTN_XBL, cstr "abl", cstr "aop", cstr "devcfg", cstr "dtbo", cstr "hyp", cstr "keymaster", cstr "qupfw",
    cstr "storsec", cstr "tz", cstr "uefisecapp", cstr "vbmeta", cstr "vbmeta_system", cstr "xbl_config"]

/-- The property `ro.boot.bootdevice` ends in `.ufshc` and is longer than that. -/
def gpt_utils_is_ufs_device (env : Env) : Bool :=
  let bootdevice := cstr env.ro_boot_bootdevice
  let suffix := cstr ".ufshc"
  if bootdevice.length < suffix.length + 1 then false
  else bootdevice.drop (bootdevice.length - suffix.length) == suffix

/-- The comparison of `strncmp` with the characters of `s`, none of them 0: it reads
    the buffer from `ptr` on, up to the first character that differs. -/
def same_chars : (s : Buffer) → (buf : Buffer) → (ptr : Nat) → Except Fault Bool
  | [], _, _ => .ok true
  | c :: s, buf, ptr => do
    if (← load buf ptr) = c then same_chars s buf (ptr + 1) else return false

/-- `!strcmp(&buf[ptr], s)`: the terminator is compared as well. -/
def same_string (s buf : Buffer) (ptr : Nat) : Except Fault Bool := same_chars (s ++ [0]) buf ptr

/-- The low bytes of the 36 UTF-16 units at `pentry_name`. -/
def read_name8 (pentries : Buffer) (pentry_name : Nat) : Except Fault Buffer :=
  (List.range (MAX_GPT_NAME_SIZE / 2)).mapM fun i => load pentries (pentry_name + i * 2)

/-- `name8` is `ptn_name`, or `ptn_name` followed by `bak`. -/
def name_matches (ptn_name name8 : Buffer) : Except Fault Bool := do
  if ← same_chars ptn_name name8 0 then
    if (← load name8 ptn_name.length) = 0 then
      return true
    same_string BAK_PTN_NAME_EXT name8 ptn_name.length
  else
    return false

/-- The loop of `gpt_pentry_seek` from `pentry_name` on. Every turn but the last
    moves it forward, unless `pentry_size` is 0: then the loop does not end. -/
def gpt_pentry_seek.loop (ptn_name pentries : Buffer) (pentries_end pentry_size : Nat) :
    (turns pentry_name : Nat) → Except Fault (Option Nat)
  | 0, _ => .error .endless_loop
  | turns + 1, pentry_name => do
    if pentry_name < pentries_end then
      let name8 ← read_name8 pentries pentry_name
      if ← name_matches ptn_name name8 then
        return some (pentry_name - PARTITION_NAME_OFFSET)
      loop ptn_name pentries pentries_end pentry_size turns (pentry_name + pentry_size)
    else
      return none

/-- The position of the first entry between `pentries_start` and `pentries_end`
    that has the given name or that name followed by `bak`. Pointers are positions
    in the buffer of the array. -/
def gpt_pentry_seek (ptn_name pentries : Buffer) (pentries_start pentries_end pentry_size : Nat) :
    Except Fault (Option Nat) :=
  gpt_pentry_seek.loop ptn_name pentries pentries_end pentry_size (pentries_end + 1)
    (pentries_start + PARTITION_NAME_OFFSET)

/-- On UFS devices the partitions whose names start with `xbl` are left alone. -/
def skipped (env : Env) (ptn_name : Buffer) : Bool :=
  gpt_utils_is_ufs_device env && PTN_XBL.isPrefixOf ptn_name

/-- One turn of the loop of `gpt_boot_chain_swap`, on `backup_not_found` and the array. -/
def gpt_boot_chain_swap.turn (env : Env) (pentries_end pentry_size : Nat) (state : Int × Buffer)
    (ptn_name : Buffer) : Except Fault (Int × Buffer) := do
  let (_, pentries) := state
  if skipped env ptn_name then
    return state
  let some ptn_entry ← gpt_pentry_seek ptn_name pentries 0 pentries_end pentry_size
    | return state
  let some ptn_bak_entry ←
      gpt_pentry_seek ptn_name pentries (ptn_entry + pentry_size) pentries_end pentry_size
    | return state
  let ptn_swap ← bytes_at pentries ptn_entry PTN_ENTRY_SIZE
  let pentries ← memcpy pentries ptn_entry (← bytes_at pentries ptn_bak_entry PTN_ENTRY_SIZE)
  let pentries ← memcpy pentries ptn_bak_entry ptn_swap
  return (0, pentries)

/-- Exchange the boot chain in an entry array: 0 or, if no backup partition was
    found, 1, and the array afterwards. -/
def gpt_boot_chain_swap (env : Env) (pentries : Buffer) (pentries_end pentry_size : Nat) :
    Except Fault (Int × Buffer) :=
  PTN_SWAP_LIST.foldlM (gpt_boot_chain_swap.turn env pentries_end pentry_size) (1, pentries)

end gpt_utils
