import OnePlus7Pro.Gpt.BootLun
import OnePlus7Pro.Gpt.Header

open regions effects

namespace gpt_utils

def BOOT_DEV_DIR : String := "/dev/block/bootdevice/by-name"

abbrev PATH_MAX : Nat := 4096
abbrev GPT_DISK_INIT_MAGIC : Nat := 0xABCD

/-- A handle. Its pointers are `none` for `NULL`, and otherwise the buffers they point to. -/
structure gpt_disk where
  hdr : Option Buffer
  hdr_crc : Nat
  hdr_bak : Option Buffer
  hdr_bak_crc : Nat
  pentry_arr : Option Buffer
  pentry_arr_bak : Option Buffer
  pentry_arr_size : Nat
  pentry_size : Nat
  pentry_arr_crc : Nat
  pentry_arr_bak_crc : Nat
  devpath : String
  block_size : Nat
  is_initialized : Nat

/-- A handle as `gpt_disk_alloc` leaves it, its memory cleared. -/
def gpt_disk.cleared : gpt_disk where
  hdr := none
  hdr_crc := 0
  hdr_bak := none
  hdr_bak_crc := 0
  pentry_arr := none
  pentry_arr_bak := none
  pentry_arr_size := 0
  pentry_size := 0
  pentry_arr_crc := 0
  pentry_arr_bak_crc := 0
  devpath := ""
  block_size := 0
  is_initialized := 0

/-- The buffer behind a pointer that is not checked for `NULL`. -/
def deref (ptr : Option Buffer) : Except Fault Buffer :=
  match ptr with
  | some buf => .ok buf
  | none => .error .out_of_bounds

/-- The path of the device that holds a partition, left in `buf`, of `buflen` bytes, which
    held the path `buf` before. `none` for a result other than 0. -/
def get_dev_path_from_partition_name (env : Env) (partname buf : String) (buflen : Nat) :
    Option String := do
  if buflen < PATH_TRUNCATE_LOC + 1 then
    none
  if gpt_utils_is_ufs_device env then
    -- need to find the lun that holds partition partname
    let path := truncate (BOOT_DEV_DIR ++ "/" ++ partname) (PATH_MAX - 1)
    if !env.stat path then
      none
    let real_path := truncate (← env.readlink path) buflen
    -- `readlink` does not terminate the path, so a short one keeps the end of the old one
    let old := String.ofList (buf.toList.drop (strlen real_path))
    return truncate (real_path ++ old) PATH_TRUNCATE_LOC
  else
    return truncate BLK_DEV_FILE (buflen - 1)

/-- The block size of a device, 0 if it is not known. -/
def gpt_get_block_size (env : Env) (fd : String) : Sys Nat := do
  return (← ioctl_BLKSSZGET env fd).getD 0

/-- Write a GPT header back to the device. -/
def gpt_set_header (env : Env) (gpt_header : Option Buffer) (fd : String) (gpt : gpt_instance) :
    Sys Int := do
  let some gpt_header := gpt_header | return -1
  let block_size ← gpt_get_block_size env fd
  if block_size = 0 then
    return -1
  let some offset ← gpt_header_offset env fd gpt block_size | return -1
  if offset = 0 then
    return -1
  let (r, _) ← blk_rw env fd true offset gpt_header block_size
  if r ≠ 0 then
    return -1
  return 0

/-- A `read` into `NULL` fails. -/
def read_null (len : Nat) : Sys Int := fun w => .ok (-1) (w.transferred len none)

/-- `blk_rw` that reads into `NULL`. -/
def blk_rw_null (fd : String) (offset len : Nat) : Sys Int := do
  if (← lseek64_set fd offset) < 0 then
    return -1
  read_null len

/-- Read the GPT header of the device that holds a partition. -/
def gpt_get_header (env : Env) (partname : String) (gpt : gpt_instance) : Sys (Option Buffer) := do
  let some devpath := get_dev_path_from_partition_name env partname "" PATH_MAX | return none
  let some fd ← open_device env devpath | return none
  let block_size ← gpt_get_block_size env fd
  if block_size = 0 then
    return none
  -- the result is not checked before the header is read
  let hdr ← malloc env block_size
  let some hdr_offset ← gpt_header_offset env fd gpt block_size | return none
  match hdr with
  | none =>
    let _ ← blk_rw_null fd hdr_offset block_size
    return none
  | some hdr =>
    let (r, hdr) ← blk_rw env fd false hdr_offset hdr block_size
    if r ≠ 0 then
      return none
    return some hdr

/-- Read the entry array that a header names. -/
def gpt_get_pentry_arr (env : Env) (hdr : Buffer) (fd : String) : Sys (Option Buffer) := do
  let block_size ← gpt_get_block_size env fd
  if block_size = 0 then
    return none
  let pentries_start ← mem (GET_8_BYTES hdr PENTRIES_OFFSET)
  let pentry_size ← mem (GET_4_BYTES hdr PENTRY_SIZE_OFFSET)
  let partition_count ← mem (GET_4_BYTES hdr PARTITION_COUNT_OFFSET)
  let pentries_arr_size := pentries_size partition_count pentry_size
  let some pentry_arr ← calloc env pentries_arr_size | return none
  let (r, pentry_arr) ←
    blk_rw env fd false (pentries_offset pentries_start block_size) pentry_arr pentries_arr_size
  if r ≠ 0 then
    return none
  return some pentry_arr

/-- Write an entry array to where a header says. -/
def gpt_set_pentry_arr (env : Env) (hdr : Option Buffer) (fd : String) (arr : Option Buffer) :
    Sys Int := do
  let some hdr := hdr | return -1
  let some arr := arr | return -1
  let block_size ← gpt_get_block_size env fd
  if block_size = 0 then
    return -1
  let pentries_start ← mem (GET_8_BYTES hdr PENTRIES_OFFSET)
  let pentry_size ← mem (GET_4_BYTES hdr PENTRY_SIZE_OFFSET)
  let partition_count ← mem (GET_4_BYTES hdr PARTITION_COUNT_OFFSET)
  let (r, _) ← blk_rw env fd true (pentries_offset pentries_start block_size) arr
    (pentries_size partition_count pentry_size)
  if r ≠ 0 then
    return -1
  return 0

/-- Fill a handle with the GPT of the device that holds a partition: 0 or -1, and the
    handle afterwards. -/
def gpt_disk_get_disk_info (env : Env) (dev : String) (dsk : gpt_disk) : Sys (Int × gpt_disk) := do
  let hdr_ptr ← gpt_get_header env dev .PRIMARY_GPT
  let disk := { dsk with hdr := hdr_ptr }
  let some hdr := hdr_ptr | return (-1, disk)
  let gpt_header_size ← mem (GET_4_BYTES hdr HEADER_SIZE_OFFSET)
  let hdr_crc ← mem (crc32 env hdr gpt_header_size)
  let disk := { disk with hdr_crc := hdr_crc }
  -- the primary header is read a second time, for the backup one
  let hdr_bak_ptr ← gpt_get_header env dev .PRIMARY_GPT
  let disk := { disk with hdr_bak := hdr_bak_ptr }
  let some hdr_bak := hdr_bak_ptr | return (-1, disk)
  let hdr_bak_crc ← mem (crc32 env hdr_bak gpt_header_size)
  let disk := { disk with hdr_bak_crc := hdr_bak_crc }
  let some devpath :=
    get_dev_path_from_partition_name env dev disk.devpath PATH_MAX | return (-1, disk)
  let disk := { disk with devpath := devpath }
  let some fd ← open_device env devpath | return (-1, disk)
  let pentry_arr ← gpt_get_pentry_arr env hdr fd
  let disk := { disk with pentry_arr := pentry_arr }
  if pentry_arr.isNone then
    return (-1, disk)
  let pentry_arr_bak ← gpt_get_pentry_arr env hdr_bak fd
  let disk := { disk with pentry_arr_bak := pentry_arr_bak }
  if pentry_arr_bak.isNone then
    return (-1, disk)
  let pentry_size ← mem (GET_4_BYTES hdr PENTRY_SIZE_OFFSET)
  let partition_count ← mem (GET_4_BYTES hdr PARTITION_COUNT_OFFSET)
  let pentry_arr_crc ← mem (GET_4_BYTES hdr PARTITION_CRC_OFFSET)
  let pentry_arr_bak_crc ← mem (GET_4_BYTES hdr_bak PARTITION_CRC_OFFSET)
  -- here a failure is not noticed
  let block_size ← gpt_get_block_size env fd
  return (0, { disk with
    pentry_size := pentry_size
    pentry_arr_size := pentries_size partition_count pentry_size
    pentry_arr_crc := pentry_arr_crc
    pentry_arr_bak_crc := pentry_arr_bak_crc
    block_size := block_size
    is_initialized := GPT_DISK_INIT_MAGIC })

/-- The entry array that a handle holds for a copy of the GPT. -/
def gpt_disk.ptn_arr (disk : gpt_disk) : gpt_instance → Option Buffer
  | .PRIMARY_GPT => disk.pentry_arr
  | .SECONDARY_GPT => disk.pentry_arr_bak

/-- The position of the entry with a name in the entry array of a handle. -/
def gpt_disk_get_pentry (disk : gpt_disk) (partname : Buffer) (gpt : gpt_instance) :
    Except Fault (Option Nat) := do
  if disk.is_initialized ≠ GPT_DISK_INIT_MAGIC then
    return none
  let ptn_arr ← deref (disk.ptn_arr gpt)
  gpt_pentry_seek partname ptn_arr 0 disk.pentry_arr_size disk.pentry_size

/-- Bring the CRCs of a handle up to date: 0 or -1, and the handle afterwards. -/
def gpt_disk_update_crc (env : Env) (disk : gpt_disk) : Except Fault (Int × gpt_disk) := do
  if disk.is_initialized ≠ GPT_DISK_INIT_MAGIC then
    return (-1, disk)
  let pentry_arr_crc ← crc32 env (← deref disk.pentry_arr) disk.pentry_arr_size
  let pentry_arr_bak_crc ← crc32 env (← deref disk.pentry_arr_bak) disk.pentry_arr_size
  let hdr ← PUT_4_BYTES (← deref disk.hdr) PARTITION_CRC_OFFSET pentry_arr_crc
  let hdr_bak ← PUT_4_BYTES (← deref disk.hdr_bak) PARTITION_CRC_OFFSET pentry_arr_bak_crc
  let gpt_header_size ← GET_4_BYTES hdr HEADER_SIZE_OFFSET
  -- header CRC is calculated with its own CRC field set to 0
  let hdr ← PUT_4_BYTES hdr HEADER_CRC_OFFSET 0
  let hdr_bak ← PUT_4_BYTES hdr_bak HEADER_CRC_OFFSET 0
  let hdr_crc ← crc32 env hdr gpt_header_size
  let hdr_bak_crc ← crc32 env hdr_bak gpt_header_size
  let hdr ← PUT_4_BYTES hdr HEADER_CRC_OFFSET hdr_crc
  let hdr_bak ← PUT_4_BYTES hdr_bak HEADER_CRC_OFFSET hdr_bak_crc
  return (0, { disk with
    hdr := some hdr
    hdr_crc := hdr_crc
    hdr_bak := some hdr_bak
    hdr_bak_crc := hdr_bak_crc
    pentry_arr_crc := pentry_arr_crc
    pentry_arr_bak_crc := pentry_arr_bak_crc })

/-- Write the primary header and the primary entry array of a handle back to the device. -/
def gpt_disk_commit (env : Env) (disk : gpt_disk) : Sys Int := do
  if disk.is_initialized ≠ GPT_DISK_INIT_MAGIC then
    return -1
  let some fd ← open_device env disk.devpath | return -1
  if (← gpt_set_header env disk.hdr fd .PRIMARY_GPT) ≠ 0 then
    return -1
  if (← gpt_set_pentry_arr env disk.hdr fd disk.pentry_arr) ≠ 0 then
    return -1
  return 0

end gpt_utils
