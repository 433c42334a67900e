import OnePlus7Pro.Gpt.Entries

open regions effects

namespace gpt_utils

/-- The position of a header block: block 1, or the last block of the device. -/
def gpt_header_offset (env : Env) (fd : String) (gpt : gpt_instance) (blk_size : Nat) :
    Sys (Option Nat) := do
  match gpt with
  | .PRIMARY_GPT => return some blk_size
  | .SECONDARY_GPT =>
    let gpt_header_offset := (← lseek64_end env fd) - blk_size
    if gpt_header_offset < 0 then
      return none
    return some gpt_header_offset.toNat

/-- The first lines of `gpt_get_state` and `gpt_set_state`: the block size, the
    position of the header and the header block. -/
def read_gpt_header (env : Env) (fd : String) (gpt : gpt_instance) :
    Sys (Option (Nat × Nat × Buffer)) := do
  let some blk_size ← ioctl_BLKSSZGET env fd | return none
  let some gpt_header ← malloc env blk_size | return none
  let some offset ← gpt_header_offset env fd gpt blk_size | return none
  let (r, gpt_header) ← blk_rw env fd false offset gpt_header blk_size
  if r ≠ 0 then
    return none
  return some (blk_size, offset, gpt_header)

/-- The state of a GPT header, and 0 or -1. -/
def gpt_get_state (env : Env) (fd : String) (gpt : gpt_instance) : Sys (Int × gpt_state) := do
  let some (_, _, gpt_header) ← read_gpt_header env fd gpt | return (-1, .GPT_OK)
  let mut state := gpt_state.GPT_OK
  if (← mem (bytes_at gpt_header 0 GPT_SIGNATURE.length)) ≠ GPT_SIGNATURE then
    state := .GPT_BAD_SIGNATURE
  let gpt_header_size ← mem (GET_4_BYTES gpt_header HEADER_SIZE_OFFSET)
  let crc ← mem (GET_4_BYTES gpt_header HEADER_CRC_OFFSET)
  -- header CRC is calculated with this field cleared
  let gpt_header ← mem (PUT_4_BYTES gpt_header HEADER_CRC_OFFSET 0)
  if (← mem (crc32 env gpt_header gpt_header_size)) ≠ crc then
    state := .GPT_BAD_CRC
  return (0, state)

/-- What `gpt_set_state` does to the signature, `none` for a state that cannot be set. -/
def gpt_set_state.mark (gpt_header : Buffer) : gpt_state → Except Fault (Option Buffer)
  | .GPT_OK => some <$> memcpy gpt_header 0 GPT_SIGNATURE
  | .GPT_BAD_SIGNATURE => some <$> store gpt_header 0 0
  | .GPT_BAD_CRC => .ok none

/-- Corrupt or fix the signature of a GPT header. -/
def gpt_set_state (env : Env) (fd : String) (gpt : gpt_instance) (state : gpt_state) : Sys Int := do
  let some (blk_size, offset, gpt_header) ← read_gpt_header env fd gpt | return -1
  let some marked ← mem (gpt_set_state.mark gpt_header state) | return -1
  let gpt_header_size ← mem (GET_4_BYTES marked HEADER_SIZE_OFFSET)
  -- header CRC is calculated with this field cleared
  let cleared ← mem (PUT_4_BYTES marked HEADER_CRC_OFFSET 0)
  let crc ← mem (crc32 env cleared gpt_header_size)
  let sealed ← mem (PUT_4_BYTES cleared HEADER_CRC_OFFSET crc)
  let (r, _) ← blk_rw env fd true offset sealed blk_size
  if r ≠ 0 then
    return -1
  return 0

/-- The position in bytes that an entry-array block number means, in 64 bits. -/
def pentries_offset (lba blk_size : Nat) : Nat := lba * blk_size % 2 ^ 64

/-- The size in bytes of an entry array, in 32 bits. -/
def pentries_size (count pentry_size : Nat) : Nat := count * pentry_size % 2 ^ 32

/-- The result and the entry array with which `gpt2_set_boot_chain` goes on. -/
def gpt2_set_boot_chain.exchange (env : Env) (pentries : Buffer) (pentries_end pentry_size : Nat) :
    boot_chain → Except Fault (Int × Buffer)
  | .BACKUP_BOOT => gpt_boot_chain_swap env pentries pentries_end pentry_size
  | .NORMAL_BOOT => .ok (0, pentries)

/-- What `gpt2_set_boot_chain` writes: the modified header and entry array, with their
    positions and sizes in bytes. -/
structure chain_update where
  gpt2_header_offset : Nat
  gpt_header : Buffer
  blk_size : Nat
  pentries_offset : Nat
  pentries : Buffer
  pentries_array_size : Nat

/-- The first part of `gpt2_set_boot_chain`, which works out the modified header and entry
    array, or ends the function with a result. -/
def gpt2_set_boot_chain.modify (env : Env) (fd : String) (boot : boot_chain) :
    Sys (Except Int chain_update) := do
  let some blk_size ← ioctl_BLKSSZGET env fd | return .error (-1)
  let some gpt_header ← malloc env blk_size | return .error (-1)
  let some gpt2_header_offset ← gpt_header_offset env fd .SECONDARY_GPT blk_size | return .error (-1)
  -- Read primary GPT header from block dev
  let (r, primary) ← blk_rw env fd false blk_size gpt_header blk_size
  if r ≠ 0 then
    return .error r
  let pentries_start ← mem (GET_8_BYTES primary PENTRIES_OFFSET)
  let pentry_size ← mem (GET_4_BYTES primary PENTRY_SIZE_OFFSET)
  let partition_count ← mem (GET_4_BYTES primary PARTITION_COUNT_OFFSET)
  let pentries_array_size := pentries_size partition_count pentry_size
  let some pentries ← calloc env pentries_array_size | return .error (-1)
  -- Read primary GPT partititon entries array from block dev
  let (r, pentries) ←
    blk_rw env fd false (pentries_offset pentries_start blk_size) pentries pentries_array_size
  if r ≠ 0 then
    return .error r
  let crc ← mem (crc32 env pentries pentries_array_size)
  if (← mem (GET_4_BYTES primary PARTITION_CRC_OFFSET)) ≠ crc then
    return .error (-1)
  -- Read secondary GPT header from block dev
  let (r, secondary) ← blk_rw env fd false gpt2_header_offset primary blk_size
  if r ≠ 0 then
    return .error r
  let gpt_header_size ← mem (GET_4_BYTES secondary HEADER_SIZE_OFFSET)
  let pentries_start ← mem (GET_8_BYTES secondary PENTRIES_OFFSET)
  let (r, pentries) ← mem (gpt2_set_boot_chain.exchange env pentries pentries_array_size pentry_size boot)
  if r ≠ 0 then
    return .error r
  let crc ← mem (crc32 env pentries pentries_array_size)
  let secondary ← mem (PUT_4_BYTES secondary PARTITION_CRC_OFFSET crc)
  -- header CRC is calculated with this field cleared
  let secondary ← mem (PUT_4_BYTES secondary HEADER_CRC_OFFSET 0)
  let crc ← mem (crc32 env secondary gpt_header_size)
  let secondary ← mem (PUT_4_BYTES secondary HEADER_CRC_OFFSET crc)
  return .ok {
    gpt2_header_offset, blk_size, pentries_array_size, pentries
    gpt_header := secondary
    pentries_offset := pentries_offset pentries_start blk_size }

/-- The last part of `gpt2_set_boot_chain`. -/
def gpt2_set_boot_chain.write_back (env : Env) (fd : String) (update : chain_update) : Sys Int := do
  -- Write the modified GPT header back to block dev
  let (r, _) ← blk_rw env fd true update.gpt2_header_offset update.gpt_header update.blk_size
  if r ≠ 0 then
    return r
  -- Write the modified GPT partititon entries array back to block dev
  let (r, _) ← blk_rw env fd true update.pentries_offset update.pentries update.pentries_array_size
  return r

/-- Give the secondary GPT the entry array of the primary one, with the boot chain
    exchanged or not: 0 on success, 1 if there is nothing to exchange. -/
def gpt2_set_boot_chain (env : Env) (fd : String) (boot : boot_chain) : Sys Int := do
  match ← gpt2_set_boot_chain.modify env fd boot with
  | .error r => return r
  | .ok update => gpt2_set_boot_chain.write_back env fd update

end gpt_utils
