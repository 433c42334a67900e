import OnePlus7Pro.Handle.DeviceReads

open regions effects

namespace gpt_utils

/-- Where the contents of a field come from: the call that stored them, by its number, and the
    path of the device they were read from. -/
structure Origin where
  call : Nat
  path : Option String
  deriving DecidableEq

/-- The origins of the fields of a handle, `none` before the first call. -/
structure Origins where
  hdr : Option Origin
  pentry_arr : Option Origin
  pentry_size : Option Origin
  pentry_arr_size : Option Origin
  devpath : Option Origin

def Origins.cleared : Origins := ⟨none, none, none, none, none⟩

/-- The step of `gpt_disk_get_disk_info` at which a call fails. -/
inductive InfoStep where
  | header
  | backup_header
  | path
  | open_device
  | array
  | backup_array
  deriving DecidableEq

/-- A call of `gpt_disk_get_disk_info`, with the surroundings it meets while it reads the
    header, while it reads it again for the backup one, and from there on. They differ when
    something comes to fail, or a link to lead elsewhere, in the middle of the call. -/
structure InfoCall where
  dev : String
  hdr_env : Env
  hdr_bak_env : Env
  env : Env

namespace InfoCall

/-- The path of the device that the header is read from. -/
def hdr_path (c : InfoCall) : Option String :=
  get_dev_path_from_partition_name c.hdr_env c.dev "" PATH_MAX

def hdr_bak_path (c : InfoCall) : Option String :=
  get_dev_path_from_partition_name c.hdr_bak_env c.dev "" PATH_MAX

/-- The path left in a handle that held the path `old`. -/
def path (c : InfoCall) (old : String) : Option String :=
  get_dev_path_from_partition_name c.env c.dev old PATH_MAX

/-- The header that the surroundings of a call made now let it read. -/
def header (c : InfoCall) (w : World) : Option Buffer := c.hdr_env.headerFrom w c.hdr_path

def backup_header (c : InfoCall) (w : World) : Option Buffer :=
  c.hdr_bak_env.headerFrom (w.advanced 3 1) c.hdr_bak_path

/-- They let it open the device at a path, once it has read the headers. -/
def opens (c : InfoCall) (w : World) (devpath : String) : Prop :=
  c.env.call (w.calls + 6) = true ∧ (w.disks devpath).isSome

/-- The array that they let it read then, where a header names it. -/
def array (c : InfoCall) (w : World) (devpath : String) (hdr : Buffer) : Except Fault (Option Buffer) :=
  c.env.arrayFrom (w.advanced 7 2) devpath hdr

def backup_array (c : InfoCall) (w : World) (devpath : String) (hdr_bak : Buffer) :
    Except Fault (Option Buffer) :=
  c.env.arrayFrom (w.advanced 9 3) devpath hdr_bak

/-- They let it read the headers, and the CRC of the size that the first one gives stays within
    both. -/
structure Headers (c : InfoCall) (w : World) (hdr hdr_bak : Buffer) : Prop where
  header : c.header w = some hdr
  sized : HEADER_SIZE_OFFSET + 4 ≤ hdr.length ∧ field hdr HEADER_SIZE_OFFSET 4 ≤ hdr.length
  backup_header : c.backup_header w = some hdr_bak
  backup_sized : field hdr HEADER_SIZE_OFFSET 4 ≤ hdr_bak.length

/-- How far the surroundings let a call come on a handle with the path `old`: to the step at which
    it fails, or, for `none`, to its end. Where it reads outside of a header it comes to neither. -/
inductive Comes (c : InfoCall) (w : World) (old : String) : Option InfoStep → Prop where
  | header (hheader : c.header w = none) : Comes c w old (some .header)
  | backup_header {hdr : Buffer} (hheader : c.header w = some hdr)
      (hsized : HEADER_SIZE_OFFSET + 4 ≤ hdr.length ∧ field hdr HEADER_SIZE_OFFSET 4 ≤ hdr.length)
      (hbackup : c.backup_header w = none) : Comes c w old (some .backup_header)
  | path {hdr hdr_bak : Buffer} (hheaders : c.Headers w hdr hdr_bak) (hpath : c.path old = none) :
      Comes c w old (some .path)
  | open_device {hdr hdr_bak : Buffer} {devpath : String} (hheaders : c.Headers w hdr hdr_bak)
      (hpath : c.path old = some devpath) (hopen : ¬ c.opens w devpath) : Comes c w old (some .open_device)
  | array {hdr hdr_bak : Buffer} {devpath : String} (hheaders : c.Headers w hdr hdr_bak)
      (hpath : c.path old = some devpath) (hopen : c.opens w devpath)
      (harray : c.array w devpath hdr = .ok none) : Comes c w old (some .array)
  | backup_array {hdr hdr_bak arr : Buffer} {devpath : String} (hheaders : c.Headers w hdr hdr_bak)
      (hpath : c.path old = some devpath) (hopen : c.opens w devpath)
      (harray : c.array w devpath hdr = .ok (some arr))
      (hbackup : c.backup_array w devpath hdr_bak = .ok none) : Comes c w old (some .backup_array)
  | completed {hdr hdr_bak arr arr_bak : Buffer} {devpath : String} (hheaders : c.Headers w hdr hdr_bak)
      (hpath : c.path old = some devpath) (hopen : c.opens w devpath)
      (harray : c.array w devpath hdr = .ok (some arr))
      (hbackup : c.backup_array w devpath hdr_bak = .ok (some arr_bak))
      (hfields : PARTITION_CRC_OFFSET + 4 ≤ hdr.length ∧ PARTITION_CRC_OFFSET + 4 ≤ hdr_bak.length) :
      Comes c w old none

/-- The name of the partition leads to the device of the header also when its path is stored over
    the old one. -/
def LeadsBack (c : InfoCall) (old : String) : Prop := c.hdr_path = c.path old

variable {c : InfoCall} {w : World} {old devpath : String} {failed : Option InfoStep} {hdr hdr_bak : Buffer}

theorem Comes.unique {failed' : Option InfoStep} (h : c.Comes w old failed) (h' : c.Comes w old failed') :
    failed = failed' := by
  cases h <;> cases h' <;> grind [Headers]

theorem Comes.sized (h : c.Comes w old failed) (hheader : c.header w = some hdr) :
    HEADER_SIZE_OFFSET + 4 ≤ hdr.length ∧ field hdr HEADER_SIZE_OFFSET 4 ≤ hdr.length := by
  cases h <;> grind [Headers]

theorem Comes.headers (h : c.Comes w old failed) (hheader : c.header w = some hdr)
    (hbackup : c.backup_header w = some hdr_bak) : c.Headers w hdr hdr_bak := by
  cases h <;> grind [Headers]

/-- Where the header names an array outside of itself, the call comes to nothing. -/
theorem Comes.array_read (h : c.Comes w old failed) (hheaders : c.Headers w hdr hdr_bak)
    (hpath : c.path old = some devpath) (hopen : c.opens w devpath) :
    ∃ pentry_arr, c.array w devpath hdr = .ok pentry_arr := by
  cases h <;> grind [Headers]

theorem Comes.backup_array_read (h : c.Comes w old failed) (hheaders : c.Headers w hdr hdr_bak)
    (hpath : c.path old = some devpath) (hopen : c.opens w devpath) {arr : Buffer}
    (harray : c.array w devpath hdr = .ok (some arr)) :
    ∃ pentry_arr_bak, c.backup_array w devpath hdr_bak = .ok pentry_arr_bak := by
  cases h <;> grind [Headers]

theorem Comes.fields (h : c.Comes w old failed) (hheaders : c.Headers w hdr hdr_bak)
    (hpath : c.path old = some devpath) (hopen : c.opens w devpath) {arr arr_bak : Buffer}
    (harray : c.array w devpath hdr = .ok (some arr))
    (hbackup : c.backup_array w devpath hdr_bak = .ok (some arr_bak)) :
    PARTITION_CRC_OFFSET + 4 ≤ hdr.length ∧ PARTITION_CRC_OFFSET + 4 ≤ hdr_bak.length := by
  cases h <;> grind [Headers]

/-- What the opening of the device returns, after the headers have been read. -/
theorem open_device_opens {w' : World} (hadvanced : w.Advanced w' 6 2) (hopen : c.opens w devpath) :
    open_device c.env devpath w' = .ok (some devpath) w'.called := by
  unfold open_device
  rw [hadvanced.calls, hadvanced.disks]
  exact congrArg (EStateM.Result.ok · w'.called) (if_pos hopen)

theorem open_device_refused {w' : World} (hadvanced : w.Advanced w' 6 2) (hopen : ¬ c.opens w devpath) :
    open_device c.env devpath w' = .ok none w'.called := by
  unfold open_device
  rw [hadvanced.calls, hadvanced.disks]
  exact congrArg (EStateM.Result.ok · w'.called) (if_neg hopen)

end InfoCall

/-- What a call does once the path of the device is stored. -/
def gpt_disk_get_disk_info.tracedOpen (c : InfoCall) (call : Nat) (disk : gpt_disk) (origins : Origins)
    (devpath : String) (hdr hdr_bak : Buffer) : Sys (Option InfoStep × gpt_disk × Origins) := do
  let some fd ← open_device c.env devpath | return (some .open_device, disk, origins)
  let pentry_arr ← gpt_get_pentry_arr c.env hdr fd
  let disk := { disk with pentry_arr := pentry_arr }
  let origins := { origins with pentry_arr := some ⟨call, some devpath⟩ }
  if pentry_arr.isNone then
    return (some .array, disk, origins)
  let pentry_arr_bak ← gpt_get_pentry_arr c.env hdr_bak fd
  let disk := { disk with pentry_arr_bak := pentry_arr_bak }
  if pentry_arr_bak.isNone then
    return (some .backup_array, disk, origins)
  let pentry_size ← mem (GET_4_BYTES hdr PENTRY_SIZE_OFFSET)
  let partition_count ← mem (GET_4_BYTES hdr PARTITION_COUNT_OFFSET)
  let pentry_arr_crc ← mem (GET_4_BYTES hdr PARTITION_CRC_OFFSET)
  let pentry_arr_bak_crc ← mem (GET_4_BYTES hdr_bak PARTITION_CRC_OFFSET)
  let block_size ← gpt_get_block_size c.env fd
  let disk := { disk with
    pentry_size := pentry_size
    pentry_arr_size := pentries_size partition_count pentry_size
    pentry_arr_crc := pentry_arr_crc
    pentry_arr_bak_crc := pentry_arr_bak_crc
    block_size := block_size
    is_initialized := GPT_DISK_INIT_MAGIC }
  let origins := { origins with
    pentry_size := some ⟨call, c.hdr_path⟩
    pentry_arr_size := some ⟨call, c.hdr_path⟩ }
  return (none, disk, origins)

/-- `gpt_disk_get_disk_info` with the origin of every field stored, and with the step at
    which it fails, if it does, in place of the result. -/
def gpt_disk_get_disk_info.traced (c : InfoCall) (call : Nat) (dsk : gpt_disk) (origins : Origins) :
    Sys (Option InfoStep × gpt_disk × Origins) := do
  let hdr_ptr ← gpt_get_header c.hdr_env c.dev .PRIMARY_GPT
  let disk := { dsk with hdr := hdr_ptr }
  let origins := { origins with hdr := some ⟨call, c.hdr_path⟩ }
  let some hdr := hdr_ptr | return (some .header, disk, origins)
  let gpt_header_size ← mem (GET_4_BYTES hdr HEADER_SIZE_OFFSET)
  let hdr_crc ← mem (crc32 c.hdr_env hdr gpt_header_size)
  let disk := { disk with hdr_crc := hdr_crc }
  let hdr_bak_ptr ← gpt_get_header c.hdr_bak_env c.dev .PRIMARY_GPT
  let disk := { disk with hdr_bak := hdr_bak_ptr }
  let some hdr_bak := hdr_bak_ptr | return (some .backup_header, disk, origins)
  let hdr_bak_crc ← mem (crc32 c.hdr_bak_env hdr_bak gpt_header_size)
  let disk := { disk with hdr_bak_crc := hdr_bak_crc }
  let some devpath := c.path disk.devpath | return (some .path, disk, origins)
  let disk := { disk with devpath := devpath }
  let origins := { origins with devpath := some ⟨call, some devpath⟩ }
  tracedOpen c call disk origins devpath hdr hdr_bak

/-- The result of a call, and the handle afterwards. -/
def InfoStep.result (outcome : Option InfoStep × gpt_disk × Origins) : Int × gpt_disk :=
  (if outcome.1.isNone then 0 else -1, outcome.2.1)

/-- Without the origins it is `gpt_disk_get_disk_info`. -/
theorem gpt_disk_get_disk_info.traced_erased (env : Env) (dev : String) (call : Nat) (dsk : gpt_disk)
    (origins : Origins) :
    InfoStep.result <$> traced ⟨dev, env, env, env⟩ call dsk origins =
      gpt_disk_get_disk_info env dev dsk := by
  unfold traced gpt_disk_get_disk_info tracedOpen
  rw [map_bind]
  refine bind_congr fun hdr_ptr => ?_
  cases hdr_ptr with
  | none => rfl
  | some hdr =>
    simp only [map_bind]
    refine bind_congr fun gpt_header_size => bind_congr fun hdr_crc => bind_congr fun hdr_bak_ptr => ?_
    cases hdr_bak_ptr with
    | none => rfl
    | some hdr_bak =>
      simp only [map_bind]
      refine bind_congr fun hdr_bak_crc => ?_
      simp only [InfoCall.path]
      cases get_dev_path_from_partition_name env dev dsk.devpath PATH_MAX with
      | none => rfl
      | some devpath =>
        simp only [map_bind]
        refine bind_congr fun fd => ?_
        cases fd with
        | none => rfl
        | some fd =>
          simp only [map_bind]
          refine bind_congr fun pentry_arr => ?_
          cases pentry_arr with
          | none => rfl
          | some pentry_arr =>
            simp only [map_bind, Option.isNone_some, Bool.false_eq_true, if_false]
            refine bind_congr fun pentry_arr_bak => ?_
            cases pentry_arr_bak with
            | none => rfl
            | some pentry_arr_bak =>
              simp only [map_bind, Option.isNone_some, Bool.false_eq_true, if_false]
              rfl

/-- What a call that returns has stored in a handle: every field is as it was, with its origin, or
    is what the call has read, and so says its origin. -/
structure Stored (c : InfoCall) (w : World) (call : Nat) (before : gpt_disk) (origins : Origins)
    (failed : Option InfoStep) (after : gpt_disk) (origins' : Origins) : Prop where
  is_initialized : after.is_initialized =
    if failed.isNone then GPT_DISK_INIT_MAGIC else before.is_initialized
  hdr : after.hdr = c.header w ∧ origins'.hdr = some ⟨call, c.hdr_path⟩
  pentry_arr : (after.pentry_arr = before.pentry_arr ∧ origins'.pentry_arr = origins.pentry_arr) ∨
    ∃ hdr devpath, c.header w = some hdr ∧ c.path before.devpath = some devpath ∧
      c.array w devpath hdr = .ok after.pentry_arr ∧ origins'.pentry_arr = some ⟨call, some devpath⟩
  pentry_size : (after.pentry_size = before.pentry_size ∧ origins'.pentry_size = origins.pentry_size) ∨
    ∃ hdr, c.header w = some hdr ∧ after.pentry_size = field hdr PENTRY_SIZE_OFFSET 4 ∧
      origins'.pentry_size = some ⟨call, c.hdr_path⟩
  pentry_arr_size : (after.pentry_arr_size = before.pentry_arr_size ∧
      origins'.pentry_arr_size = origins.pentry_arr_size) ∨
    ∃ hdr, c.header w = some hdr ∧ after.pentry_arr_size = arraySize hdr ∧
      origins'.pentry_arr_size = some ⟨call, c.hdr_path⟩
  devpath : (after.devpath = before.devpath ∧ origins'.devpath = origins.devpath) ∨
    c.path before.devpath = some after.devpath ∧ origins'.devpath = some ⟨call, some after.devpath⟩
  completed : failed = none → origins' = {
    hdr := some ⟨call, c.hdr_path⟩
    pentry_arr := some ⟨call, c.path before.devpath⟩
    pentry_size := some ⟨call, c.hdr_path⟩
    pentry_arr_size := some ⟨call, c.hdr_path⟩
    devpath := some ⟨call, c.path before.devpath⟩ }

section

variable {c : InfoCall} {w w' : World} {before after : gpt_disk} {hdr hdr_bak : Buffer} {devpath : String}

/-- A call that fails before it has the path of the device has stored the header, or that there is
    none, and what is told of the two headers. -/
theorem stored_header (call : Nat) (before : gpt_disk) (origins : Origins) (step : InfoStep)
    {hdr : Option Buffer} (hheader : c.header w = hdr) (hdr_bak : Option Buffer) (hdr_crc hdr_bak_crc : Nat) :
    Stored c w call before origins (some step)
      { before with hdr := hdr, hdr_bak := hdr_bak, hdr_crc := hdr_crc, hdr_bak_crc := hdr_bak_crc }
      { origins with hdr := some ⟨call, c.hdr_path⟩ } where
  is_initialized := rfl
  hdr := ⟨hheader.symm, rfl⟩
  pentry_arr := .inl ⟨rfl, rfl⟩
  pentry_size := .inl ⟨rfl, rfl⟩
  pentry_arr_size := .inl ⟨rfl, rfl⟩
  devpath := .inl ⟨rfl, rfl⟩
  completed := fun h => by cases h

/-- The fields that a call has stored when it opens the device. -/
structure Headed (c : InfoCall) (w : World) (before : gpt_disk) (hdr hdr_bak : Buffer) (devpath : String)
    (disk : gpt_disk) : Prop where
  headers : c.Headers w hdr hdr_bak
  path : c.path before.devpath = some devpath
  hdr : disk.hdr = some hdr
  devpath : disk.devpath = devpath
  pentry_arr : disk.pentry_arr = before.pentry_arr
  pentry_size : disk.pentry_size = before.pentry_size
  pentry_arr_size : disk.pentry_arr_size = before.pentry_arr_size
  is_initialized : disk.is_initialized = before.is_initialized

/-- A call that fails before it reads the array has stored the header and the path. -/
theorem Headed.stored {disk : gpt_disk} (hheaded : Headed c w before hdr hdr_bak devpath disk) (call : Nat)
    (origins : Origins) (step : InfoStep) :
    Stored c w call before origins (some step) disk
      { origins with hdr := some ⟨call, c.hdr_path⟩, devpath := some ⟨call, some devpath⟩ } where
  is_initialized := hheaded.is_initialized
  hdr := ⟨hheaded.hdr.trans hheaded.headers.header.symm, rfl⟩
  pentry_arr := .inl ⟨hheaded.pentry_arr, rfl⟩
  pentry_size := .inl ⟨hheaded.pentry_size, rfl⟩
  pentry_arr_size := .inl ⟨hheaded.pentry_arr_size, rfl⟩
  devpath := by
    rw [hheaded.devpath]
    exact .inr ⟨hheaded.path, rfl⟩
  completed := fun h => by cases h

/-- One that fails later has also stored the array, or that there is none. -/
theorem Headed.stored_array {disk : gpt_disk} (hheaded : Headed c w before hdr hdr_bak devpath disk) (call : Nat)
    (origins : Origins) (step : InfoStep) {pentry_arr : Option Buffer}
    (harray : c.array w devpath hdr = .ok pentry_arr) (pentry_arr_bak : Option Buffer) :
    Stored c w call before origins (some step)
      { disk with pentry_arr := pentry_arr, pentry_arr_bak := pentry_arr_bak }
      { origins with
        hdr := some ⟨call, c.hdr_path⟩
        pentry_arr := some ⟨call, some devpath⟩
        devpath := some ⟨call, some devpath⟩ } :=
  { hheaded.stored call origins step with
    pentry_arr := .inr ⟨hdr, devpath, hheaded.headers.header, hheaded.path, harray, rfl⟩
    completed := fun h => by cases h }

/-- The four fields that a call takes from the headers at last. -/
theorem mem_fields_bind {A : Type} (hfits : PARTITION_CRC_OFFSET ≤ hdr.length) (f : Nat → Nat → Nat → Nat → Sys A) :
    (do
      let pentry_size ← mem (GET_4_BYTES hdr PENTRY_SIZE_OFFSET)
      let partition_count ← mem (GET_4_BYTES hdr PARTITION_COUNT_OFFSET)
      let pentry_arr_crc ← mem (GET_4_BYTES hdr PARTITION_CRC_OFFSET)
      let pentry_arr_bak_crc ← mem (GET_4_BYTES hdr_bak PARTITION_CRC_OFFSET)
      f pentry_size partition_count pentry_arr_crc pentry_arr_bak_crc : Sys A) =
    if PARTITION_CRC_OFFSET + 4 ≤ hdr.length ∧ PARTITION_CRC_OFFSET + 4 ≤ hdr_bak.length then
      f (field hdr PENTRY_SIZE_OFFSET 4) (field hdr PARTITION_COUNT_OFFSET 4)
        (field hdr PARTITION_CRC_OFFSET 4) (field hdr_bak PARTITION_CRC_OFFSET 4)
    else mem (.error .out_of_bounds) := by
  simp only [PARTITION_CRC_OFFSET] at hfits
  rw [GET_4_BYTES_eq (by simp only [PENTRY_SIZE_OFFSET]; omega), mem_ok_bind,
    GET_4_BYTES_eq (by simp only [PARTITION_COUNT_OFFSET]; omega), mem_ok_bind]
  by_cases hcrc : PARTITION_CRC_OFFSET + 4 ≤ hdr.length
  swap
  · rw [GET_4_BYTES_beyond (by omega), if_neg fun h => hcrc h.1]
    rfl
  rw [GET_4_BYTES_eq hcrc, mem_ok_bind]
  by_cases hcrc' : PARTITION_CRC_OFFSET + 4 ≤ hdr_bak.length
  swap
  · rw [GET_4_BYTES_beyond (by omega), if_neg fun h => hcrc' h.2]
    rfl
  rw [GET_4_BYTES_eq hcrc', mem_ok_bind, if_pos ⟨hcrc, hcrc'⟩]

theorem gpt_disk_get_disk_info.tracedOpen_spec {disk : gpt_disk} (call : Nat) (origins : Origins)
    (hheaded : Headed c w before hdr hdr_bak devpath disk) (hadvanced : w.Advanced w' 6 2) :
    match tracedOpen c call disk
        { origins with hdr := some ⟨call, c.hdr_path⟩, devpath := some ⟨call, some devpath⟩ }
        devpath hdr hdr_bak w' with
    | .ok (failed, dsk', origins') _ =>
      c.Comes w before.devpath failed ∧ Stored c w call before origins failed dsk' origins'
    | .error _ _ => ∀ failed, ¬ c.Comes w before.devpath failed := by
  have hheaders := hheaded.headers
  have hpath := hheaded.path
  unfold tracedOpen
  by_cases hopen : c.opens w devpath
  swap
  · rw [run_bind_ok (InfoCall.open_device_refused hadvanced hopen)]
    exact ⟨.open_device hheaders hpath hopen, hheaded.stored call origins _⟩
  rw [run_bind_ok (InfoCall.open_device_opens hadvanced hopen)]
  simp only []
  obtain ⟨disk', hdisk⟩ := Option.isSome_iff_exists.mp hopen.2
  have hadvanced' := hadvanced.trans (.called w')
  have hread := gpt_get_pentry_arr_looks c.env (w := w'.called)
    (by rw [hadvanced'.disks]; exact hdisk) hdr
  rw [hadvanced'.arrayFrom, ← InfoCall.array] at hread
  cases harray : c.array w devpath hdr with
  | error fault =>
    rw [harray] at hread
    obtain ⟨fault', w'', hfault⟩ := hread
    rw [run_bind_error hfault]
    intro failed hcomes
    obtain ⟨pentry_arr, hok⟩ := hcomes.array_read hheaders hpath hopen
    rw [harray] at hok
    cases hok
  | ok pentry_arr =>
    rw [harray] at hread
    obtain ⟨w1, hread1, hdisks1, hadvanced1⟩ := hread
    rw [run_bind_ok hread1]
    cases pentry_arr with
    | none => exact ⟨.array hheaders hpath hopen harray, hheaded.stored_array call origins _ harray _⟩
    | some arr =>
      have hadvanced1' := hadvanced'.trans (hadvanced1 (by simp))
      simp only [Option.isNone_some, Bool.false_eq_true, if_false]
      have hread := gpt_get_pentry_arr_looks c.env (w := w1) (by rw [hadvanced1'.disks]; exact hdisk) hdr_bak
      rw [hadvanced1'.arrayFrom, ← InfoCall.backup_array] at hread
      cases hbackup : c.backup_array w devpath hdr_bak with
      | error fault =>
        rw [hbackup] at hread
        obtain ⟨fault', w'', hfault⟩ := hread
        rw [run_bind_error hfault]
        intro failed hcomes
        obtain ⟨pentry_arr_bak, hok⟩ := hcomes.backup_array_read hheaders hpath hopen harray
        rw [hbackup] at hok
        cases hok
      | ok pentry_arr_bak =>
        rw [hbackup] at hread
        obtain ⟨w2, hread2, hdisks2, hadvanced2⟩ := hread
        rw [run_bind_ok hread2]
        cases pentry_arr_bak with
        | none =>
          exact ⟨.backup_array hheaders hpath hopen harray hbackup, hheaded.stored_array call origins _ harray _⟩
        | some arr_bak =>
          simp only [Option.isNone_some, Bool.false_eq_true, if_false]
          rw [mem_fields_bind (Env.arrayFrom_fits harray)]
          by_cases hfields : PARTITION_CRC_OFFSET + 4 ≤ hdr.length ∧ PARTITION_CRC_OFFSET + 4 ≤ hdr_bak.length
          swap
          · rw [if_neg hfields]
            exact fun failed hcomes => hfields (hcomes.fields hheaders hpath hopen harray hbackup)
          rw [if_pos hfields]
          have hblk := @gpt_get_block_size_run c.env w2 devpath disk'
            (by rw [hdisks2, hadvanced1'.disks]; exact hdisk)
          rw [run_bind_ok hblk]
          exact ⟨.completed hheaders hpath hopen harray hbackup hfields,
            { hheaded.stored_array call origins .array harray (some arr_bak) with
              is_initialized := rfl
              pentry_size := .inr ⟨hdr, hheaders.header, rfl, rfl⟩
              pentry_arr_size := .inr ⟨hdr, hheaders.header, rfl, rfl⟩
              completed := fun _ => by rw [hpath] }⟩

end

/-- A call comes as far as its surroundings let it, and stores what they let it read. -/
theorem gpt_disk_get_disk_info.traced_spec (c : InfoCall) (call : Nat) (dsk : gpt_disk) (origins : Origins)
    (w : World) :
    match traced c call dsk origins w with
    | .ok (failed, dsk', origins') _ =>
      c.Comes w dsk.devpath failed ∧ Stored c w call dsk origins failed dsk' origins'
    | .error _ _ => ∀ failed, ¬ c.Comes w dsk.devpath failed := by
  unfold traced
  obtain ⟨w1, hread1, hdisks1, hadvanced1⟩ := gpt_get_header_looks c.hdr_env c.dev w
  change gpt_get_header _ _ _ _ = .ok (c.header w) w1 at hread1
  rw [run_bind_ok hread1]
  cases hheader : c.header w with
  | none => exact ⟨.header hheader, stored_header call dsk origins _ hheader _ _ _⟩
  | some hdr =>
    replace hadvanced1 := hadvanced1 (by rw [← InfoCall.hdr_path, ← InfoCall.header, hheader]; simp)
    simp only []
    by_cases hfield : HEADER_SIZE_OFFSET + 4 ≤ hdr.length
    swap
    · rw [GET_4_BYTES_beyond (by omega)]
      exact fun failed h => hfield (h.sized hheader).1
    rw [GET_4_BYTES_eq hfield, mem_ok_bind]
    by_cases hsize : field hdr HEADER_SIZE_OFFSET 4 ≤ hdr.length
    swap
    · rw [crc32_beyond _ (by omega)]
      exact fun failed h => hsize (h.sized hheader).2
    rw [crc32_eq _ hsize, mem_ok_bind]
    obtain ⟨w2, hread2, hdisks2, hadvanced2⟩ := gpt_get_header_looks c.hdr_bak_env c.dev w1
    rw [hadvanced1.headerFrom] at hread2 hadvanced2
    change gpt_get_header _ _ _ _ = .ok (c.backup_header w) w2 at hread2
    rw [run_bind_ok hread2]
    cases hbackup : c.backup_header w with
    | none =>
      exact ⟨.backup_header hheader ⟨hfield, hsize⟩ hbackup, stored_header call dsk origins _ hheader _ _ _⟩
    | some hdr_bak =>
      replace hadvanced2 := hadvanced1.trans
        (hadvanced2 (by rw [← InfoCall.hdr_bak_path, ← InfoCall.backup_header, hbackup]; simp))
      simp only []
      by_cases hsize' : field hdr HEADER_SIZE_OFFSET 4 ≤ hdr_bak.length
      swap
      · rw [crc32_beyond _ (by omega)]
        exact fun failed h => hsize' (h.headers hheader hbackup).backup_sized
      rw [crc32_eq _ hsize', mem_ok_bind]
      have hheaders : c.Headers w hdr hdr_bak := ⟨hheader, ⟨hfield, hsize⟩, hbackup, hsize'⟩
      cases hpath : c.path dsk.devpath with
      | none => exact ⟨.path hheaders hpath, stored_header call dsk origins _ hheader _ _ _⟩
      | some devpath =>
        exact tracedOpen_spec call origins
          ⟨hheaders, hpath, rfl, rfl, rfl, rfl, rfl, rfl⟩ hadvanced2

end gpt_utils
