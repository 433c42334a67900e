import OnePlus7Pro.Gpt.HeaderBounds
import OnePlus7Pro.Handle.GptDiskSpec

open regions effects

namespace gpt_utils

/-- A buffer after a transfer from a position of a device, `none` where the transfer is refused. Of
    one that is cut short the rest is what the buffer held. -/
def Disk.readInto (disk : Disk) (outcome : Transfer) (offset : Nat) (buf : Buffer) : Option Buffer :=
  if offset ≤ disk.bytes.length then
    (outcome.moved (min buf.length (disk.bytes.length - offset))).map fun count =>
      patch buf 0 (disk.read offset count)
  else none

/-- The machine after so many more calls and transfers that it has granted. -/
def World.advanced (w : World) (calls transfers : Nat) : World :=
  { w with calls := w.calls + calls, transfers := w.transfers + transfers }

/-- The primary header block that can be read now from the device at a path, `none` where a step
    of reading it fails. -/
def Env.headerFrom (env : Env) (w : World) (path : Option String) : Option Buffer :=
  match path.bind w.disks with
  | none => none
  | some disk =>
    -- opening the device, asking for its block size, and the memory for a block
    if env.call w.calls ∧ env.call (w.calls + 1) ∧ disk.blk_size ≠ 0 ∧ env.call (w.calls + 2) then
      disk.readInto (env.transfer w.transfers) disk.blk_size (fresh env (w.advanced 2 0) disk.blk_size)
    else none

/-- The entry array that can be read now from the device at a path, where a header names it. -/
def Env.arrayFrom (env : Env) (w : World) (path : String) (hdr : Buffer) : Except Fault (Option Buffer) :=
  match w.disks path with
  | none => .ok none
  | some disk =>
    if env.call w.calls = false ∨ disk.blk_size = 0 then .ok none
    else if hdr.length < PARTITION_CRC_OFFSET then .error .out_of_bounds
    else if env.call (w.calls + 1) = false then .ok none
    else .ok (disk.readInto (env.transfer w.transfers) (disk.arrayOffset hdr) (List.replicate (arraySize hdr) 0))

/-- The devices are the same, and so many calls and transfers have been granted. -/
structure World.Advanced (w w' : World) (calls transfers : Nat) : Prop where
  disks : w'.disks = w.disks
  calls : w'.calls = w.calls + calls
  transfers : w'.transfers = w.transfers + transfers

variable {env : Env} {w w' : World} {fd : String} {disk : Disk}

/-- What can be read depends on nothing else of the machine. -/
theorem World.Advanced.headerFrom {calls transfers : Nat} (h : w.Advanced w' calls transfers) (env : Env)
    (path : Option String) : env.headerFrom w' path = env.headerFrom (w.advanced calls transfers) path := by
  simp only [Env.headerFrom, World.advanced, fresh, h.disks, h.calls, h.transfers]
  rfl

theorem World.Advanced.arrayFrom {calls transfers : Nat} (h : w.Advanced w' calls transfers) (env : Env)
    (path : String) (hdr : Buffer) :
    env.arrayFrom w' path hdr = env.arrayFrom (w.advanced calls transfers) path hdr := by
  simp only [Env.arrayFrom, World.advanced, h.disks, h.calls, h.transfers]
  rfl

/-- An array is read only from a header that reaches as far as its CRC. -/
theorem Env.arrayFrom_fits {path : String} {hdr arr : Buffer} (harray : env.arrayFrom w path hdr = .ok (some arr)) :
    PARTITION_CRC_OFFSET ≤ hdr.length := by
  unfold Env.arrayFrom at harray
  cases hdisk : w.disks path with
  | none => simp [hdisk] at harray
  | some disk =>
    simp only [hdisk] at harray
    split at harray
    · simp at harray
    · split at harray
      · simp at harray
      · omega

theorem World.Advanced.trans {w'' : World} {calls transfers calls' transfers' : Nat}
    (h : w.Advanced w' calls transfers) (h' : w'.Advanced w'' calls' transfers') :
    w.Advanced w'' (calls + calls') (transfers + transfers') where
  disks := h'.disks.trans h.disks
  calls := by rw [h'.calls, h.calls, Nat.add_assoc]
  transfers := by rw [h'.transfers, h.transfers, Nat.add_assoc]

theorem World.Advanced.called (w : World) : w.Advanced w.called 1 0 := ⟨rfl, rfl, rfl⟩

/-- `blk_rw` reads what the transfer moves, or reports that it was refused. -/
theorem blk_rw_reads (env : Env) (hdisk : w.disks fd = some disk) (offset : Nat) {buf : Buffer} {len : Nat}
    (hlen : buf.length = len) :
    ∃ r buf' w', blk_rw env fd false offset buf len w = .ok (r, buf') w' ∧
      (if r = 0 then some buf' else none) = disk.readInto (env.transfer w.transfers) offset buf ∧
      w'.disks = w.disks ∧ (r = 0 → w.Advanced w' 0 1) := by
  subst hlen
  unfold Disk.readInto
  by_cases hoffset : offset ≤ disk.bytes.length
  · rw [if_pos hoffset]
    cases hmoved : (env.transfer w.transfers).moved (min buf.length (disk.bytes.length - offset)) with
    | none =>
      have hread : read env fd offset buf buf.length w = .ok (-1, buf) (w.transferred buf.length none) := by
        simp only [read, if_neg (Nat.lt_irrefl _), hdisk, hmoved]
      exact ⟨_, _, _, blk_rw_of_read hdisk hoffset hread, rfl, rfl, fun h => by simp at h⟩
    | some count =>
      have hread : read env fd offset buf buf.length w =
          .ok (count, patch buf 0 (disk.read offset count)) (w.transferred buf.length (some count)) := by
        simp only [read, if_neg (Nat.lt_irrefl _), hdisk, hmoved]
      exact ⟨_, _, _, blk_rw_of_read hdisk hoffset hread, by simp, rfl, fun _ => ⟨rfl, rfl, rfl⟩⟩
  · have hposition : lseek64_set fd offset w = .ok (-1) w := by
      simp only [lseek64_set, hdisk, if_neg hoffset]
    refine ⟨-1, buf, w, ?_, by simp [hoffset], rfl, fun h => by simp at h⟩
    unfold blk_rw
    rw [run_bind_ok hposition, if_pos (by decide)]
    rfl

/-- A read into `NULL` leaves the devices as they are. -/
theorem blk_rw_null_disks (fd : String) (offset len : Nat) (w : World) :
    Returns (blk_rw_null fd offset len) w fun _ w' => w'.disks = w.disks := by
  refine (lseek64_set_returns fd offset w).bind ?_
  rintro r w' rfl
  by_cases hr : r < 0
  · rw [if_pos hr]
    exact .pure rfl
  · rw [if_neg hr]
    exact ⟨_, _, rfl, rfl⟩

/-- The program reads from the devices: it returns what is given, after so many calls and transfers
    if that is not `none`. -/
def Looks {A : Type} (m : Sys (Option A)) (w : World) (calls transfers : Nat) (result : Option A) : Prop :=
  ∃ w', m w = .ok result w' ∧ w'.disks = w.disks ∧ (result ≠ none → w.Advanced w' calls transfers)

theorem Looks.none {A : Type} {m : Sys (Option A)} {calls transfers : Nat} (hrun : m w = .ok none w')
    (hdisks : w'.disks = w.disks) : Looks m w calls transfers none :=
  ⟨w', hrun, hdisks, fun h => absurd rfl h⟩

/-- The last step of a reader: what the transfer has moved is returned, unless it was refused. -/
theorem looks_blk_rw (env : Env) (hdisk : w'.disks fd = some disk) (hdisks : w'.disks = w.disks)
    {calls : Nat} (hcalls : w'.calls = w.calls + calls) (htransfers : w'.transfers = w.transfers)
    (offset : Nat) {buf : Buffer} {len : Nat} (hlen : buf.length = len) {m : Sys (Option Buffer)}
    (hrun : m w = (do
      let (r, buf) ← blk_rw env fd false offset buf len
      if r ≠ 0 then
        return none
      return some buf : Sys (Option Buffer)) w') :
    Looks m w calls 1 (disk.readInto (env.transfer w.transfers) offset buf) := by
  obtain ⟨r, buf', w'', hread, hresult, hsame, hadvanced⟩ := blk_rw_reads env hdisk offset hlen
  rw [run_bind_ok hread] at hrun
  rw [← htransfers, ← hresult]
  by_cases hr : r = 0
  · simp only [hr, ne_eq, not_true_eq_false, if_false] at hrun
    obtain ⟨_, hcalled, htransferred⟩ := hadvanced hr
    rw [if_pos hr]
    exact ⟨w'', hrun, hsame.trans hdisks, fun _ => ⟨hsame.trans hdisks, by omega, by omega⟩⟩
  · simp only [ne_eq, hr, not_false_eq_true, if_true] at hrun
    rw [if_neg hr]
    exact .none hrun (hsame.trans hdisks)

/-- `gpt_get_header` returns the header that can be read from the device that the name leads to. -/
theorem gpt_get_header_looks (env : Env) (dev : String) (w : World) :
    Looks (gpt_get_header env dev .PRIMARY_GPT) w 3 1
      (env.headerFrom w (get_dev_path_from_partition_name env dev "" PATH_MAX)) := by
  unfold gpt_get_header Env.headerFrom
  cases get_dev_path_from_partition_name env dev "" PATH_MAX with
  | none => exact .none rfl rfl
  | some path =>
    simp only [Option.bind_some]
    cases hdisk : w.disks path with
    | none =>
      have hopen : open_device env path w = .ok none w.called := by simp [open_device, hdisk]
      exact .none (run_bind_ok hopen) rfl
    | some disk =>
      have hopen : open_device env path w = .ok (if env.call w.calls then some path else none) w.called := by
        simp [open_device, hdisk]
      have hblk : gpt_get_block_size env path w.called = .ok (if env.call (w.calls + 1) then disk.blk_size else 0)
          w.called.called := gpt_get_block_size_run hdisk
      have hmalloc : malloc env disk.blk_size w.called.called = .ok
          (if env.call (w.calls + 2) then some (fresh env (w.advanced 2 0) disk.blk_size) else none)
          w.called.called.called := rfl
      simp only []
      by_cases hopened : env.call w.calls = true
      swap
      · rw [if_neg hopened] at hopen
        rw [if_neg (fun h => hopened h.1)]
        exact .none (run_bind_ok hopen) rfl
      rw [if_pos hopened] at hopen
      by_cases hknown : env.call (w.calls + 1) = true
      swap
      · rw [if_neg hknown] at hblk
        rw [if_neg (fun h => hknown h.2.1)]
        exact .none ((run_bind_ok hopen).trans (run_bind_ok hblk)) rfl
      rw [if_pos hknown] at hblk
      by_cases hzero : disk.blk_size = 0
      · rw [if_neg (fun h => h.2.2.1 hzero)]
        refine ⟨w.called.called, (run_bind_ok hopen).trans ((run_bind_ok hblk).trans ?_), rfl, fun h => absurd rfl h⟩
        rw [if_pos hzero]
        rfl
      by_cases hmemory : env.call (w.calls + 2) = true
      · rw [if_pos hmemory] at hmalloc
        rw [if_pos ⟨hopened, hknown, hzero, hmemory⟩]
        have hdisk' : w.called.called.called.disks path = some disk := hdisk
        refine looks_blk_rw (w := w) env hdisk' rfl rfl rfl disk.blk_size
          (length_fresh env (w.advanced 2 0) disk.blk_size) ?_
        refine (run_bind_ok hopen).trans ((run_bind_ok hblk).trans ?_)
        rw [if_neg hzero]
        exact run_bind_ok hmalloc
      · rw [if_neg hmemory] at hmalloc
        rw [if_neg (fun h => hmemory h.2.2.2)]
        obtain ⟨_, w', hnull, hdisks⟩ :=
          blk_rw_null_disks path disk.blk_size disk.blk_size w.called.called.called
        refine .none ((run_bind_ok hopen).trans ((run_bind_ok hblk).trans ?_)) hdisks
        rw [if_neg hzero]
        exact (run_bind_ok hmalloc).trans (run_bind_ok hnull)

theorem load_cases (buf : Buffer) (ptr : Nat) :
    load buf ptr = .error .out_of_bounds ∨ ∃ byte, load buf ptr = .ok byte := by
  unfold load
  cases buf[ptr]? with
  | none => exact .inl rfl
  | some byte => exact .inr ⟨byte, rfl⟩

theorem GET_4_BYTES_beyond {buf : Buffer} {ptr : Nat} (hover : buf.length < ptr + 4) :
    GET_4_BYTES buf ptr = .error .out_of_bounds := by
  have hlast : load buf (ptr + 3) = .error .out_of_bounds := by
    rw [load, List.getElem?_eq_none (by omega)]
  unfold GET_4_BYTES
  obtain h0 | ⟨_, h0⟩ := load_cases buf ptr
  · rw [h0]
    rfl
  obtain h1 | ⟨_, h1⟩ := load_cases buf (ptr + 1)
  · rw [h0, h1]
    rfl
  obtain h2 | ⟨_, h2⟩ := load_cases buf (ptr + 2)
  · rw [h0, h1, h2]
    rfl
  rw [h0, h1, h2, hlast]
  rfl

/-- `gpt_get_pentry_arr` returns the array that can be read from the device where the header names
    it, unless it reads outside of the header. -/
theorem gpt_get_pentry_arr_looks (env : Env) {path : String} (hdisk : w.disks path = some disk) (hdr : Buffer) :
    match env.arrayFrom w path hdr with
    | .ok result => Looks (gpt_get_pentry_arr env hdr path) w 2 1 result
    | .error _ => ∃ fault w', gpt_get_pentry_arr env hdr path w = .error fault w' := by
  unfold gpt_get_pentry_arr Env.arrayFrom
  rw [hdisk]
  have hblk := @gpt_get_block_size_run env w path disk hdisk
  simp only []
  by_cases hknown : env.call w.calls = true
  swap
  · rw [if_neg hknown] at hblk
    rw [if_pos (.inl (by simpa using hknown))]
    exact .none (run_bind_ok hblk) rfl
  rw [if_pos hknown] at hblk
  by_cases hzero : disk.blk_size = 0
  · rw [if_pos (.inr hzero)]
    refine ⟨w.called, (run_bind_ok hblk).trans ?_, rfl, fun h => absurd rfl h⟩
    rw [if_pos hzero]
    rfl
  rw [if_neg (by simp [hknown, hzero])]
  by_cases hshort : hdr.length < PARTITION_CRC_OFFSET
  · rw [if_pos hshort]
    simp only []
    rw [run_bind_ok hblk, if_neg hzero]
    cases hstart : GET_8_BYTES hdr PENTRIES_OFFSET with
    | error fault => exact ⟨fault, _, rfl⟩
    | ok pentries_start =>
      simp only [mem_ok_bind]
      rw [GET_4_BYTES_beyond hshort]
      exact ⟨_, _, rfl⟩
  simp only [PARTITION_CRC_OFFSET, Nat.not_lt] at hshort
  have hcalloc : calloc env (arraySize hdr) w.called = .ok
      (if env.call (w.calls + 1) then some (List.replicate (arraySize hdr) 0) else none) w.called.called := rfl
  have hfields {A : Type} (f : Nat → Nat → Nat → Sys A) : (do
      let pentries_start ← mem (GET_8_BYTES hdr PENTRIES_OFFSET)
      let pentry_size ← mem (GET_4_BYTES hdr PENTRY_SIZE_OFFSET)
      let partition_count ← mem (GET_4_BYTES hdr PARTITION_COUNT_OFFSET)
      f pentries_start pentry_size partition_count : Sys A) =
        f (field hdr PENTRIES_OFFSET 8) (field hdr PENTRY_SIZE_OFFSET 4) (field hdr PARTITION_COUNT_OFFSET 4) := by
    rw [GET_8_BYTES_eq (by simp only [PENTRIES_OFFSET]; omega),
      GET_4_BYTES_eq (by simp only [PENTRY_SIZE_OFFSET]; omega),
      GET_4_BYTES_eq (by simp only [PARTITION_COUNT_OFFSET]; omega)]
    rfl
  rw [if_neg (by simp only [PARTITION_CRC_OFFSET]; omega)]
  by_cases hmemory : env.call (w.calls + 1) = true
  · rw [if_pos hmemory] at hcalloc
    rw [if_neg (by simp [hmemory])]
    have hdisk' : w.called.called.disks path = some disk := hdisk
    refine looks_blk_rw (w := w) env hdisk' rfl rfl rfl (disk.arrayOffset hdr) List.length_replicate ?_
    refine (run_bind_ok hblk).trans ?_
    rw [if_neg hzero, hfields]
    exact run_bind_ok hcalloc
  · rw [if_neg hmemory] at hcalloc
    rw [if_pos (by simpa using hmemory)]
    refine ⟨w.called.called, (run_bind_ok hblk).trans ?_, rfl, fun h => absurd rfl h⟩
    rw [if_neg hzero, hfields]
    exact run_bind_ok hcalloc

end gpt_utils
