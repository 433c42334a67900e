import OnePlus7Pro.Gpt.HeaderSpec

open regions effects

namespace gpt_utils

/-- A buffer after it was read into: what lies on the device from `offset` on, over what it held. -/
def Disk.readOver (disk : Disk) (offset : Nat) (buf : Buffer) : Buffer :=
  patch buf 0 (disk.read offset buf.length)

@[simp] theorem Disk.length_readOver (disk : Disk) (offset : Nat) (buf : Buffer) :
    (disk.readOver offset buf).length = buf.length := by
  simp [Disk.readOver]

/-- Where the device does not end before the buffer does, nothing remains of what it held. -/
theorem Disk.readOver_eq (disk : Disk) {offset : Nat} {buf : Buffer}
    (hroom : offset + buf.length ≤ disk.bytes.length) : disk.readOver offset buf = disk.read offset buf.length :=
  patch_all (length_slice_of_le hroom)

/-- A header block as it can be read: where the device ends before the block does, the rest is
    what the memory held. -/
def Disk.HeaderRead (disk : Disk) (gpt : gpt_instance) (hdr : Buffer) : Prop :=
  disk.blk_size ≤ disk.bytes.length ∧
    ∃ memory : Buffer, memory.length = disk.blk_size ∧ hdr = disk.readOver (disk.headerOffset gpt) memory

theorem Disk.HeaderRead.length {disk : Disk} {gpt : gpt_instance} {hdr : Buffer}
    (h : disk.HeaderRead gpt hdr) : hdr.length = disk.blk_size := by
  obtain ⟨_, memory, hmemory, rfl⟩ := h
  rw [Disk.length_readOver, hmemory]

/-- Where the device does not end before the block does, a header block is read whole. -/
theorem Disk.HeaderRead.eq {disk : Disk} {gpt : gpt_instance} {hdr : Buffer}
    (h : disk.HeaderRead gpt hdr) (hroom : disk.headerOffset gpt + disk.blk_size ≤ disk.bytes.length) :
    hdr = disk.header gpt := by
  obtain ⟨_, memory, hmemory, rfl⟩ := h
  rw [← hmemory] at hroom
  rw [disk.readOver_eq hroom, hmemory, Disk.header]

/-- The size in bytes that a header gives its entry array. -/
def arraySize (hdr : Buffer) : Nat :=
  pentries_size (field hdr PARTITION_COUNT_OFFSET 4) (field hdr PENTRY_SIZE_OFFSET 4)

/-- The position that a header gives its entry array. -/
def Disk.arrayOffset (disk : Disk) (hdr : Buffer) : Nat :=
  pentries_offset (field hdr PENTRIES_OFFSET 8) disk.blk_size

/-- The entry array that a header names, as it is read: zero where the device has ended. -/
def Disk.array (disk : Disk) (hdr : Buffer) : Buffer :=
  disk.readOver (disk.arrayOffset hdr) (List.replicate (arraySize hdr) 0)

/-- The entry array that a header names begins on the device, or where it ends. -/
def Disk.Readable (disk : Disk) (hdr : Buffer) : Prop := disk.arrayOffset hdr ≤ disk.bytes.length

theorem Disk.length_array (disk : Disk) (hdr : Buffer) : (disk.array hdr).length = arraySize hdr := by
  simp [Disk.array]

/-- Entries of no size make an array of no size. -/
theorem array_empty (disk : Disk) (hdr : Buffer) (hzero : field hdr PENTRY_SIZE_OFFSET 4 = 0) :
    disk.array hdr = [] := by
  rw [← List.length_eq_zero_iff, disk.length_array, arraySize, hzero]
  simp [pentries_size]

/-- An array that lies on the device is read whole. -/
theorem Disk.array_eq {disk : Disk} {hdr : Buffer}
    (hroom : disk.arrayOffset hdr + arraySize hdr ≤ disk.bytes.length) :
    disk.array hdr = disk.read (disk.arrayOffset hdr) (arraySize hdr) := by
  rw [Disk.array, disk.readOver_eq (by rw [List.length_replicate]; exact hroom), List.length_replicate]

/-- The call has no lasting effect. Unless something fails, and if the device allows it, the result
    satisfies `Q` and so many fallible calls have been made. -/
def Env.Sees {A : Type} (env : Env) (m : Sys A) (w : World) (calls : Nat) (allowed : Prop)
    (Q failed : A → Prop) : Prop :=
  Returns m w fun a w' => w.After [] w' ∧
    ((Q a ∧ allowed ∧ w'.calls = w.calls + calls) ∨ (failed a ∧ ¬ (env.Working ∧ allowed)))

section sees

variable {env : Env} {fd : String} {disk : Disk} {w : World} {A B : Type} {m : Sys A}
  {calls calls' : Nat} {allowed allowed' : Prop} {Q failed : A → Prop}

/-- What follows the call returns if it does from what the call should come to, with the device as
    it was, and from its failure. -/
theorem Env.Sees.returns {f : A → Sys B} {R : B → World → Prop} (hm : env.Sees m w calls allowed Q failed)
    (hdisk : w.disks fd = some disk) (hfailed : ∀ a w', failed a → Returns (f a) w' R)
    (hf : ∀ a w', Q a → allowed → w'.disks fd = some disk → Returns (f a) w' R) :
    Returns (m >>= f) w R := by
  refine Returns.bind hm fun a w' h => ?_
  obtain ⟨hafter, ⟨hQ, hallowed, _⟩ | ⟨hfail, _⟩⟩ := h
  · exact hf a w' hQ hallowed (hafter.disk hdisk)
  · exact hfailed a w' hfail

theorem Env.Sees.bind {f : A → Sys B} {Q' failed' : B → Prop} (hm : env.Sees m w calls allowed Q failed)
    (hdisk : w.disks fd = some disk)
    (hfailed : ∀ a w', failed a → w'.disks fd = some disk →
      Returns (f a) w' fun b w'' => w'.After [] w'' ∧ failed' b)
    (hf : ∀ a w', Q a → allowed → w'.disks fd = some disk → w'.calls = w.calls + calls →
      env.Sees (f a) w' calls' allowed' Q' failed') :
    env.Sees (m >>= f) w (calls + calls') (allowed ∧ allowed') Q' failed' := by
  refine Returns.bind hm fun a w' h => ?_
  obtain ⟨hafter, ⟨hQ, hallowed, hcalls⟩ | ⟨hfail, hnot⟩⟩ := h
  · refine (hf a w' hQ hallowed (hafter.disk hdisk) hcalls).mono fun b w'' h => ?_
    obtain ⟨hafter', ⟨hQ', hallowed', hcalls'⟩ | ⟨hfail', hnot'⟩⟩ := h
    · exact ⟨hafter.trans hafter', .inl ⟨hQ', ⟨hallowed, hallowed'⟩, by omega⟩⟩
    · exact ⟨hafter.trans hafter', .inr ⟨hfail', fun h => hnot' ⟨h.1, h.2.2⟩⟩⟩
  · refine (hfailed a w' hfail (hafter.disk hdisk)).mono fun b w'' h => ?_
    exact ⟨hafter.trans h.1, .inr ⟨h.2, fun h => hnot ⟨h.1, h.2.1⟩⟩⟩

theorem Env.Sees.pure {a : A} (h : Q a) : env.Sees (Pure.pure a) w 0 True Q failed :=
  Returns.pure ⟨World.After.refl w, .inl ⟨h, trivial, rfl⟩⟩

theorem Env.Sees.mono {Q' : A → Prop} (hm : env.Sees m w calls allowed Q failed)
    (hallowed : allowed ↔ allowed') (hQ : ∀ a, allowed → Q a → Q' a) :
    env.Sees m w calls allowed' Q' failed := by
  refine Returns.mono hm fun a w' h => ?_
  rw [hallowed] at h
  obtain ⟨hafter, ⟨hQa, ha, hcalls⟩ | hfail⟩ := h
  · exact ⟨hafter, .inl ⟨hQ a (hallowed.mpr ha) hQa, ha, hcalls⟩⟩
  · exact ⟨hafter, .inr hfail⟩

/-- Where nothing fails and the device allows it, the call returns as it should. -/
theorem Env.Sees.of_working (hm : env.Sees m w calls allowed Q failed) (hdisk : w.disks fd = some disk)
    (hworking : env.Working) (hallowed : allowed) :
    ∃ a w', m w = .ok a w' ∧ w'.disks fd = some disk ∧ Q a ∧ w'.calls = w.calls + calls := by
  obtain ⟨a, w', hrun, hafter, ⟨hQ, _, hcalls⟩ | ⟨_, hnot⟩⟩ := hm
  · exact ⟨a, w', hrun, hafter.disk hdisk, hQ, hcalls⟩
  · exact absurd ⟨hworking, hallowed⟩ hnot

/-- A call that can fail, and makes no other difference. -/
theorem sees_call {value bad : A} (hm : m w = .ok (if env.call w.calls then value else bad) w.called) :
    env.Sees m w 1 True (· = value) (· = bad) := by
  refine ⟨_, _, hm, World.After.called w, ?_⟩
  cases hcall : env.call w.calls with
  | true => exact .inl ⟨rfl, trivial, rfl⟩
  | false => exact .inr ⟨rfl, fun h => absurd (h.1.call w.calls) (by rw [hcall]; decide)⟩

end sees

section device

variable {env : Env} {fd : String} {disk : Disk} {w : World}

theorem ioctl_BLKSSZGET_sees (hdisk : w.disks fd = some disk) :
    env.Sees (ioctl_BLKSSZGET env fd) w 1 True (· = some disk.blk_size) (· = none) :=
  sees_call (by simp [ioctl_BLKSSZGET, hdisk])

theorem malloc_sees (env : Env) (w : World) (size : Nat) :
    env.Sees (malloc env size) w 1 True (· = some (fresh env w size)) (· = none) :=
  sees_call rfl

theorem calloc_sees (env : Env) (w : World) (size : Nat) :
    env.Sees (calloc env size) w 1 True (· = some (List.replicate size 0)) (· = none) :=
  sees_call rfl

/-- A read from anywhere on the device fills the buffer as far as the device reaches, or fails. -/
theorem blk_rw_read_sees (hio : env.FullOrFail) (hdisk : w.disks fd = some disk) (offset : Nat)
    {buf : Buffer} {len : Nat} (hlen : buf.length = len) :
    env.Sees (blk_rw env fd false offset buf len) w 0 (offset ≤ disk.bytes.length)
      (· = (0, disk.readOver offset buf)) (·.1 = -1) := by
  by_cases hroom : offset ≤ disk.bytes.length
  · have hcount : disk.read offset (min len (disk.bytes.length - offset)) = disk.read offset len := by
      rw [Disk.read, Disk.read, slice, slice, List.take_eq_take_iff, List.length_drop]
      omega
    obtain htransfer | htransfer := hio w.transfers
    · have hread : read env fd offset buf len w = .ok (-1, buf) (w.transferred len none) := by
        simp [read, hdisk, htransfer, Transfer.moved, hlen]
      refine ⟨_, _, blk_rw_of_read hdisk hroom hread, World.After.transferred w len none, .inr ⟨rfl, fun h => ?_⟩⟩
      rw [h.1.transfer] at htransfer
      cases htransfer
    · have hread : read env fd offset buf len w =
          .ok (((min len (disk.bytes.length - offset) : Nat) : Int), disk.readOver offset buf)
            (w.transferred len (some (min len (disk.bytes.length - offset)))) := by
        simp only [read, hdisk, htransfer, Transfer.moved, hlen, Nat.lt_irrefl, if_false, Disk.readOver, hcount]
      refine ⟨_, _, blk_rw_of_read hdisk hroom hread, World.After.transferred w len _, .inl ⟨?_, hroom, rfl⟩⟩
      rw [if_neg (by omega)]
  · have hseek : lseek64_set fd offset w = .ok (-1) w := by simp [lseek64_set, hdisk, hroom]
    refine ⟨(-1, buf), w, ?_, World.After.refl w, .inr ⟨rfl, fun h => hroom h.2⟩⟩
    unfold blk_rw
    rw [run_bind_ok hseek]
    rfl

/-- The fallible calls made to find the position of a header. -/
def offsetCalls : gpt_instance → Nat
  | .PRIMARY_GPT => 0
  | .SECONDARY_GPT => 1

theorem gpt_header_offset_sees (hdisk : w.disks fd = some disk) (gpt : gpt_instance) :
    env.Sees (gpt_header_offset env fd gpt disk.blk_size) w (offsetCalls gpt)
      (gpt = .SECONDARY_GPT → disk.blk_size ≤ disk.bytes.length) (· = some (disk.headerOffset gpt))
      (· = none) := by
  cases gpt with
  | PRIMARY_GPT => exact Returns.pure ⟨World.After.refl w, .inl ⟨rfl, nofun, rfl⟩⟩
  | SECONDARY_GPT =>
    have hend : env.Sees (lseek64_end env fd) w 1 True (· = (disk.bytes.length : Int)) (· = -1) :=
      sees_call (by simp [lseek64_end, hdisk])
    have hboth : env.Sees (gpt_header_offset env fd .SECONDARY_GPT disk.blk_size) w (1 + 0)
        (True ∧ disk.blk_size ≤ disk.bytes.length) (· = some (disk.headerOffset .SECONDARY_GPT)) (· = none) := by
      refine hend.bind hdisk ?_ ?_
      · rintro a w' rfl hdisk'
        exact ⟨none, w', by rw [if_pos (by omega)]; rfl, World.After.refl w', rfl⟩
      rintro a w' rfl _ hdisk' _
      by_cases hroom : disk.blk_size ≤ disk.bytes.length
      · have hoffset : ((disk.bytes.length : Int) - disk.blk_size).toNat = disk.bytes.length - disk.blk_size := by
          omega
        rw [if_neg (by omega), hoffset]
        exact Returns.pure ⟨World.After.refl w', .inl ⟨rfl, hroom, rfl⟩⟩
      · rw [if_pos (by omega)]
        exact Returns.pure ⟨World.After.refl w', .inr ⟨rfl, fun h => hroom h.2⟩⟩
    exact hboth.mono (by simp) fun _ _ h => h

/-- The header block that is read into what the call with the number `n` allocates. -/
def Disk.headerOver (disk : Disk) (env : Env) (gpt : gpt_instance) (n : Nat) : Buffer :=
  disk.readOver (disk.headerOffset gpt) ((List.range disk.blk_size).map (env.heap n))

theorem headerRead_headerOver (env : Env) (gpt : gpt_instance) (n : Nat)
    (hroom : disk.blk_size ≤ disk.bytes.length) : disk.HeaderRead gpt (disk.headerOver env gpt n) :=
  ⟨hroom, _, by simp, rfl⟩

/-- The beginning of `gpt_get_state` and `gpt_set_state` reads a header block, or fails. -/
theorem read_gpt_header_sees (hio : env.FullOrFail) (hdisk : w.disks fd = some disk) (gpt : gpt_instance) :
    env.Sees (read_gpt_header env fd gpt) w (2 + offsetCalls gpt) (disk.blk_size ≤ disk.bytes.length)
      (· = some (disk.blk_size, disk.headerOffset gpt, disk.headerOver env gpt (w.calls + 1))) (· = none) := by
  have hsteps : env.Sees (read_gpt_header env fd gpt) w (1 + (1 + (offsetCalls gpt + (0 + 0))))
      (True ∧ True ∧ (gpt = .SECONDARY_GPT → disk.blk_size ≤ disk.bytes.length) ∧
        disk.headerOffset gpt ≤ disk.bytes.length ∧ True)
      (· = some (disk.blk_size, disk.headerOffset gpt, disk.headerOver env gpt (w.calls + 1))) (· = none) := by
    refine (ioctl_BLKSSZGET_sees hdisk).bind hdisk ?_ ?_
    · rintro a w1 rfl hdisk1
      exact .pure ⟨World.After.refl w1, rfl⟩
    rintro a w1 rfl _ hdisk1 hcalls1
    refine (malloc_sees env w1 disk.blk_size).bind hdisk1 ?_ ?_
    · rintro a w2 rfl hdisk2
      exact .pure ⟨World.After.refl w2, rfl⟩
    rintro a w2 rfl _ hdisk2 _
    refine (gpt_header_offset_sees hdisk2 gpt).bind hdisk2 ?_ ?_
    · rintro a w3 rfl hdisk3
      exact .pure ⟨World.After.refl w3, rfl⟩
    rintro a w3 rfl _ hdisk3 _
    refine (blk_rw_read_sees hio hdisk3 _ (length_fresh env w1 disk.blk_size)).bind hdisk3 ?_ ?_
    · rintro ⟨r, buf⟩ w4 (rfl : r = -1) hdisk4
      exact .pure ⟨World.After.refl w4, rfl⟩
    rintro a w4 rfl _ hdisk4 _
    refine Env.Sees.pure ?_
    rw [fresh, hcalls1]
    rfl
  have hcalls : 2 + offsetCalls gpt = 1 + (1 + (offsetCalls gpt + (0 + 0))) := by omega
  rw [hcalls]
  refine hsteps.mono ?_ fun _ _ h => h
  cases gpt <;> simp [Disk.headerOffset]

end device

end gpt_utils
