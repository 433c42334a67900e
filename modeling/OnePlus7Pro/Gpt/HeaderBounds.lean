import OnePlus7Pro.Gpt.Reading

open regions effects

namespace gpt_utils

/-- The function accesses memory outside a buffer. -/
def Faults {A : Type} (m : Sys A) (w : World) : Prop := ∃ w', m w = .error .out_of_bounds w'

theorem not_faults_of_returns {A : Type} {m : Sys A} {w : World} {Q : A → World → Prop}
    (hm : Returns m w Q) : ¬ Faults m w := by
  rintro ⟨w', herror⟩
  obtain ⟨a, w'', hrun, _⟩ := hm
  rw [hrun] at herror
  cases herror

theorem Faults.bind {A B : Type} {m : Sys A} {f : A → Sys B} {w w' : World} {a : A}
    (hm : m w = .ok a w') (hf : Faults (f a) w') : Faults (m >>= f) w := by
  obtain ⟨w'', herror⟩ := hf
  exact ⟨w'', (run_bind_ok hm).trans herror⟩

theorem Faults.bind_left {A B : Type} {m : Sys A} {f : A → Sys B} {w : World} (hm : Faults m w) :
    Faults (m >>= f) w := by
  obtain ⟨w', herror⟩ := hm
  exact ⟨w', run_bind_error herror⟩

variable {env : Env} {fd : String} {disk : Disk} {w : World}

theorem crc32_beyond (env : Env) {buf : Buffer} {len : Nat} (hover : buf.length < len) :
    crc32 env buf len = .error .out_of_bounds := if_neg (by omega)

/-- What follows the reading of a header returns if it does for a header of the length of a block
    that says that it fits. -/
theorem read_gpt_header_returns {A : Type} {gpt : gpt_instance} {f : Option (Nat × Nat × Buffer) → Sys A}
    (hio : env.FullOrFail) (hdisk : w.disks fd = some disk)
    (hheader : ∀ hdr, disk.HeaderRead gpt hdr → field hdr HEADER_SIZE_OFFSET 4 ≤ disk.blk_size)
    (hread : ∀ hdr w', hdr.length = disk.blk_size → field hdr HEADER_SIZE_OFFSET 4 ≤ disk.blk_size →
      Returns (f (some (disk.blk_size, disk.headerOffset gpt, hdr))) w' fun _ _ => True)
    (hnone : ∀ w', Returns (f none) w' fun _ _ => True) :
    Returns (read_gpt_header env fd gpt >>= f) w fun _ _ => True := by
  refine (read_gpt_header_sees hio hdisk gpt).returns hdisk ?_ ?_
  · rintro _ w' rfl
    exact hnone w'
  · rintro _ w' rfl hroom _
    have hhdr := headerRead_headerOver env gpt (w.calls + 1) hroom
    exact hread _ w' hhdr.length (hheader _ hhdr)

/-- `gpt_get_state` stays within the header block if the header says that it fits. -/
theorem gpt_get_state_fit {gpt : gpt_instance} (hio : env.FullOrFail) (hdisk : w.disks fd = some disk)
    (hblk : 92 ≤ disk.blk_size)
    (hheader : ∀ hdr, disk.HeaderRead gpt hdr → field hdr HEADER_SIZE_OFFSET 4 ≤ disk.blk_size) :
    Returns (gpt_get_state env fd gpt) w fun _ _ => True := by
  refine read_gpt_header_returns hio hdisk hheader (fun hdr w' hlength hsize => ?_) fun w' => .pure trivial
  simp only []
  rw [bytes_at_eq (by simp only [GPT_SIGNATURE, List.length_cons, List.length_nil]; omega)]
  simp only [header_fields (hblk.trans_eq hlength.symm), header_stores (hblk.trans_eq hlength.symm), mem_ok_bind]
  rw [crc32_eq env (by rw [length_setField]; omega)]
  simp only [mem_ok_bind]
  split <;> split <;> exact .pure trivial

/-- Where the header block that is read claims to be larger than it is, `gpt_get_state` leaves it. -/
theorem gpt_get_state_beyond {gpt : gpt_instance} (hworking : env.Working)
    (hdisk : w.disks fd = some disk) (hblk : 92 ≤ disk.blk_size) (hroom : disk.blk_size ≤ disk.bytes.length)
    (hsize : disk.blk_size < field (disk.headerOver env gpt (w.calls + 1)) HEADER_SIZE_OFFSET 4) :
    Faults (gpt_get_state env fd gpt) w := by
  have hsees := read_gpt_header_sees hworking.fullOrFail hdisk gpt
  obtain ⟨_, w', hrun, _, rfl, _⟩ := hsees.of_working hdisk hworking hroom
  have hlength := (headerRead_headerOver env gpt (w.calls + 1) hroom).length
  refine Faults.bind hrun ?_
  simp only []
  rw [bytes_at_eq (by simp only [GPT_SIGNATURE, List.length_cons, List.length_nil]; omega)]
  simp only [header_fields (hblk.trans_eq hlength.symm), header_stores (hblk.trans_eq hlength.symm), mem_ok_bind]
  rw [crc32_beyond env (by rw [length_setField]; omega)]
  split <;> exact ⟨w', rfl⟩

/-- A write from a buffer of the length that is written does not leave it. -/
theorem blk_rw_write_returns (offset : Nat) {buf : Buffer} {len : Nat} (hlen : buf.length = len) :
    Returns (blk_rw env fd true offset buf len) w fun _ _ => True := by
  have hwrite (w' : World) : Returns (write env fd offset buf len) w' fun _ _ => True := by
    unfold Returns write
    rw [if_neg (by omega)]
    cases w'.disks fd with
    | none => exact ⟨_, _, rfl, trivial⟩
    | some disk =>
      simp only []
      split <;> exact ⟨_, _, rfl, trivial⟩
  refine (lseek64_set_returns fd offset w).bind fun r w' _ => ?_
  by_cases hseek : r < 0
  · rw [if_pos hseek]
    exact .pure trivial
  rw [if_neg hseek]
  refine (hwrite w').bind fun r' w'' _ => ?_
  simp only []
  split <;> exact .pure trivial

/-- `gpt_set_state` stays within the header block if the header says that it fits. -/
theorem gpt_set_state_fit {gpt : gpt_instance} (state : gpt_state) (hio : env.FullOrFail)
    (hdisk : w.disks fd = some disk) (hblk : 92 ≤ disk.blk_size)
    (hheader : ∀ hdr, disk.HeaderRead gpt hdr → field hdr HEADER_SIZE_OFFSET 4 ≤ disk.blk_size) :
    Returns (gpt_set_state env fd gpt state) w fun _ _ => True := by
  refine read_gpt_header_returns hio hdisk hheader (fun hdr w' hlength hsize => ?_) fun w' => .pure trivial
  simp only []
  by_cases hstate : state = .GPT_BAD_CRC
  · rw [hstate]
    exact .pure trivial
  rw [mark_eq hstate (by omega)]
  simp only [mem_ok_bind]
  rw [GET_4_BYTES_eq (by simp only [HEADER_SIZE_OFFSET, length_mark]; omega),
    PUT_4_BYTES_eq _ (by simp only [HEADER_CRC_OFFSET, length_mark]; omega)]
  simp only [mem_ok_bind]
  rw [crc32_eq env (by rw [length_setField, length_mark, (sameLayout_mark state _).header_size]; omega)]
  simp only [mem_ok_bind]
  rw [PUT_4_BYTES_eq _ (by simp only [HEADER_CRC_OFFSET, length_setField, length_mark]; omega)]
  simp only [mem_ok_bind]
  refine (blk_rw_write_returns _ (by rw [length_setField, length_setField, length_mark, hlength])).bind ?_
  intro a w'' _
  split <;> exact .pure trivial

end gpt_utils
