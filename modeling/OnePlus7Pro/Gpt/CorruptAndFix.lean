import OnePlus7Pro.Gpt.Format
import OnePlus7Pro.Gpt.HeaderSpec

open regions effects

namespace gpt_utils

/-- The 8 bytes with which a GPT header begins. `GPT_SIGNATURE` is one byte longer: the
    source writes it as a string literal, so that its size counts the terminator. -/
abbrev EFI_PART : Buffer := GPT_SIGNATURE.take 8

/-- A header block with the signature, a header size that fits it and a good CRC,
    whatever its other fields hold. -/
structure Disk.GoodHeader (crc : Buffer → UInt32) (disk : Disk) (gpt : gpt_instance) : Prop where
  room : disk.headerOffset gpt + disk.blk_size ≤ disk.bytes.length
  header_size_ge : 92 ≤ field (disk.header gpt) HEADER_SIZE_OFFSET 4
  header_size_le : field (disk.header gpt) HEADER_SIZE_OFFSET 4 ≤ disk.blk_size
  signature : slice (disk.header gpt) 0 8 = EFI_PART
  header_crc : headerCrc crc (disk.header gpt) = field (disk.header gpt) HEADER_CRC_OFFSET 4

/-- From `w` on, the header is reported good; corrupting its signature and fixing it gives
    back the block; and in between the signature is reported bad. -/
def CorruptedAndFixed (env : Env) (w : World) (fd : String) (gpt : gpt_instance) (disk : Disk) :
    Prop :=
  ∃ w₁ w₂ w₃ w₄ disk',
    gpt_get_state env fd gpt w = .ok (0, .GPT_OK) w₁ ∧
    gpt_set_state env fd gpt .GPT_BAD_SIGNATURE w₁ = .ok 0 w₂ ∧
    gpt_get_state env fd gpt w₂ = .ok (0, .GPT_BAD_SIGNATURE) w₃ ∧
    gpt_set_state env fd gpt .GPT_OK w₃ = .ok 0 w₄ ∧
    w₄.disks fd = some disk' ∧ disk'.header gpt = disk.header gpt

theorem Disk.GoodHeader.holdsHeader {crc : Buffer → UInt32} {disk : Disk} {gpt : gpt_instance}
    (h : disk.GoodHeader crc gpt) : disk.HoldsHeader gpt :=
  ⟨h.header_size_ge.trans h.header_size_le, h.room, h.header_size_le⟩

/-- The signature as the program compares it is the signature and a zero behind it. -/
theorem signature_eq_iff {header : Buffer} (hlength : 9 ≤ header.length)
    (hsignature : slice header 0 8 = EFI_PART) :
    slice header 0 GPT_SIGNATURE.length = GPT_SIGNATURE ↔ header[8]? = some 0 := by
  have hnext : header[0 + 8]? = some header[8] := by
    rw [Nat.zero_add, List.getElem?_eq_getElem (by omega)]
  have hconcat : slice header 0 GPT_SIGNATURE.length = EFI_PART ++ [header[8]] := by
    rw [← hsignature]
    exact slice_concat hnext
  rw [hconcat, List.getElem?_eq_getElem (by omega)]
  change EFI_PART ++ [header[8]] = EFI_PART ++ [0] ↔ _
  simp

/-- A good header is found good exactly if the byte behind its signature is zero. -/
theorem Disk.GoodHeader.headerState_eq_ok_iff {crc : Buffer → UInt32} {disk : Disk}
    {gpt : gpt_instance} (hgood : disk.GoodHeader crc gpt) :
    headerState crc (disk.header gpt) = .GPT_OK ↔ (disk.header gpt)[8]? = some 0 := by
  have hlength := Disk.length_header hgood.holdsHeader
  have hblk := hgood.holdsHeader.blk_size
  rw [gpt_utils.headerState_eq_ok_iff, signature_eq_iff (by omega) hgood.signature]
  exact and_iff_right hgood.header_crc

/-- A header that is found good is a good one. -/
theorem goodHeader_of_ok {crc : Buffer → UInt32} {disk : Disk} {gpt : gpt_instance}
    (hheader : disk.HoldsHeader gpt) (hsize : 92 ≤ field (disk.header gpt) HEADER_SIZE_OFFSET 4)
    (hstate : headerState crc (disk.header gpt) = .GPT_OK) : disk.GoodHeader crc gpt := by
  obtain ⟨hcrc, hsignature⟩ := (gpt_utils.headerState_eq_ok_iff crc _).mp hstate
  refine ⟨hheader.room, hsize, hheader.header_size, ?_, hcrc⟩
  rw [EFI_PART, ← hsignature, slice, slice, List.take_take]
  rfl

section working

variable {env : Env} {w : World} {fd : String} {disk : Disk} {gpt : gpt_instance}

theorem gpt_get_state_working (hworking : env.Working) (hdisk : w.disks fd = some disk)
    (hheader : disk.HoldsHeader gpt) :
    ∃ w', gpt_get_state env fd gpt w = .ok (0, headerState env.crc32 (disk.header gpt)) w' ∧
      w'.disks fd = some disk := by
  have hexec := hworking.exec (readScript disk gpt) w
  have hdisk' := disk_of_done (Prod.ext rfl hexec) hdisk
  rw [readScript_events, replay_nil] at hdisk'
  exact ⟨_, (gpt_get_state_follows hworking.fullOrFail hdisk hheader).done hexec, hdisk'⟩

theorem gpt_set_state_working (hworking : env.Working) (hdisk : w.disks fd = some disk)
    (hheader : disk.HoldsHeader gpt) (state : gpt_state) (hstate : state ≠ .GPT_BAD_CRC) :
    ∃ w', gpt_set_state env fd gpt state w = .ok 0 w' ∧
      w'.disks fd = some (disk.write (disk.headerOffset gpt)
        (reseal env.crc32 (mark state (disk.header gpt)))) := by
  have hexec := hworking.exec (readScript disk gpt ++
    [.write fd (disk.headerOffset gpt) (reseal env.crc32 (mark state (disk.header gpt)))]) w
  have hdisk' := disk_of_done (Prod.ext rfl hexec) hdisk
  rw [List.flatMap_append, readScript_events, List.nil_append, List.flatMap_singleton, Step.events,
    replay_cons, replay_nil, Event.onDisk, if_pos rfl] at hdisk'
  exact ⟨_, (gpt_set_state_follows hworking.fullOrFail hdisk hheader hstate).done hexec, hdisk'⟩

/-- What is stored over the block of a header is the header from then on. -/
theorem header_write (hheader : disk.HoldsHeader gpt) {header : Buffer}
    (hlength : header.length = disk.blk_size) :
    (disk.write (disk.headerOffset gpt) header).header gpt = header := by
  have hoffset : (disk.write (disk.headerOffset gpt) header).headerOffset gpt = disk.headerOffset gpt := by
    cases gpt <;> simp [Disk.headerOffset]
  rw [Disk.header, hoffset, Disk.write_blk_size, ← hlength]
  exact slice_patch_self (by rw [hlength]; exact hheader.room)

theorem holdsHeader_write (hheader : disk.HoldsHeader gpt) {header : Buffer}
    (hlength : header.length = disk.blk_size) (hlayout : SameLayout header (disk.header gpt)) :
    (disk.write (disk.headerOffset gpt) header).HoldsHeader gpt := by
  refine ⟨hheader.blk_size, ?_, ?_⟩
  · have hroom := hheader.room
    cases gpt <;> simpa [Disk.headerOffset] using hroom
  · rw [header_write hheader hlength, hlayout.header_size]
    exact hheader.header_size

/-- Corrupting a good header and fixing it gives back the block exactly if the byte behind
    the signature, the low byte of the revision, is zero; only then is the header reported
    good to begin with. -/
theorem corrupted_and_fixed_iff (hworking : env.Working) (hdisk : w.disks fd = some disk)
    (hgood : disk.GoodHeader env.crc32 gpt) :
    CorruptedAndFixed env w fd gpt disk ↔ (disk.header gpt)[8]? = some 0 := by
  have hheader := hgood.holdsHeader
  have hlength := Disk.length_header hheader
  have hblk := hheader.blk_size
  have hok := hgood.headerState_eq_ok_iff
  obtain ⟨w₁, hget, hdisk₁⟩ := gpt_get_state_working hworking hdisk hheader
  constructor
  · rintro ⟨w₁', _, _, _, _, hget', _⟩
    rw [hget] at hget'
    apply hok.mp
    injection hget' with hresult
    exact (Prod.mk.inj hresult).2
  · intro hzero
    have hstate := hok.mpr hzero
    -- the header with its first byte cleared
    have hbadLength : (reseal env.crc32 (mark .GPT_BAD_SIGNATURE (disk.header gpt))).length = disk.blk_size := by
      rw [length_reseal, length_mark, hlength]
    have hbadLayout := (sameLayout_reseal env.crc32 _).trans (sameLayout_mark .GPT_BAD_SIGNATURE (disk.header gpt))
    have hbadHeader := header_write hheader hbadLength
    have hbadHolds := holdsHeader_write hheader hbadLength hbadLayout
    obtain ⟨w₂, hset, hdisk₂⟩ :=
      gpt_set_state_working hworking hdisk₁ hheader .GPT_BAD_SIGNATURE (by decide)
    obtain ⟨w₃, hgetBad, hdisk₃⟩ := gpt_get_state_working hworking hdisk₂ hbadHolds
    rw [hbadHeader, headerState_reseal env.crc32 (by rw [length_mark]; omega),
      if_neg (signature_mark_bad (by omega))] at hgetBad
    obtain ⟨w₄, hfix, hdisk₄⟩ :=
      gpt_set_state_working hworking hdisk₃ hbadHolds .GPT_OK (by decide)
    have hfixed : reseal env.crc32 (mark .GPT_OK (reseal env.crc32
        (mark .GPT_BAD_SIGNATURE (disk.header gpt)))) = disk.header gpt := by
      rw [reseal_mark_reseal, mark_ok_mark, mark_of_ok env.crc32 hstate, reseal_of_ok env.crc32 (by omega) hstate]
    rw [hbadHeader, hfixed] at hdisk₄
    rw [hstate] at hget
    refine ⟨w₁, w₂, w₃, w₄, _, hget, hset, hgetBad, hfix, hdisk₄, ?_⟩
    exact header_write hbadHolds hlength

end working

theorem pairedDisk_goodHeader : pairedDisk.GoodHeader zlib_crc32 .PRIMARY_GPT := by
  refine goodHeader_of_ok (pairedDisk_valid.holdsHeader .PRIMARY_GPT) ?_ (pairedDisk_valid.state .PRIMARY_GPT)
  rw [pairedDisk, header_size_formatted]

theorem corrupted_and_fixed_pairedDisk :
    CorruptedAndFixed emmc (machine pairedDisk) BLK_DEV_FILE .PRIMARY_GPT pairedDisk := by
  have hgood := pairedDisk_goodHeader
  apply (corrupted_and_fixed_iff emmc_working (machine_disk pairedDisk) hgood).mpr
  exact hgood.headerState_eq_ok_iff.mp (pairedDisk_valid.state .PRIMARY_GPT)

/-- The primary header of `pairedDisk` in another revision. -/
def revisedHeader : Buffer :=
  reseal zlib_crc32 (patch (pairedDisk.header .PRIMARY_GPT) 8 [1])

/-- A device whose primary header is of a revision that does not end in a zero byte. -/
def revisedDisk : Disk := pairedDisk.write (pairedDisk.headerOffset .PRIMARY_GPT) revisedHeader

theorem revisedDisk_header : revisedDisk.header .PRIMARY_GPT = revisedHeader := by
  have hholds := pairedDisk_goodHeader.holdsHeader
  apply header_write hholds
  rw [revisedHeader, length_reseal, length_patch, Disk.length_header hholds]

theorem revisedDisk_goodHeader : revisedDisk.GoodHeader zlib_crc32 .PRIMARY_GPT := by
  have hgood := pairedDisk_goodHeader
  have hholds := hgood.holdsHeader
  have hlength := Disk.length_header hholds
  have hblk := hholds.blk_size
  have hlayout : SameLayout revisedHeader (pairedDisk.header .PRIMARY_GPT) :=
    (sameLayout_reseal zlib_crc32 _).trans (sameLayout_patch _ (.inl (by decide)))
  have hroom : revisedDisk.HoldsHeader .PRIMARY_GPT :=
    holdsHeader_write hholds (by rw [revisedHeader, length_reseal, length_patch, hlength]) hlayout
  refine ⟨hroom.room, ?_, hroom.header_size, ?_, ?_⟩
  · rw [revisedDisk_header, hlayout.header_size]
    exact hgood.header_size_ge
  · rw [revisedDisk_header, revisedHeader, reseal, setField,
      slice_patch_of_apart _ (.inl (by decide)), slice_patch_of_apart _ (.inl (by decide))]
    exact hgood.signature
  · rw [revisedDisk_header, revisedHeader, reseal, headerCrc_setField]
    exact (field_setField_self (by rw [length_patch, hlength]; simp only [HEADER_CRC_OFFSET]; omega)
      (headerCrc_lt _ _)).symm

/-- That header is reported to have a bad signature although it has the signature and a good CRC. -/
theorem revisedDisk_not_fixed :
    revisedDisk.GoodHeader zlib_crc32 .PRIMARY_GPT ∧
    ¬ CorruptedAndFixed emmc (machine revisedDisk) BLK_DEV_FILE .PRIMARY_GPT revisedDisk := by
  have hgood := revisedDisk_goodHeader
  refine ⟨hgood, ?_⟩
  rintro ⟨w₁, _, _, _, _, hget, _⟩
  obtain ⟨w₁', hget', _⟩ :=
    gpt_get_state_working emmc_working (machine_disk revisedDisk) hgood.holdsHeader
  rw [hget'] at hget
  injection hget with hresult
  have hzero := hgood.headerState_eq_ok_iff.mp (Prod.mk.inj hresult).2
  have hlength := Disk.length_header pairedDisk_goodHeader.holdsHeader
  have hblk := pairedDisk_goodHeader.holdsHeader.blk_size
  rw [revisedDisk_header, revisedHeader, reseal, setField, getElem?_patch_outside _ (.inl (by decide)),
    getElem?_patch, if_pos ⟨Nat.le_refl 8, by decide, by omega⟩] at hzero
  exact absurd hzero (by decide)

end gpt_utils
