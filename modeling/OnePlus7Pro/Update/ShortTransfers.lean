import OnePlus7Pro.Gpt.Outcomes
import OnePlus7Pro.Gpt.Transfers
import OnePlus7Pro.Update.Cycle
import OnePlus7Pro.Update.SecondaryWrites

open regions effects twins

namespace gpt_utils

/-- A transfer of `len` bytes at `offset`, made now, moves all of them or is reported as a
    failure: there is nothing to move, or `lseek` or the transfer fails, or the transfer
    is not cut short and the device does not end before the last byte. -/
def Env.MovesAll (env : Env) (w : World) (fd : String) (offset len : Nat) : Prop :=
  ∀ disk, w.disks fd = some disk → len = 0 ∨ disk.bytes.length < offset ∨
    env.transfer w.transfers = .error ∨
    (env.transfer w.transfers = .full ∧ offset + len ≤ disk.bytes.length)

/-- The log holds a complete write of the block that is the secondary header, and one of
    the whole entry array that this header describes. -/
structure Disk.SecondaryWritten (fd : String) (device : Disk) (log : List Event) : Prop where
  header : .write fd (device.headerOffset .SECONDARY_GPT) device.blk_size (device.header .SECONDARY_GPT) ∈ log
  header_length : (device.header .SECONDARY_GPT).length = device.blk_size
  pentries : .write fd (device.pentriesOffset .SECONDARY_GPT) (device.pentriesSize .SECONDARY_GPT)
    (device.pentries .SECONDARY_GPT) ∈ log
  pentries_length : (device.pentries .SECONDARY_GPT).length = device.pentriesSize .SECONDARY_GPT

/-- The surroundings in which transfers that are cut short fail instead. -/
def Env.unshortened (env : Env) : Env :=
  env.withTransfers fun n => match env.transfer n with
    | .short _ => .error
    | outcome => outcome

variable {env : Env} {w w' : World} {fd : String} {disk : Disk} {copies : Copies Buffer}

theorem unshortened_fullOrFail (env : Env) : env.unshortened.FullOrFail := by
  intro n
  change (match env.transfer n with | .short _ => Transfer.error | outcome => outcome) = _ ∨
    (match env.transfer n with | .short _ => Transfer.error | outcome => outcome) = _
  cases env.transfer n <;> simp

/-- When a transfer moves all that was asked for, or nothing. -/
theorem moved_eq_iff (outcome : Transfer) {offset len size : Nat} (hoffset : offset ≤ size) :
    (∀ count, outcome.moved (min len (size - offset)) = some count → count = len) ↔
      len = 0 ∨ outcome = .error ∨ (outcome = .full ∧ offset + len ≤ size) := by
  cases outcome with
  | error => simp [Transfer.moved]
  | short count =>
    simp only [Transfer.moved, Option.some.injEq, forall_eq', reduceCtorEq, false_and, or_false]
    omega
  | full =>
    simp only [Transfer.moved, Option.some.injEq, forall_eq', reduceCtorEq, false_or, true_and]
    omega

/-- Past a successful `lseek64`, `blk_rw` makes one transfer, and returns 0 unless it fails. -/
theorem blk_rw_transfer (hdisk : w.disks fd = some disk) {offset len : Nat}
    (hoffset : offset ≤ disk.bytes.length) {buf : Buffer} (hbuf : len ≤ buf.length) (rw : Bool) :
    ∃ r buf' w', blk_rw env fd rw offset buf len w = .ok (r, buf') w' ∧
      w'.moves = w.moves ++ [(len, (env.transfer w.transfers).moved (min len (disk.bytes.length - offset)))] ∧
      (r = 0 ↔ (env.transfer w.transfers).moved (min len (disk.bytes.length - offset)) ≠ none) := by
  have hfits : ¬ buf.length < len := Nat.not_lt.mpr hbuf
  cases hmoved : (env.transfer w.transfers).moved (min len (disk.bytes.length - offset)) with
  | none =>
    cases rw with
    | true =>
      have hwrite : write env fd offset buf len w = .ok (-1) (w.transferred len none) := by
        simp only [write, if_neg hfits, hdisk, hmoved]
      exact ⟨_, _, _, blk_rw_of_write hdisk hoffset hwrite, rfl, by simp⟩
    | false =>
      have hread : read env fd offset buf len w = .ok (-1, buf) (w.transferred len none) := by
        simp only [read, if_neg hfits, hdisk, hmoved]
      exact ⟨_, _, _, blk_rw_of_read hdisk hoffset hread, rfl, by simp⟩
  | some count =>
    cases rw with
    | true =>
      have hwrite : write env fd offset buf len w =
          .ok count ((w.transferred len (some count)).record (.write fd offset len (buf.take count))) := by
        simp only [write, if_neg hfits, hdisk, hmoved]
      exact ⟨_, _, _, blk_rw_of_write hdisk hoffset hwrite, rfl, by simp⟩
    | false =>
      have hread : read env fd offset buf len w =
          .ok (count, patch buf 0 (disk.read offset count)) (w.transferred len (some count)) := by
        simp only [read, if_neg hfits, hdisk, hmoved]
      exact ⟨_, _, _, blk_rw_of_read hdisk hoffset hread, rfl, by simp⟩

/-- `blk_rw` returns 0 only after moving all bytes, exactly when the transfer is not cut short. -/
theorem blk_rw_moves_iff (env : Env) (w : World) (fd : String) (rw : Bool) (offset : Nat)
    {buf : Buffer} {len : Nat} (hbuf : len ≤ buf.length) :
    (∀ buf' w', blk_rw env fd rw offset buf len w = .ok (0, buf') w' → w'.moves = w.moves ++ [(len, some len)]) ↔
      env.MovesAll w fd offset len := by
  have hfailed (hposition : lseek64_set fd offset w = .ok (-1) w) :
      blk_rw env fd rw offset buf len w = .ok (-1, buf) w := by
    unfold blk_rw
    rw [run_bind_ok hposition, if_pos (by decide)]
    rfl
  cases hdisk : w.disks fd with
  | none =>
    have hrun := hfailed (by simp only [lseek64_set, hdisk])
    refine iff_of_true (fun buf' w' h => ?_) fun disk h => by rw [hdisk] at h; cases h
    rw [hrun] at h
    injection h with h
    cases h
  | some disk =>
    have hcondition : env.MovesAll w fd offset len ↔ len = 0 ∨ disk.bytes.length < offset ∨
        env.transfer w.transfers = .error ∨
        (env.transfer w.transfers = .full ∧ offset + len ≤ disk.bytes.length) := by
      simp only [Env.MovesAll, hdisk, Option.some.injEq, forall_eq']
    rw [hcondition]
    by_cases hoffset : offset ≤ disk.bytes.length
    · obtain ⟨r, buf', w', hrun, hmoves, hr⟩ :=
        @blk_rw_transfer env w fd disk hdisk offset len hoffset buf hbuf rw
      rw [← or_assoc, or_comm (a := len = 0), or_assoc, or_iff_right (Nat.not_lt.mpr hoffset),
        ← moved_eq_iff (env.transfer w.transfers) hoffset, hrun]
      constructor
      · intro h count hcount
        have hzero := hr.mpr (by rw [hcount]; simp)
        have hfull := h buf' w' (by rw [hzero])
        rw [hmoves, hcount] at hfull
        simpa using hfull
      · intro h buf'' w'' hresult
        injection hresult with hpair hstate
        obtain ⟨hzero, _⟩ := Prod.ext_iff.mp hpair
        obtain ⟨count, hcount⟩ := Option.ne_none_iff_exists'.mp (hr.mp hzero)
        rw [← hstate, hmoves, hcount, h count hcount]
    · have hposition : lseek64_set fd offset w = .ok (-1) w := by
        simp only [lseek64_set, hdisk, if_neg hoffset]
      refine iff_of_true (fun buf' w' h => ?_) (.inr (.inl (Nat.lt_of_not_le hoffset)))
      rw [hfailed hposition] at h
      injection h with h
      cases h

/-- A run that makes no transfer that is cut short is a run in which no transfer can be. -/
theorem run_unshortened (stage : boot_update_stage)
    (hshort : ∀ n, w.transfers ≤ n → n < (endState (prepare_partitions env stage fd w)).transfers →
      ∀ count, env.transfer n ≠ .short count) :
    prepare_partitions env.unshortened stage fd w = prepare_partitions env stage fd w := by
  refine (prepare_partitions_agrees env _ stage fd).run_eq fun n hstart hend hdiffers => hdiffers ?_
  have hn := hshort n hstart hend
  cases htransfer : env.transfer n with
  | short count => exact absurd htransfer (hn count)
  | error => rfl
  | full => rfl

/-- The copies after `UPDATE_MAIN` has marked the primary one of a valid device. -/
def Disk.divertedCopies (env : Env) (disk : Disk) : Copies Buffer :=
  ⟨false, true, disk.backupPentries env, disk.backupPentries env⟩

/-- Only all the acts of `UPDATE_MAIN` together take the mark from the primary copy. -/
theorem acts_of_unmarked {acts : List (Act Buffer)}
    (hacts : acts <+: dueActs env disk disk.ownCopies .UPDATE_MAIN)
    (hmark : (acts.foldl Copies.apply disk.ownCopies).primary = false) :
    acts = [.record (disk.backupPentries env), .store (disk.backupPentries env)] ++ [.mark_primary false] := by
  have hunmarked {acts : List (Act Buffer)} (h : ∀ good, .mark_primary good ∉ acts) :
      (acts.foldl Copies.apply disk.ownCopies).primary ≠ false := by
    rw [primary_foldl h]
    simp [Disk.ownCopies]
  have hperform := performActs_eq env disk .divert
  rw [dueActs] at hacts
  split at hacts
  · rw [show performActs env disk .UPDATE_MAIN = _ from hperform] at hacts
    split at hacts
    · rw [List.prefix_nil.mp hacts] at hmark
      cases hmark
    · rcases List.prefix_concat_iff.mp (show acts <+: [.record (disk.backupPentries env),
        .store (disk.backupPentries env)] ++ [.mark_primary false] from hacts) with h | h
      · exact h
      · refine absurd hmark (hunmarked fun good hgood => ?_)
        have hmem := h.subset hgood
        simp at hmem
  · rw [List.prefix_nil.mp hacts] at hmark
    cases hmark

/-- The writes of `UPDATE_MAIN` write the secondary copy that the device holds after them. -/
theorem secondaryWritten_diverted (hvalid : disk.Valid env.crc32) (luns : List Event) :
    (disk.holding env.crc32 (disk.divertedCopies env)).SecondaryWritten fd (luns ++ actEvents env.crc32 fd disk
      disk.ownCopies
        ([.record (disk.backupPentries env), .store (disk.backupPentries env)] ++ [.mark_primary false])) := by
  have hfits : disk.Fits (disk.divertedCopies env).stored := fits_chainPentries hvalid .BACKUP_BOOT
  have hheader := header_holding_secondary hvalid hfits
  have hlength := hvalid.length_secondaryHeader (disk.divertedCopies env)
  have hpentries := pentries_holding_secondary hvalid hfits
  have hsize := (pentriesSize_holding hvalid hfits .SECONDARY_GPT).trans (hvalid.pentriesSize_eq _)
  refine ⟨List.mem_append_right _ ?_, ?_, List.mem_append_right _ ?_, ?_⟩
  · rw [hheader, holding_headerOffset, holding_blk_size]
    nth_rewrite 1 [← hlength]
    exact List.mem_cons_self
  · rw [hheader, hlength, holding_blk_size]
  · rw [hpentries, pentriesOffset_holding hvalid hfits, hsize, ← hfits]
    exact List.mem_cons_of_mem _ List.mem_cons_self
  · rw [hpentries, hsize]
    exact hfits

/-- At each moment of an `UPDATE_MAIN` without short transfers at which the primary
    signature is not valid, the secondary copy has been written completely. -/
theorem update_main_writes_secondary (hvalid : disk.Valid env.crc32)
    (hdisk : w.disks fd = some disk)
    (hshort : ∀ n, w.transfers ≤ n → n < (endState (prepare_partitions env .UPDATE_MAIN fd w)).transfers →
      ∀ count, env.transfer n ≠ .short count) :
    Returns (prepare_partitions env .UPDATE_MAIN fd) w fun _ w' => ∃ events, w'.log = w.log ++ events ∧
      ∀ done, done <+: events →
        slice ((replay fd disk done).header .PRIMARY_GPT) 0 GPT_SIGNATURE.length ≠ GPT_SIGNATURE →
        (replay fd disk done).SecondaryWritten fd done := by
  have hvalid' : disk.Valid env.unshortened.crc32 := hvalid
  have hfits : disk.Fits disk.ownCopies.stored := hvalid.length_pentries _
  have hdisk' : w.disks fd = some (disk.holding env.unshortened.crc32 disk.ownCopies) := by
    rw [hdisk, holding_ownCopies hvalid']
  obtain ⟨r, w', hrun, hexec⟩ :=
    (prepare_partitions_follows (unshortened_fullOrFail env) hvalid' hfits hdisk' .UPDATE_MAIN).state
  have hafter :=
    exec_after env.unshortened (stageScript env.unshortened fd disk disk.ownCopies .UPDATE_MAIN) w
  have hstart :=
    effect_isPrefix env.unshortened (stageScript env.unshortened fd disk disk.ownCopies .UPDATE_MAIN) w
  obtain ⟨luns, hluns, hevents⟩ :=
    stageScript_events env.unshortened fd disk disk.ownCopies .UPDATE_MAIN
  rw [← hexec] at hafter
  rw [hevents] at hstart
  refine ⟨r, w', (run_unshortened .UPDATE_MAIN hshort).symm.trans hrun, _, hafter.log,
    fun done hdone hsignature => ?_⟩
  rcases start_cases (hdone.trans hstart) with hearly | ⟨acts, hacts, rfl⟩
  · -- nothing has been written, so the signature is still there
    rw [lunEvents_onDisk env.unshortened .UPDATE_MAIN (hearly.trans hluns)] at hsignature
    exact absurd (hvalid.signature_header .PRIMARY_GPT) hsignature
  · have hfit := dueActs_fit hvalid' disk.ownCopies .UPDATE_MAIN
    have hfit' : ∀ act ∈ acts, disk.ActFits act := fun act hact => hfit act (hacts.subset hact)
    have hreplay :=
      @replay_acts env.unshortened fd disk _ acts .UPDATE_MAIN luns hvalid' hfits hfit' hluns
    rw [holding_ownCopies hvalid'] at hreplay
    have hstate := headerState_holding_primary hvalid' (fits_foldl hfits hfit')
    rw [hreplay] at hsignature ⊢
    have hmark : (acts.foldl Copies.apply disk.ownCopies).primary = false := by
      cases hprimary : (acts.foldl Copies.apply disk.ownCopies).primary with
      | false => rfl
      | true =>
        rw [hprimary] at hstate
        exact absurd ((headerState_eq_ok_iff _ _).mp hstate).2 hsignature
    rw [acts_of_unmarked hacts hmark]
    exact @secondaryWritten_diverted env.unshortened fd disk hvalid' luns

/-- A run of `UPDATE_MAIN` without short transfers goes as far as one in which none is possible. -/
theorem update_main_unshortened (hcopies : ∀ gpt, disk.HoldsHeader gpt ∧ disk.ValidCopy env.crc32 gpt)
    (hdisk : w.disks fd = some disk)
    (hshort : ∀ n, w.transfers ≤ n → n < (endState (prepare_partitions env .UPDATE_MAIN fd w)).transfers →
      ∀ count, env.transfer n ≠ .short count)
    (hcovered : disk.Exchanges env → disk.SecondaryCovered) :
    ∃ events, w.After events (endState (prepare_partitions env .UPDATE_MAIN fd w)) ∧
      disk.SecondaryFirst fd events := by
  rw [← run_unshortened .UPDATE_MAIN hshort]
  exact prepare_partitions_ordered (unshortened_fullOrFail env) (hcopies .PRIMARY_GPT).1 (hcopies .SECONDARY_GPT).1
    (fun gpt => (hcopies gpt).2) hcovered w hdisk

/-- `blk_rw` returns 0 only after moving all bytes exactly when the transfer is not cut
    short. An `UPDATE_MAIN` that makes no such transfer, from two valid copies of which the
    secondary one does not describe a larger array when there is something to exchange, takes the
    signature from the primary header only after the secondary copy has been written. Where
    the copies have one layout and lie apart, what was written is what the device then holds. -/
theorem transfers_complete (env : Env) :
    (∀ (w : World) (fd : String) (rw : Bool) (offset : Nat) (buf : Buffer) (len : Nat), len ≤ buf.length →
      ((∀ buf' w', blk_rw env fd rw offset buf len w = .ok (0, buf') w' → w'.moves = w.moves ++ [(len, some len)]) ↔
        env.MovesAll w fd offset len)) ∧
    ∀ (w : World) (fd : String) (disk : Disk), w.disks fd = some disk →
      (∀ n, w.transfers ≤ n → n < (endState (prepare_partitions env .UPDATE_MAIN fd w)).transfers →
        ∀ count, env.transfer n ≠ .short count) →
      ((∀ gpt, disk.HoldsHeader gpt ∧ disk.ValidCopy env.crc32 gpt) →
        (disk.Exchanges env → disk.SecondaryCovered) →
        ∃ events, w.After events (endState (prepare_partitions env .UPDATE_MAIN fd w)) ∧
          disk.SecondaryFirst fd events) ∧
      (disk.Valid env.crc32 →
        Returns (prepare_partitions env .UPDATE_MAIN fd) w fun _ w' => ∃ events, w'.log = w.log ++ events ∧
          ∀ done, done <+: events →
            slice ((replay fd disk done).header .PRIMARY_GPT) 0 GPT_SIGNATURE.length ≠ GPT_SIGNATURE →
            (replay fd disk done).SecondaryWritten fd done) :=
  ⟨fun w fd rw offset _ _ hbuf => blk_rw_moves_iff env w fd rw offset hbuf,
    fun _ _ _ hdisk hshort =>
      ⟨fun hcopies hcovered => update_main_unshortened hcopies hdisk hshort hcovered,
        fun hvalid => update_main_writes_secondary hvalid hdisk hshort⟩⟩

/-- Copies of one layout describe arrays of one size. -/
theorem Disk.Valid.secondaryCovered {crc : Buffer → UInt32} (hvalid : disk.Valid crc) : disk.SecondaryCovered := by
  unfold Disk.SecondaryCovered
  rw [hvalid.count_eq, hvalid.pentry_size_eq, Disk.pentriesSize, pentries_size, Nat.mod_eq_of_lt hvalid.product_lt]

theorem Disk.Valid.bothCopies {crc : Buffer → UInt32} (hvalid : disk.Valid crc) (gpt : gpt_instance) :
    disk.HoldsHeader gpt ∧ disk.ValidCopy crc gpt :=
  ⟨hvalid.holdsHeader gpt, hvalid.state gpt, hvalid.room gpt, hvalid.pentries_crc gpt⟩

theorem transfers_complete_pairedDisk :
    ((∀ buf' w', blk_rw emmc BLK_DEV_FILE true 512 (zeros 512) 512 (machine pairedDisk) = .ok (0, buf') w' →
      w'.moves = (machine pairedDisk).moves ++ [(512, some 512)]) ↔
        emmc.MovesAll (machine pairedDisk) BLK_DEV_FILE 512 512) ∧
    (∃ events, (machine pairedDisk).After events
        (endState (prepare_partitions emmc .UPDATE_MAIN BLK_DEV_FILE (machine pairedDisk))) ∧
      pairedDisk.SecondaryFirst BLK_DEV_FILE events) ∧
    Returns (prepare_partitions emmc .UPDATE_MAIN BLK_DEV_FILE) (machine pairedDisk) fun _ w' =>
      ∃ events, w'.log = (machine pairedDisk).log ++ events ∧ ∀ done, done <+: events →
        slice ((replay BLK_DEV_FILE pairedDisk done).header .PRIMARY_GPT) 0 GPT_SIGNATURE.length ≠ GPT_SIGNATURE →
        (replay BLK_DEV_FILE pairedDisk done).SecondaryWritten BLK_DEV_FILE done := by
  have hfull : ∀ n, (machine pairedDisk).transfers ≤ n →
      n < (endState (prepare_partitions emmc .UPDATE_MAIN BLK_DEV_FILE (machine pairedDisk))).transfers →
      ∀ count, emmc.transfer n ≠ .short count :=
    fun _ _ _ _ => by simp [emmc]
  obtain ⟨hfirst, hheld⟩ := (transfers_complete emmc).2 (machine pairedDisk) BLK_DEV_FILE pairedDisk rfl hfull
  exact ⟨(transfers_complete emmc).1 (machine pairedDisk) BLK_DEV_FILE true 512 (zeros 512) 512
      (Nat.le_of_eq (length_zeros 512).symm),
    hfirst pairedDisk_valid.bothCopies fun _ => pairedDisk_valid.secondaryCovered, hheld pairedDisk_valid⟩

/-- A target on which the transfer number `k` moves nothing and reports this as success. -/
def shorted (k : Nat) : Env := { emmc with transfer := fun n => if n = k then .short 0 else .full }

/-- What does not make the transfer number `k` runs as if all transfers were full. -/
theorem shorted_run {A : Type} {k : Nat} {m m' : Sys A} {script : List Step} {value : A}
    {failed : A → Prop} (hagrees : emmc.Agrees (shorted k).transfer m m')
    (hm : emmc.steps.Follows m w script value failed)
    (hk : k < w.transfers ∨ w.transfers + transferCount script ≤ k) :
    ∃ w', m' w = .ok value w' ∧ w.After (script.flatMap Step.events) w' ∧
      w'.transfers = w.transfers + transferCount script := by
  have hexec : emmc.steps.exec script w = ((emmc.steps.exec script w).1, true) :=
    Prod.ext rfl (emmc_working.exec script w)
  have hrun := hm.done (emmc_working.exec script w)
  have hcount := (exec_calls hexec).2
  have hafter := exec_after emmc script w
  rw [effect_of_done hexec] at hafter
  refine ⟨_, ?_, hafter, hcount⟩
  rw [hagrees.run_eq fun n hstart hend hdiffers => hdiffers ?_, hrun]
  rw [hrun] at hend
  change n < (emmc.steps.exec script w).1.transfers at hend
  exact if_neg (by omega)

/-- Steps before the transfer number `k` that have no lasting effect leave the device as it is. -/
theorem shorted_silent {A : Type} {k before : Nat} {m m' : Sys A} {script : List Step} {value : A}
    {failed : A → Prop} (hagrees : emmc.Agrees (shorted k).transfer m m')
    (hm : emmc.steps.Follows m w script value failed) (hevents : script.flatMap Step.events = [])
    (hdisk : w.disks fd = some disk) (htransfers : w.transfers = before)
    (hk : before + transferCount script ≤ k) :
    ∃ w', m' w = .ok value w' ∧ w.After [] w' ∧ w'.disks fd = some disk ∧
      w'.transfers = before + transferCount script := by
  obtain ⟨w', hrun, hafter, hcount⟩ := shorted_run hagrees hm (.inr (by rw [htransfers]; exact hk))
  rw [hevents] at hafter
  rw [htransfers] at hcount
  exact ⟨w', hrun, hafter, hafter.disk hdisk, hcount⟩

theorem write_nil (disk : Disk) (offset : Nat) : disk.write offset [] = disk :=
  Disk.ext rfl (patch_eq_self (by simp [slice]))

section shorted

variable (hvalid : disk.Valid emmc.crc32) (hdisk : w.disks fd = some disk)

include hvalid hdisk

/-- The write of the entry array is the transfer number 6: it changes nothing, and is taken for a success. -/
theorem shorted_write_back (htransfers : w.transfers = 5) {table : Buffer}
    (htable : disk.Fits table) :
    ∃ w', gpt2_set_boot_chain.write_back (shorted 6) fd (chainUpdate emmc.crc32 disk table) w = .ok 0 w' ∧
      w'.transfers = 7 ∧ w'.disks fd = some (disk.holding emmc.crc32 (disk.ownCopies.apply (.record table))) ∧
      w.After ((actStep emmc.crc32 fd disk (disk.ownCopies.apply (.record table)) (.record table)).events ++
        [.write fd (disk.pentriesOffset .SECONDARY_GPT) (disk.pentriesSize .PRIMARY_GPT) []]) w' := by
  have hfits : disk.Fits disk.ownCopies.stored := hvalid.length_pentries _
  have hready := readyForChain_holding hvalid hfits
  have hheader := @chain_header _ _ hvalid _ hfits table
  have hrecord := @replay_actStep _ fd _ _ hvalid hfits (.record table) trivial
  rw [holding_ownCopies hvalid] at hready hheader hrecord
  have hlength : (chainHeader emmc.crc32 (disk.header .SECONDARY_GPT) table).length = disk.blk_size := by
    rw [hheader, hvalid.length_secondaryHeader]
  obtain ⟨w1, hrun1, hafter1, htransfers1⟩ :=
    @shorted_run w _ 6 _ _ _ _ _ (blk_rw_agrees emmc (shorted 6).transfer _ _ _ _ _)
    (blk_rw_write_follows emmc_working.fullOrFail hdisk hready.secondary.room hlength)
    (.inr (by rw [htransfers]; exact Nat.le_refl 6))
  have hdisk1 := hafter1.disk hdisk
  rw [hheader] at hdisk1
  have hdisk1' : w1.disks fd = some (disk.holding emmc.crc32 (disk.ownCopies.apply (.record table))) :=
    hdisk1.trans (congrArg some hrecord)
  have htransfer : (shorted 6).transfer w1.transfers = .short 0 := by
    rw [htransfers1, htransfers]
    rfl
  have hwrite : write (shorted 6) fd (disk.pentriesOffset .SECONDARY_GPT) table (disk.pentriesSize .PRIMARY_GPT) w1 =
      .ok (0 : Nat) ((w1.transferred (disk.pentriesSize .PRIMARY_GPT) (some 0)).record
        (.write fd (disk.pentriesOffset .SECONDARY_GPT) (disk.pentriesSize .PRIMARY_GPT) [])) := by
    simp only [write, if_neg (Nat.not_lt.mpr (Nat.le_of_eq htable.symm)), hdisk1', htransfer,
      Transfer.moved, Nat.zero_min, List.take_zero]
  have hroom : disk.pentriesOffset .SECONDARY_GPT ≤
      (disk.holding emmc.crc32 (disk.ownCopies.apply (.record table))).bytes.length := by
    rw [length_holding]
    exact Nat.le_of_add_right_le (hvalid.room .SECONDARY_GPT)
  have hrun2 := blk_rw_of_write hdisk1' hroom hwrite
  refine ⟨(w1.transferred (disk.pentriesSize .PRIMARY_GPT) (some 0)).record
    (.write fd (disk.pentriesOffset .SECONDARY_GPT) (disk.pentriesSize .PRIMARY_GPT) []), ?_, ?_, ?_, ?_⟩
  · refine (run_bind_ok hrun1).trans ?_
    exact run_bind_ok hrun2
  · change w1.transfers + 1 = 7
    rw [htransfers1, htransfers]
    rfl
  · change (w1.disks fd).map _ = _
    rw [hdisk1', Option.map_some, onDisk_write_self, write_nil]
  · rw [hheader] at hafter1
    exact World.After.trans hafter1 ((World.After.transferred w1 _ _).trans (.record _ _))

/-- `UPDATE_MAIN` goes on to mark the primary header, although the array was not written. -/
theorem shorted_update_main (htransfers : w.transfers = 0) (hpairs : disk.handledPairs emmc ≠ []) :
    ∃ w' header header', prepare_partitions (shorted 6) .UPDATE_MAIN fd w = .ok 0 w' ∧
      w'.disks fd = some (disk.holding emmc.crc32 ((disk.ownCopies.apply (.record (disk.backupPentries emmc))).apply
        (.mark_primary false))) ∧
      SameLayout header (disk.header .SECONDARY_GPT) ∧
      w.After [.write fd (disk.headerOffset .SECONDARY_GPT) disk.blk_size header,
        .write fd (disk.pentriesOffset .SECONDARY_GPT) (disk.pentriesSize .PRIMARY_GPT) [],
        .write fd (disk.headerOffset .PRIMARY_GPT) disk.blk_size header'] w' := by
  have hio := emmc_working.fullOrFail
  have hfits : disk.Fits disk.ownCopies.stored := hvalid.length_pentries _
  have hlun : lunSteps emmc .BACKUP_BOOT = [] := if_neg (by decide +kernel)
  have hready := readyForChain_holding hvalid hfits
  have hexchange := exchange_holding hvalid hfits .BACKUP_BOOT
  have hstates (gpt : gpt_instance) {w' : World} (hdisk' : w'.disks fd = some disk) :=
    gpt_get_state_copies_follows hio hvalid hfits (hdisk'.trans (congrArg some (holding_ownCopies hvalid).symm)) gpt
  rw [holding_ownCopies hvalid] at hready hexchange
  have hnothing : ¬ disk.NothingToDo emmc .BACKUP_BOOT := fun h => hpairs h.2
  have htable : disk.Fits (disk.backupPentries emmc) := fits_chainPentries hvalid .BACKUP_BOOT
  rw [if_neg hnothing] at hexchange
  -- the headers and the array are read by the transfers 0 to 4
  obtain ⟨w1, hrun1, hafter1, hdisk1, htransfers1⟩ := @shorted_silent w fd disk _ 6 0 _ _ _ _ _
    (open_device_agrees emmc (shorted 6).transfer fd) (open_device_follows emmc hdisk) rfl hdisk htransfers (by decide)
  obtain ⟨w2, hrun2, hafter2, hdisk2, htransfers2⟩ := @shorted_silent w1 fd disk _ 6 _ _ _ _ _ _
    (gpt_get_state_agrees emmc (shorted 6).transfer fd .PRIMARY_GPT) (hstates .PRIMARY_GPT hdisk1)
    (readScript_events disk _) hdisk1 htransfers1 (by rw [transferCount_readScript]; decide)
  rw [transferCount_readScript] at htransfers2
  obtain ⟨w3, hrun3, hafter3, hdisk3, htransfers3⟩ := @shorted_silent w2 fd disk _ 6 _ _ _ _ _ _
    (gpt_get_state_agrees emmc (shorted 6).transfer fd .SECONDARY_GPT) (hstates .SECONDARY_GPT hdisk2)
    (readScript_events disk _) hdisk2 htransfers2 (by rw [transferCount_readScript]; decide)
  rw [transferCount_readScript] at htransfers3
  obtain ⟨w4, hrun4, hafter4, hdisk4, htransfers4⟩ := @shorted_silent w3 fd disk _ 6 _ _ _ _ _ _
    (switch_boot_lun_agrees emmc (shorted 6).transfer .BACKUP_BOOT) (switch_boot_lun_follows emmc w3 .BACKUP_BOOT)
    (by rw [hlun]; rfl) hdisk3 htransfers3 (by rw [transferCount_lunSteps]; decide)
  rw [emmc_lunSwitches .BACKUP_BOOT] at hrun4
  rw [transferCount_lunSteps] at htransfers4
  obtain ⟨w5, hrun5, hafter5, hdisk5, htransfers5⟩ := @shorted_silent w4 fd disk _ 6 _ _ _ _ _ _
    (modify_agrees emmc (shorted 6).transfer fd .BACKUP_BOOT) (modify_follows hio hdisk4 hready hexchange htable)
    (chainReads_events disk) hdisk4 htransfers4 (by rw [(counts_chainReads disk).2]; decide)
  rw [(counts_chainReads disk).2] at htransfers5
  obtain ⟨w6, hrun6, htransfers6, hdisk6, hafter6⟩ :=
    shorted_write_back hvalid hdisk5 htransfers5 htable
  have hfits6 : disk.Fits (disk.ownCopies.apply (.record (disk.backupPentries emmc))).stored :=
    hfits
  obtain ⟨w7, hrun7, hafter7, _⟩ := @shorted_run w6 _ 6 _ _ _ _ _
    (gpt_set_state_agrees emmc (shorted 6).transfer fd .PRIMARY_GPT _)
    (gpt_set_state_primary_follows hio hvalid hfits6 hdisk6 false) (.inl (by rw [htransfers6]; decide))
  refine ⟨w7, disk.secondaryHeader emmc.crc32 (disk.ownCopies.apply (.record (disk.backupPentries emmc))),
    disk.primaryHeader emmc.crc32 ((disk.ownCopies.apply (.record (disk.backupPentries emmc))).apply
      (.mark_primary false)), ?_, ?_, ?_, ?_⟩
  · refine (run_bind_ok hrun1).trans ?_
    refine (run_bind_ok hrun2).trans ?_
    refine (run_bind_ok hrun3).trans ?_
    refine (run_bind_ok hrun4).trans ?_
    refine (run_bind_ok (run_bind_ok hrun5 |>.trans hrun6)).trans ?_
    exact hrun7
  · rw [hafter7.disk hdisk6, List.flatMap_append, readScript_events, List.nil_append]
    exact congrArg some (replay_actEvents hvalid hfits6 (by simp [Disk.ActFits]))
  · rw [← header_holding_secondary hvalid hfits6]
    exact sameLayout_holding hvalid hfits6 .SECONDARY_GPT
  · have hafter := hafter1.trans (hafter2.trans (hafter3.trans (hafter4.trans (hafter5.trans (hafter6.trans hafter7)))))
    rw [List.flatMap_append, readScript_events, actStep, Step.events, hvalid.length_secondaryHeader] at hafter
    simpa only [List.flatMap_nil, List.flatMap_cons, List.flatMap_singleton, Step.events, actSteps, actStep,
      hvalid.length_primaryHeader, List.append_nil, List.nil_append, List.append_assoc, List.cons_append] using hafter

end shorted

/-- A log in which nothing was written of the entry array. -/
theorem not_wroteSecondary (hvalid : disk.Valid emmc.crc32) (hsize : 0 < disk.pentriesSize .PRIMARY_GPT)
    {header header' : Buffer} (hlayout : SameLayout header (disk.header .SECONDARY_GPT)) :
    ¬ disk.WroteSecondary fd [.write fd (disk.headerOffset .SECONDARY_GPT) disk.blk_size header,
        .write fd (disk.pentriesOffset .SECONDARY_GPT) (disk.pentriesSize .PRIMARY_GPT) [],
        .write fd (disk.headerOffset .PRIMARY_GPT) disk.blk_size header'] := by
  rintro ⟨written, pentries, len, hheader, _, hpentries, hcovers⟩
  have hblk := hvalid.blk_size
  have hapart (gpt : gpt_instance) : disk.pentriesOffset .SECONDARY_GPT ≠ disk.headerOffset gpt := by
    intro hsame
    have happart := hvalid.array_apart .SECONDARY_GPT gpt
    rw [hvalid.pentriesSize_eq, hsame, Apart] at happart
    omega
  have hheaders : disk.headerOffset .SECONDARY_GPT ≠ disk.headerOffset .PRIMARY_GPT := by
    intro hsame
    have happart := hvalid.headers_apart
    rw [hsame, Apart] at happart
    omega
  simp only [List.mem_cons, Event.write.injEq, true_and, List.not_mem_nil, or_false] at hheader hpentries
  obtain rfl : written = header := by
    rcases hheader with hfirst | ⟨hsame, _⟩ | ⟨hsame, _⟩
    · exact hfirst
    · exact absurd hsame.symm (hapart _)
    · exact absurd hsame hheaders
  rw [hlayout.lba, ← Disk.pentriesOffset] at hpentries
  rw [hlayout.count, hlayout.pentry_size] at hcovers
  rcases hpentries with ⟨hsame, _⟩ | ⟨_, _, hempty⟩ | ⟨hsame, _⟩
  · exact hapart _ hsame
  · rw [hempty, List.length_nil, Nat.le_zero] at hcovers
    rw [← hvalid.pentriesSize_eq .SECONDARY_GPT, Disk.pentriesSize, pentries_size, hcovers] at hsize
    exact Nat.lt_irrefl 0 hsize
  · exact hapart _ hsame

/-- The signature is taken from the primary header although the secondary array was not written. -/
theorem shorted_update_main_unwritten (hvalid : disk.Valid emmc.crc32)
    (hdisk : w.disks fd = some disk) (htransfers : w.transfers = 0)
    (hpairs : disk.handledPairs emmc ≠ []) (hsize : 0 < disk.pentriesSize .PRIMARY_GPT) :
    ∃ w' events, prepare_partitions (shorted 6) .UPDATE_MAIN fd w = .ok 0 w' ∧ w.After events w' ∧
      ¬ disk.SecondaryFirst fd events := by
  obtain ⟨w', header, header', hrun, hdisk', hlayout, hafter⟩ :=
    shorted_update_main hvalid hdisk htransfers hpairs
  have hfits :
      disk.Fits ((disk.ownCopies.apply (.record (disk.backupPentries emmc))).apply (.mark_primary false)).stored :=
    hvalid.length_pentries .SECONDARY_GPT
  refine ⟨w', _, hrun, hafter, fun hfirst => not_wroteSecondary hvalid hsize hlayout
    (hfirst _ (List.prefix_refl _) fun hsignature => ?_)⟩
  have hreplayed := (hafter.disk hdisk).symm.trans hdisk'
  rw [Option.some_inj.mp hreplayed] at hsignature
  have hstate := headerState_holding_primary hvalid hfits
  rw [headerState, if_pos hsignature] at hstate
  split at hstate <;> cases hstate

/-- The write of the entry array moves nothing, and `UPDATE_MAIN` returns 0. -/
theorem short_write_pairedDisk : pairedDisk.WellFormed zlib_crc32 ∧ ∃ w' events,
    prepare_partitions (shorted 6) .UPDATE_MAIN BLK_DEV_FILE (machine pairedDisk) = .ok 0 w' ∧
    (machine pairedDisk).After events w' ∧ ¬ pairedDisk.SecondaryFirst BLK_DEV_FILE events := by
  have hsize : 0 < pairedDisk.pentriesSize .PRIMARY_GPT := by
    rw [pairedDisk, pentriesSize_formatted]
    decide
  exact ⟨pairedDisk_wellFormed, shorted_update_main_unwritten pairedDisk_valid (machine_disk pairedDisk) rfl
    pairedDisk_handledPairs hsize⟩

end gpt_utils
