import OnePlus7Pro.Gpt.Records
import OnePlus7Pro.Gpt.WellFormed

open regions effects

namespace gpt_utils

/-- The log holds a complete write of a secondary header block, and one of the whole entry array
    that this block describes. -/
def Disk.WroteSecondary (fd : String) (disk : Disk) (log : List Event) : Prop :=
  ∃ header pentries len,
    .write fd (disk.headerOffset .SECONDARY_GPT) disk.blk_size header ∈ log ∧ header.length = disk.blk_size ∧
    .write fd (pentries_offset (field header PENTRIES_OFFSET 8) disk.blk_size) len pentries ∈ log ∧
    field header PARTITION_COUNT_OFFSET 4 * field header PENTRY_SIZE_OFFSET 4 ≤ pentries.length

/-- The primary header is without its signature only once the secondary copy has been written. -/
def Disk.SecondaryFirst (fd : String) (disk : Disk) (events : List Event) : Prop :=
  ∀ done, done <+: events →
    slice ((replay fd disk done).header .PRIMARY_GPT) 0 GPT_SIGNATURE.length ≠ GPT_SIGNATURE →
    disk.WroteSecondary fd done

/-- The exchange finds a pair of partitions in the primary entry array. -/
def Disk.Exchanges (env : Env) (disk : Disk) : Prop :=
  ∃ pentries', gpt_boot_chain_swap env (disk.pentries .PRIMARY_GPT) (disk.pentriesSize .PRIMARY_GPT)
    (field (disk.header .PRIMARY_GPT) PENTRY_SIZE_OFFSET 4) = .ok (0, pentries')

/-- The array that the secondary header describes is no larger than the one that the primary header
    does, which is the size that is written. -/
def Disk.SecondaryCovered (disk : Disk) : Prop :=
  field (disk.header .SECONDARY_GPT) PARTITION_COUNT_OFFSET 4 *
    field (disk.header .SECONDARY_GPT) PENTRY_SIZE_OFFSET 4 ≤ disk.pentriesSize .PRIMARY_GPT

variable {env : Env} {fd : String} {disk : Disk} {w : World} {events : List Event}

theorem Disk.WroteSecondary.mono {log log' : List Event} (hsub : log ⊆ log') (h : disk.WroteSecondary fd log) :
    disk.WroteSecondary fd log' := by
  obtain ⟨header, pentries, len, hheader, hlength, hpentries, hsize⟩ := h
  exact ⟨header, pentries, len, hsub hheader, hlength, hsub hpentries, hsize⟩

theorem secondaryFirst_nil (hsigned : slice (disk.header .PRIMARY_GPT) 0 GPT_SIGNATURE.length = GPT_SIGNATURE) :
    disk.SecondaryFirst fd [] := by
  intro done hdone hsignature
  rw [List.prefix_nil.mp hdone] at hsignature
  exact absurd hsigned hsignature

/-- What follows a log in which the secondary copy has been written may do as it likes. -/
theorem Disk.SecondaryFirst.append (hfirst : disk.SecondaryFirst fd events) (hwrote : disk.WroteSecondary fd events)
    (rest : List Event) : disk.SecondaryFirst fd (events ++ rest) := by
  intro done hdone hsignature
  rcases List.prefix_or_prefix_of_prefix hdone (List.prefix_append events rest) with hearly | hlate
  · exact hfirst done hearly hsignature
  · exact Disk.WroteSecondary.mono hlate.subset hwrote

/-- The switches of the boot LUN leave the devices alone. -/
theorem replay_luns {luns : List Event} (hluns : ∀ event ∈ luns, ∃ id, event = .boot_lun id) :
    replay fd disk luns = disk := by
  induction luns with
  | nil => rfl
  | cons event luns ih =>
    rw [List.forall_mem_cons] at hluns
    obtain ⟨⟨id, rfl⟩, hrest⟩ := hluns
    exact ih hrest

theorem Disk.SecondaryFirst.after_luns {luns : List Event} (hluns : ∀ event ∈ luns, ∃ id, event = .boot_lun id)
    (hsigned : slice (disk.header .PRIMARY_GPT) 0 GPT_SIGNATURE.length = GPT_SIGNATURE)
    (hfirst : disk.SecondaryFirst fd events) : disk.SecondaryFirst fd (luns ++ events) := by
  intro done hdone hsignature
  rcases List.prefix_or_prefix_of_prefix hdone (List.prefix_append luns events) with hearly | ⟨rest, rfl⟩
  · rw [replay_luns fun event hevent => hluns event (hearly.subset hevent)] at hsignature
    exact absurd hsigned hsignature
  · rw [List.prefix_append_right_inj] at hdone
    rw [replay_append, replay_luns hluns] at hsignature
    exact Disk.WroteSecondary.mono (List.subset_append_right luns rest) (hfirst rest hdone hsignature)

section headers

variable (hprimary : disk.HoldsHeader .PRIMARY_GPT)

include hprimary

/-- Also where the two headers overlap, the new secondary one leaves the primary signature. -/
theorem signature_chainHeader (crc : Buffer → UInt32) (pentries' : Buffer) :
    slice ((disk.write (disk.headerOffset .SECONDARY_GPT)
      (chainHeader crc (disk.header .SECONDARY_GPT) pentries')).header .PRIMARY_GPT) 0 GPT_SIGNATURE.length =
    slice (disk.header .PRIMARY_GPT) 0 GPT_SIGNATURE.length := by
  have hblk := hprimary.blk_size
  have hroom := hprimary.room
  have hsignature : GPT_SIGNATURE.length = 9 := rfl
  simp only [Disk.headerOffset] at hroom
  have hkept {j : Nat} (hj : j < 9) : (chainHeader crc (disk.header .SECONDARY_GPT) pentries')[j]? =
      disk.bytes[disk.bytes.length - disk.blk_size + j]? := by
    rw [chainHeader, reseal, setField, getElem?_patch_outside _ (.inl (by simp only [HEADER_CRC_OFFSET]; omega)),
      recordArray, setField, getElem?_patch_outside _ (.inl (by simp only [PARTITION_CRC_OFFSET]; omega)),
      Disk.header, Disk.read, getElem?_slice, if_pos (by omega), Disk.headerOffset]
  generalize chainHeader crc (disk.header .SECONDARY_GPT) pentries' = header at hkept
  apply List.ext_getElem?
  intro i
  simp only [Disk.header, Disk.read, getElem?_slice, Disk.write_blk_size, Disk.write_bytes, hsignature, Nat.zero_add,
    Disk.headerOffset]
  by_cases hi : i < 9
  swap
  · rw [if_neg hi, if_neg hi]
  rw [if_pos hi, if_pos hi, if_pos (by omega), if_pos (by omega), getElem?_patch]
  by_cases hinside : disk.bytes.length - disk.blk_size ≤ disk.blk_size + i
  swap
  · rw [if_neg (by omega)]
  -- the byte lies in both blocks, and among the first nine of the secondary one
  split
  · rw [hkept (by omega)]
    congr 1
    omega
  · rfl

theorem secondaryFirst_header (hsigned : slice (disk.header .PRIMARY_GPT) 0 GPT_SIGNATURE.length = GPT_SIGNATURE)
    (pentries' : Buffer) :
    disk.SecondaryFirst fd [.write fd (disk.headerOffset .SECONDARY_GPT) disk.blk_size
      (chainHeader env.crc32 (disk.header .SECONDARY_GPT) pentries')] := by
  intro done hdone hsignature
  refine absurd ?_ hsignature
  rcases List.prefix_concat_iff.mp (show done <+: [] ++ [_] from hdone) with rfl | hnone
  · rw [List.nil_append, replay_cons, replay_nil, onDisk_write_self, signature_chainHeader hprimary,
      hsigned]
  · rw [List.prefix_nil.mp hnone]
    exact hsigned

end headers

/-- A write that begins on the device has an effect as far as the device reaches, or fails. -/
theorem blk_rw_write_cases (hio : env.FullOrFail) (hdisk : w.disks fd = some disk) {offset len : Nat} {buf : Buffer}
    (hoffset : offset ≤ disk.bytes.length) (hlen : buf.length = len) :
    (∃ w', blk_rw env fd true offset buf len w = .ok (0, buf) w' ∧
      w.After [.write fd offset len (buf.take (min len (disk.bytes.length - offset)))] w') ∨
    ∃ w', blk_rw env fd true offset buf len w = .ok (-1, buf) w' ∧ w.After [] w' := by
  have hfits : ¬ buf.length < len := by omega
  rcases hio w.transfers with herror | hfull
  · have hwrite : write env fd offset buf len w = .ok (-1) (w.transferred len none) := by
      simp only [write, if_neg hfits, hdisk, herror, Transfer.moved]
    exact .inr ⟨_, blk_rw_of_write hdisk hoffset hwrite, .transferred w len none⟩
  · have hwrite : write env fd offset buf len w = .ok (min len (disk.bytes.length - offset) : Nat)
        ((w.transferred len (some (min len (disk.bytes.length - offset)))).record
          (.write fd offset len (buf.take (min len (disk.bytes.length - offset))))) := by
      simp only [write, if_neg hfits, hdisk, hfull, Transfer.moved]
    have hrun := blk_rw_of_write hdisk hoffset hwrite
    rw [if_neg (by omega)] at hrun
    exact .inl ⟨_, hrun, (World.After.transferred w len _).trans (.record _ _)⟩

theorem memcpy_yields (dst : Buffer) (ptr : Nat) (src : Buffer) :
    Yields (memcpy dst ptr src) (·.length = dst.length) := by
  intro buf hbuf
  unfold memcpy at hbuf
  split at hbuf
  · cases hbuf
    exact length_patch _ _ _
  · cases hbuf

/-- The exchange keeps the size of the array. -/
theorem gpt_boot_chain_swap_yields (env : Env) (pentries : Buffer) (pentries_end pentry_size : Nat) :
    Yields (gpt_boot_chain_swap env pentries pentries_end pentry_size) (·.2.length = pentries.length) := by
  refine Yields.foldlM (fun state ptn_name hstate => ?_) PTN_SWAP_LIST rfl
  unfold gpt_boot_chain_swap.turn
  obtain ⟨flag, pentries'⟩ := state
  simp only []
  split
  · exact .pure hstate
  refine (Yields.trivial _).bind fun ptn_entry _ => ?_
  cases ptn_entry with
  | none => exact .pure hstate
  | some ptn_entry => ?_
  refine (Yields.trivial _).bind fun ptn_bak_entry _ => ?_
  cases ptn_bak_entry with
  | none => exact .pure hstate
  | some ptn_bak_entry => ?_
  refine (Yields.trivial _).bind fun ptn_swap _ => (Yields.trivial _).bind fun ptn_bak _ => ?_
  refine (memcpy_yields _ _ _).bind fun copied hcopied => ?_
  refine (memcpy_yields _ _ _).bind fun swapped hswapped => .pure ?_
  exact hswapped.trans (hcopied.trans hstate)

/-- The steps that lead to the exchange have no lasting effect, granted or not. -/
theorem after_chainReads {w' : World} {granted : Bool} (hexec : env.steps.exec (chainReads disk) w = (w', granted)) :
    w.After [] w' := by
  have hafter := exec_after env (chainReads disk) w
  have hsilent := effect_isPrefix env (chainReads disk) w
  rw [chainReads_events, List.prefix_nil] at hsilent
  rw [hsilent, hexec] at hafter
  exact hafter

section chain

variable (hio : env.FullOrFail) (hdisk : w.disks fd = some disk) (hprimary : disk.HoldsHeader .PRIMARY_GPT)
  (hsecondary : disk.HoldsHeader .SECONDARY_GPT) (hcopies : ∀ gpt, disk.ValidCopy env.crc32 gpt)

include hsecondary hcopies in
/-- The array that is written for a pair covers the one that the secondary header describes. -/
theorem wroteSecondary_writes (hcovered : disk.SecondaryCovered) {pentries' : Buffer}
    (hlength' : pentries'.length = disk.pentriesSize .PRIMARY_GPT) :
    disk.WroteSecondary fd [.write fd (disk.headerOffset .SECONDARY_GPT) disk.blk_size
        (chainHeader env.crc32 (disk.header .SECONDARY_GPT) pentries'),
      .write fd (disk.pentriesOffset .SECONDARY_GPT) (disk.pentriesSize .PRIMARY_GPT)
        (pentries'.take (min (disk.pentriesSize .PRIMARY_GPT)
          (disk.bytes.length - disk.pentriesOffset .SECONDARY_GPT)))] := by
  have hlayout := sameLayout_chainHeader env.crc32 (disk.header .SECONDARY_GPT) pentries'
  have hroom := (hcopies .SECONDARY_GPT).room
  have hsmall : disk.pentriesSize .PRIMARY_GPT < 2 ^ 32 := Nat.mod_lt _ (by decide)
  have hsize : disk.pentriesSize .SECONDARY_GPT = field (disk.header .SECONDARY_GPT) PARTITION_COUNT_OFFSET 4 *
      field (disk.header .SECONDARY_GPT) PENTRY_SIZE_OFFSET 4 :=
    Nat.mod_eq_of_lt (Nat.lt_of_le_of_lt hcovered hsmall)
  unfold Disk.SecondaryCovered at hcovered
  refine ⟨_, pentries'.take (min (disk.pentriesSize .PRIMARY_GPT)
    (disk.bytes.length - disk.pentriesOffset .SECONDARY_GPT)), disk.pentriesSize .PRIMARY_GPT,
    List.mem_cons_self, ?_, List.mem_cons_of_mem _ ?_, ?_⟩
  · rw [chainHeader, length_reseal, length_recordArray, Disk.length_header hsecondary]
  · rw [hlayout.lba]
    exact List.mem_cons_self
  · rw [hlayout.count, hlayout.pentry_size, List.length_take]
    omega

include hio hdisk hprimary hsecondary hcopies

/-- `gpt2_set_boot_chain` writes the secondary header, then its array, or less; and it returns 0
    only after it has written both. -/
theorem write_back_secondaryFirst (hcovered : disk.SecondaryCovered) {pentries' : Buffer}
    (hlength' : pentries'.length = disk.pentriesSize .PRIMARY_GPT) :
    Returns (gpt2_set_boot_chain.write_back env fd (chainUpdate env.crc32 disk pentries')) w fun r w' =>
      ∃ events, w.After events w' ∧ disk.SecondaryFirst fd events ∧ (r = 0 → disk.WroteSecondary fd events) := by
  have hsigned := ((headerState_eq_ok_iff _ _).mp (hcopies .PRIMARY_GPT).state).2
  have hnothing : disk.SecondaryFirst fd [] := secondaryFirst_nil hsigned
  have hheader := @secondaryFirst_header env fd disk hprimary hsigned pentries'
  have hlength : (chainHeader env.crc32 (disk.header .SECONDARY_GPT) pentries').length = disk.blk_size := by
    rw [chainHeader, length_reseal, length_recordArray, Disk.length_header hsecondary]
  have hroom := hsecondary.room
  have hroom' := (hcopies .SECONDARY_GPT).room
  have hall : (chainHeader env.crc32 (disk.header .SECONDARY_GPT) pentries').take
      (min disk.blk_size (disk.bytes.length - disk.headerOffset .SECONDARY_GPT)) =
        chainHeader env.crc32 (disk.header .SECONDARY_GPT) pentries' :=
    List.take_of_length_le (by omega)
  rcases blk_rw_write_cases hio hdisk (Nat.le_of_add_right_le hroom) hlength with
    ⟨w1, hrun1, hafter1⟩ | ⟨w1, hrun1, hafter1⟩
  swap
  · exact ⟨-1, w1, run_bind_ok hrun1, [], hafter1, hnothing, by simp⟩
  rw [hall] at hafter1
  have hdisk1 := hafter1.disk hdisk
  have hoffset : disk.pentriesOffset .SECONDARY_GPT ≤
      (replay fd disk [.write fd (disk.headerOffset .SECONDARY_GPT) disk.blk_size
        (chainHeader env.crc32 (disk.header .SECONDARY_GPT) pentries')]).bytes.length := by
    rw [length_replay]
    omega
  rcases blk_rw_write_cases hio hdisk1 hoffset hlength' with ⟨w2, hrun2, hafter2⟩ | ⟨w2, hrun2, hafter2⟩
  · rw [length_replay] at hafter2
    have hwrote := @wroteSecondary_writes env fd disk hsecondary hcopies hcovered pentries' hlength'
    refine ⟨0, w2, (run_bind_ok hrun1).trans (run_bind_ok hrun2), _, hafter1.trans hafter2, ?_, fun _ => hwrote⟩
    intro done hdone hsignature
    rcases List.prefix_concat_iff.mp (show done <+: [_] ++ [_] from hdone) with rfl | hearly
    · exact hwrote
    · exact hheader done hearly hsignature
  · exact ⟨-1, w2, (run_bind_ok hrun1).trans (run_bind_ok hrun2), _, hafter1.trans hafter2, hheader, by simp⟩

/-- The chain is switched in the secondary copy alone, so the primary signature stays; 0 is returned
    only after the whole secondary copy has been written. -/
theorem gpt2_set_boot_chain_secondaryFirst (hcovered : disk.Exchanges env → disk.SecondaryCovered) :
    ∃ events, w.After events (endState (gpt2_set_boot_chain env fd .BACKUP_BOOT w)) ∧
      disk.SecondaryFirst fd events ∧
      ∀ w', gpt2_set_boot_chain env fd .BACKUP_BOOT w = .ok 0 w' → disk.WroteSecondary fd events := by
  have hsigned := ((headerState_eq_ok_iff _ _).mp (hcopies .PRIMARY_GPT).state).2
  have hnothing : disk.SecondaryFirst fd [] := secondaryFirst_nil hsigned
  rcases modify_reaches hio hdisk hprimary hsecondary (hcopies .PRIMARY_GPT).room (hcopies .PRIMARY_GPT).pentries_crc
    .BACKUP_BOOT with ⟨w1, hexec, hrun⟩ | ⟨a, w1, hexec, hrun, rfl⟩
  swap
  · have hchain : gpt2_set_boot_chain env fd .BACKUP_BOOT w = .ok (-1) w1 := run_bind_ok hrun
    rw [hchain]
    exact ⟨[], after_chainReads hexec, hnothing, fun w' h => by cases h⟩
  have hafter := after_chainReads hexec
  cases hexchange : gpt2_set_boot_chain.exchange env (disk.pentries .PRIMARY_GPT) (disk.pentriesSize .PRIMARY_GPT)
    (field (disk.header .PRIMARY_GPT) PENTRY_SIZE_OFFSET 4) .BACKUP_BOOT with
  | error fault =>
    have hfault : gpt2_set_boot_chain env fd .BACKUP_BOOT w = .error fault w1 := by
      refine run_bind_error (hrun.trans ?_)
      rw [gpt2_set_boot_chain.exchanged, hexchange]
      rfl
    rw [hfault]
    exact ⟨[], hafter, hnothing, fun w' h => by cases h⟩
  | ok exchanged =>
    obtain ⟨r, pentries'⟩ := exchanged
    have hlength' : pentries'.length = disk.pentriesSize .PRIMARY_GPT :=
      (gpt_boot_chain_swap_yields env _ _ _ _ hexchange).trans (length_slice_of_le (hcopies .PRIMARY_GPT).room)
    rw [exchanged_eq hsecondary hexchange hlength'] at hrun
    by_cases hr : r = 0
    · rw [if_pos hr] at hrun
      subst hr
      obtain ⟨r, w2, hwrite, events, hafter', hfirst, hwrote⟩ := write_back_secondaryFirst hio
        ((hafter.disk hdisk).trans rfl) hprimary hsecondary hcopies (hcovered ⟨pentries', hexchange⟩) hlength'
      have hchain : gpt2_set_boot_chain env fd .BACKUP_BOOT w = .ok r w2 := (run_bind_ok hrun).trans hwrite
      rw [hchain]
      refine ⟨events, hafter.trans hafter', hfirst, fun w' h => hwrote ?_⟩
      cases h
      rfl
    · rw [if_neg hr] at hrun
      have hchain : gpt2_set_boot_chain env fd .BACKUP_BOOT w = .ok r w1 := run_bind_ok hrun
      rw [hchain]
      refine ⟨[], hafter, hnothing, fun w' h => absurd ?_ hr⟩
      cases h
      rfl

end chain

/-- Whenever the program starts on the device, and also if it faults, the primary header loses its
    signature only once the secondary copy has been written. -/
def Disk.Ordered {A : Type} (fd : String) (disk : Disk) (m : Sys A) : Prop :=
  ∀ w : World, w.disks fd = some disk →
    ∃ events, w.After events (endState (m w)) ∧ disk.SecondaryFirst fd events

/-- A call that failed or did not, and had no lasting effect, comes before. -/
theorem Disk.Ordered.called {A : Type} {m : Sys A} (hm : disk.Ordered fd m) (hdisk : w.disks fd = some disk) :
    ∃ events, w.After events (endState (m w.called)) ∧ disk.SecondaryFirst fd events := by
  obtain ⟨events, hafter, hfirst⟩ := hm w.called hdisk
  exact ⟨events, (World.After.called w).trans hafter, hfirst⟩

section ordered

variable {A B : Type} (hsigned : slice (disk.header .PRIMARY_GPT) 0 GPT_SIGNATURE.length = GPT_SIGNATURE)

include hsigned

theorem ordered_pure (a : A) : disk.Ordered fd (pure a : Sys A) :=
  fun w _ => ⟨[], .refl w, secondaryFirst_nil hsigned⟩

/-- What comes before, and does no more than switch the boot LUN, leaves the order to the rest. -/
theorem ordered_bind {m : Sys A} {f : A → Sys B} (hm : Records (fun event => ∃ id, event = .boot_lun id) m)
    (hf : ∀ a, disk.Ordered fd (f a)) : disk.Ordered fd (m >>= f) := by
  intro w hdisk
  obtain ⟨luns, hafter, hluns⟩ := hm w
  rcases endState_bind m f w with ⟨a, w', hrun, hend⟩ | ⟨fault, w', hrun, hend⟩
  · rw [hrun] at hafter
    have hdisk' := hafter.disk hdisk
    rw [replay_luns hluns] at hdisk'
    obtain ⟨events, hafter', hfirst⟩ := hf a w' hdisk'
    rw [hend]
    exact ⟨luns ++ events, hafter.trans hafter', Disk.SecondaryFirst.after_luns hluns hsigned hfirst⟩
  · rw [hrun] at hafter
    rw [hend]
    refine ⟨luns ++ [], ?_, Disk.SecondaryFirst.after_luns hluns hsigned (secondaryFirst_nil hsigned)⟩
    rw [List.append_nil]
    exact hafter

end ordered

theorem ordered_ite {A : Type} {c : Prop} [Decidable c] {m m' : Sys A} (hm : disk.Ordered fd m)
    (hm' : disk.Ordered fd m') : disk.Ordered fd (if c then m else m') := by
  split
  · exact hm
  · exact hm'

section stage

variable (hio : env.FullOrFail) (hprimary : disk.HoldsHeader .PRIMARY_GPT)
  (hsecondary : disk.HoldsHeader .SECONDARY_GPT) (hcopies : ∀ gpt, disk.ValidCopy env.crc32 gpt)
  (hcovered : disk.Exchanges env → disk.SecondaryCovered)

include hio hprimary hsecondary hcopies hcovered

/-- The primary header is marked only after `gpt2_set_boot_chain` has returned 0. -/
theorem update_main_ordered : disk.Ordered fd (prepare_partitions.update_main env fd) := by
  have hsigned := ((headerState_eq_ok_iff _ _).mp (hcopies .PRIMARY_GPT).state).2
  refine ordered_bind hsigned (switch_boot_lun_records env (fun id => ⟨id, rfl⟩) .BACKUP_BOOT) fun r => ?_
  refine ordered_ite (ordered_pure hsigned r) fun w hdisk => ?_
  obtain ⟨events, hafter, hfirst, hwrote⟩ :=
    gpt2_set_boot_chain_secondaryFirst hio hdisk hprimary hsecondary hcopies hcovered
  cases hrun : gpt2_set_boot_chain env fd .BACKUP_BOOT w with
  | error fault w' =>
    rw [hrun] at hafter
    rw [run_bind_error hrun]
    exact ⟨events, hafter, hfirst⟩
  | ok r w' =>
    rw [hrun] at hafter
    rw [run_bind_ok hrun]
    by_cases hr : r = 0
    · rw [hr] at hrun
      rw [if_neg (not_not.mpr hr)]
      have hmark : Records (fun _ => True) (gpt_set_state env fd .PRIMARY_GPT .GPT_BAD_SIGNATURE) :=
        gpt_set_state_records env (fun _ _ _ _ => trivial) fd _ _
      obtain ⟨marks, hafter', _⟩ := hmark w'
      exact ⟨events ++ marks, hafter.trans hafter', hfirst.append (hwrote w' hrun) marks⟩
    · rw [if_pos hr]
      split <;> exact ⟨events, hafter, hfirst⟩

/-- However far `UPDATE_MAIN` comes from valid copies, the primary header loses its signature only
    after the secondary copy has been written. -/
theorem prepare_partitions_ordered : disk.Ordered fd (prepare_partitions env .UPDATE_MAIN fd) := by
  have hsigned := ((headerState_eq_ok_iff _ _).mp (hcopies .PRIMARY_GPT).state).2
  intro w hdisk
  have hopen : open_device env fd w = .ok (if env.call w.calls ∧ (w.disks fd).isSome then some fd else none) w.called :=
    rfl
  unfold prepare_partitions
  rw [run_bind_ok hopen]
  by_cases hopened : env.call w.calls ∧ (w.disks fd).isSome
  swap
  · rw [if_neg hopened]
    exact ⟨[], .called w, secondaryFirst_nil hsigned⟩
  rw [if_pos hopened]
  refine Disk.Ordered.called ?_ hdisk
  refine ordered_bind hsigned (gpt_get_state_records env fd .PRIMARY_GPT) fun ⟨r, gpt_prim⟩ => ?_
  refine ordered_ite (ordered_pure hsigned _) ?_
  refine ordered_bind hsigned (gpt_get_state_records env fd .SECONDARY_GPT) fun ⟨r, gpt_second⟩ => ?_
  refine ordered_ite (ordered_pure hsigned _) ?_
  refine ordered_ite (ordered_pure hsigned _) (ordered_ite (ordered_pure hsigned _) ?_)
  cases prepare_partitions.internal_stage gpt_prim gpt_second with
  | none => exact ordered_pure hsigned _
  | some internal_stage =>
    refine ordered_ite (ordered_pure hsigned _) (ordered_ite (ordered_pure hsigned _) ?_)
    exact update_main_ordered hio hprimary hsecondary hcopies hcovered

end stage

end gpt_utils
