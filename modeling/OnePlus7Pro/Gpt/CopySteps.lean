import OnePlus7Pro.Gpt.ActSteps
import OnePlus7Pro.Gpt.ChainSwap

open regions effects twins

namespace gpt_utils

/-- The pairs of entries of the primary array that `gpt_boot_chain_swap` handles. -/
def Disk.handledPairs (env : Env) (disk : Disk) : List (Nat × Nat) :=
  gpt_utils.handledPairs env (disk.pentries .PRIMARY_GPT) (field (disk.header .PRIMARY_GPT) PENTRY_SIZE_OFFSET 4)
    (field (disk.header .PRIMARY_GPT) PARTITION_COUNT_OFFSET 4)

/-- The primary array as `gpt_boot_chain_swap` leaves it. -/
def Disk.backupPentries (env : Env) (disk : Disk) : Buffer :=
  match gpt_boot_chain_swap env (disk.pentries .PRIMARY_GPT) (disk.pentriesSize .PRIMARY_GPT)
      (field (disk.header .PRIMARY_GPT) PENTRY_SIZE_OFFSET 4) with
  | .ok (_, pentries) => pentries
  | .error _ => disk.pentries .PRIMARY_GPT

/-- The array with the given boot chain. -/
def Disk.chainPentries (env : Env) (disk : Disk) : boot_chain → Buffer
  | .NORMAL_BOOT => disk.pentries .PRIMARY_GPT
  | .BACKUP_BOOT => disk.backupPentries env

section arrays

variable {env : Env} {disk : Disk}

/-- The product of count and entry size does not wrap around. -/
theorem Disk.Valid.pentriesSize_product {crc : Buffer → UInt32} (hvalid : disk.Valid crc) :
    disk.pentriesSize .PRIMARY_GPT = field (disk.header .PRIMARY_GPT) PARTITION_COUNT_OFFSET 4 *
      field (disk.header .PRIMARY_GPT) PENTRY_SIZE_OFFSET 4 :=
  Nat.mod_eq_of_lt hvalid.product_lt

private theorem backupPentries_run (hvalid : disk.Valid env.crc32) :
    gpt_boot_chain_swap env (disk.pentries .PRIMARY_GPT) (disk.pentriesSize .PRIMARY_GPT)
        (field (disk.header .PRIMARY_GPT) PENTRY_SIZE_OFFSET 4) =
      .ok (if disk.handledPairs env = [] then 1 else 0, disk.backupPentries env) ∧
    ChainSwapped env (field (disk.header .PRIMARY_GPT) PENTRY_SIZE_OFFSET 4)
      (field (disk.header .PRIMARY_GPT) PARTITION_COUNT_OFFSET 4) (disk.pentries .PRIMARY_GPT)
      (disk.backupPentries env) := by
  obtain ⟨pentries', hrun, hswapped, _⟩ := gpt_boot_chain_swap_spec env hvalid.pentry_size
    ((hvalid.length_pentries .PRIMARY_GPT).trans hvalid.pentriesSize_product)
  rw [← hvalid.pentriesSize_product] at hrun
  have hbackup : disk.backupPentries env = pentries' := by rw [Disk.backupPentries, hrun]
  rw [hbackup]
  exact ⟨hrun, hswapped⟩

/-- The array of the backup boot chain is the primary one with the handled pairs exchanged. -/
theorem chainSwapped_backupPentries (hvalid : disk.Valid env.crc32) :
    ChainSwapped env (field (disk.header .PRIMARY_GPT) PENTRY_SIZE_OFFSET 4)
      (field (disk.header .PRIMARY_GPT) PARTITION_COUNT_OFFSET 4) (disk.pentries .PRIMARY_GPT)
      (disk.backupPentries env) :=
  (backupPentries_run hvalid).2

theorem fits_chainPentries (hvalid : disk.Valid env.crc32) (chain : boot_chain) :
    disk.Fits (disk.chainPentries env chain) := by
  cases chain with
  | NORMAL_BOOT => exact hvalid.length_pentries _
  | BACKUP_BOOT => exact (chainSwapped_backupPentries hvalid).length_eq.trans (hvalid.length_pentries _)

/-- There is nothing to exchange in an array without handled pairs. -/
def Disk.NothingToDo (env : Env) (disk : Disk) (chain : boot_chain) : Prop :=
  chain = .BACKUP_BOOT ∧ disk.handledPairs env = []

instance (env : Env) (disk : Disk) (chain : boot_chain) : Decidable (disk.NothingToDo env chain) :=
  inferInstanceAs (Decidable (_ ∧ _))

theorem exchange_eq (hvalid : disk.Valid env.crc32) (chain : boot_chain) :
    gpt2_set_boot_chain.exchange env (disk.pentries .PRIMARY_GPT) (disk.pentriesSize .PRIMARY_GPT)
        (field (disk.header .PRIMARY_GPT) PENTRY_SIZE_OFFSET 4) chain =
      .ok (if disk.NothingToDo env chain then 1 else 0, disk.chainPentries env chain) := by
  cases chain with
  | NORMAL_BOOT => rfl
  | BACKUP_BOOT =>
    rw [gpt2_set_boot_chain.exchange, (backupPentries_run hvalid).1]
    simp only [Disk.NothingToDo, true_and]
    rfl

end arrays

section copies

variable {env : Env} {w : World} {fd : String} {disk : Disk} {copies : Copies Buffer}

theorem gpt_get_state_copies_follows (hio : env.FullOrFail) (hvalid : disk.Valid env.crc32)
    (hfits : disk.Fits copies.stored) (hdisk : w.disks fd = some (disk.holding env.crc32 copies))
    (gpt : gpt_instance) :
    env.steps.Follows (gpt_get_state env fd gpt) w (readScript disk gpt)
      (0, signature (match gpt with | .PRIMARY_GPT => copies.primary | .SECONDARY_GPT => copies.secondary))
      (·.1 = -1) := by
  have h := gpt_get_state_follows hio hdisk (holdsHeader_holding hvalid hfits gpt)
  cases gpt with
  | PRIMARY_GPT =>
    rw [headerState_holding_primary hvalid hfits] at h
    exact h
  | SECONDARY_GPT =>
    rw [headerState_holding_secondary hvalid hfits] at h
    exact h

theorem signature_ne_bad_crc (good : Bool) : signature good ≠ .GPT_BAD_CRC := by
  cases good <;> decide

theorem gpt_set_state_primary_follows (hio : env.FullOrFail) (hvalid : disk.Valid env.crc32)
    (hfits : disk.Fits copies.stored) (hdisk : w.disks fd = some (disk.holding env.crc32 copies))
    (good : Bool) :
    env.steps.Follows (gpt_set_state env fd .PRIMARY_GPT (signature good)) w
      (readScript disk .PRIMARY_GPT ++ actSteps env.crc32 fd disk copies [.mark_primary good]) 0 (· = -1) := by
  have h := gpt_set_state_follows hio hdisk (holdsHeader_holding hvalid hfits .PRIMARY_GPT) (signature_ne_bad_crc good)
  rw [mark_primary_header hvalid hfits] at h
  exact h

theorem gpt_set_state_secondary_follows (hio : env.FullOrFail) (hvalid : disk.Valid env.crc32)
    (hfits : disk.Fits copies.stored) (hdisk : w.disks fd = some (disk.holding env.crc32 copies))
    (good : Bool) :
    env.steps.Follows (gpt_set_state env fd .SECONDARY_GPT (signature good)) w
      (readScript disk .SECONDARY_GPT ++ actSteps env.crc32 fd disk copies [.mark_secondary good]) 0 (· = -1) := by
  have h := gpt_set_state_follows hio hdisk (holdsHeader_holding hvalid hfits .SECONDARY_GPT)
    (signature_ne_bad_crc good)
  rw [mark_secondary_header hvalid hfits, holding_headerOffset] at h
  exact h

/-- The acts of `gpt2_set_boot_chain`. -/
def chainActs (env : Env) (disk : Disk) (chain : boot_chain) : List (Act Buffer) :=
  if disk.NothingToDo env chain then []
  else [.record (disk.chainPentries env chain), .store (disk.chainPentries env chain)]

theorem exchange_holding (hvalid : disk.Valid env.crc32) (hfits : disk.Fits copies.stored)
    (chain : boot_chain) :
    gpt2_set_boot_chain.exchange env ((disk.holding env.crc32 copies).pentries .PRIMARY_GPT)
        ((disk.holding env.crc32 copies).pentriesSize .PRIMARY_GPT)
        (field ((disk.holding env.crc32 copies).header .PRIMARY_GPT) PENTRY_SIZE_OFFSET 4) chain =
      .ok (if disk.NothingToDo env chain then 1 else 0, disk.chainPentries env chain) := by
  rw [pentries_holding_primary hvalid hfits, pentriesSize_holding hvalid hfits,
    (sameLayout_holding hvalid hfits .PRIMARY_GPT).pentry_size]
  exact exchange_eq hvalid chain

theorem gpt2_set_boot_chain_copies_follows (hio : env.FullOrFail) (hvalid : disk.Valid env.crc32)
    (hfits : disk.Fits copies.stored) (hdisk : w.disks fd = some (disk.holding env.crc32 copies))
    (chain : boot_chain) :
    env.steps.Follows (gpt2_set_boot_chain env fd chain) w
      (chainReads disk ++ actSteps env.crc32 fd disk copies (chainActs env disk chain))
      (if disk.NothingToDo env chain then 1 else 0) (· = -1) := by
  have hsize := pentriesSize_holding hvalid hfits .PRIMARY_GPT
  have h := gpt2_set_boot_chain_follows hio hdisk (readyForChain_holding hvalid hfits)
    (exchange_holding hvalid hfits chain) ((fits_chainPentries hvalid chain).trans hsize.symm)
  refine Steps.Follows.congr _ h ?_
  rw [chainReads, hsize, chainActs]
  by_cases hnothing : disk.NothingToDo env chain
  · rw [if_pos hnothing, if_pos hnothing]
    rfl
  · rw [if_neg hnothing, if_neg hnothing, if_pos rfl, chainWrites, chain_header hvalid hfits,
      holding_headerOffset, pentriesOffset_holding hvalid hfits]
    rfl

end copies

end gpt_utils
