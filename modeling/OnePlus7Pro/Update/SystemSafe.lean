import OnePlus7Pro.Update.Frame
import OnePlus7Pro.Update.Reissue

open regions effects twins

namespace gpt_utils

/-- The devices that `prepare_boot_update` works on. -/
def Env.targets (env : Env) : List String :=
  if !gpt_utils_is_ufs_device env then [BLK_DEV_FILE]
  else ((prepare_boot_update.data env).toOption.map update_data.lun_list).getD []

/-- A sequence of update requests. -/
def prepare_boots (env : Env) (stages : List boot_update_stage) : Sys (List Int) :=
  stages.mapM (prepare_boot_update env)

/-- The devices after a log of events. -/
def replayAll (disks : String → Option Disk) (log : List Event) : String → Option Disk :=
  fun fd => (disks fd).map fun disk => replay fd disk log

/-- What the devices can be left with. In each session requests are made in any order for some
    of the targets, and the session may be stopped between any two writes. -/
inductive Left (crc : Buffer → UInt32) (targets : List String) (disks : String → Option Disk) :
    (String → Option Disk) → Prop where
  | start : Left crc targets disks disks
  | session {before : String → Option Disk} {env : Env} {w w' : World} {stages : List boot_update_stage}
      {results : List Int} {events done : List Event} (hbefore : Left crc targets disks before)
      (hcrc : env.crc32 = crc) (hio : env.FullOrFail) (htargets : env.targets ⊆ targets)
      (hdisks : w.disks = before) (hrun : prepare_boots env stages w = .ok results w')
      (hlog : w'.log = w.log ++ events) (hdone : done <+: events) :
      Left crc targets disks (replayAll before done)

/-- Each of the targets keeps its tables safe, and no other device is changed. -/
structure SystemKeeps (crc : Buffer → UInt32) (targets : List String) (disks now : String → Option Disk) :
    Prop where
  kept : ∀ fd ∈ targets, ∃ disk moment, disks fd = some disk ∧ now fd = some moment ∧ disk.WellFormed crc ∧
    disk.Keeps crc moment
  others : ∀ fd, fd ∉ targets → now fd = disks fd

/-- All the moments between two states of the machine keep the devices. -/
def MomentsKeep (crc : Buffer → UInt32) (targets : List String) (disks : String → Option Disk) (w w' : World) :
    Prop :=
  ∃ events, w.After events w' ∧ ∀ done, done <+: events → SystemKeeps crc targets disks (replayAll w.disks done)

variable {env : Env} {targets : List String} {disks : String → Option Disk} {w w' w'' : World} {fd : String}
  {crc : Buffer → UInt32}

theorem replayAll_nil (disks : String → Option Disk) : replayAll disks [] = disks := by
  funext fd
  rw [replayAll]
  cases disks fd <;> rfl

theorem replayAll_append (disks : String → Option Disk) (log log' : List Event) :
    replayAll disks (log ++ log') = replayAll (replayAll disks log) log' := by
  funext fd
  rw [replayAll, replayAll, replayAll, Option.map_map]
  congr 1
  funext disk
  exact replay_append fd disk log log'

theorem World.After.replayAll {events : List Event} (h : w.After events w') :
    w'.disks = gpt_utils.replayAll w.disks events := funext h.disks

theorem MomentsKeep.refl (hkeeps : SystemKeeps crc targets disks w.disks) : MomentsKeep crc targets disks w w := by
  refine ⟨[], World.After.refl w, fun done hdone => ?_⟩
  rw [List.prefix_nil.mp hdone, replayAll_nil]
  exact hkeeps

theorem MomentsKeep.trans (h : MomentsKeep crc targets disks w w') (h' : MomentsKeep crc targets disks w' w'') :
    MomentsKeep crc targets disks w w'' := by
  obtain ⟨events, hafter, hmoments⟩ := h
  obtain ⟨events', hafter', hmoments'⟩ := h'
  refine ⟨events ++ events', hafter.trans hafter', fun done hdone => ?_⟩
  rcases List.prefix_or_prefix_of_prefix hdone (List.prefix_append events events') with hearly | ⟨rest, rfl⟩
  · exact hmoments done hearly
  · rw [replayAll_append, ← hafter.replayAll]
    exact hmoments' rest ((List.prefix_append_right_inj events).mp hdone)

theorem MomentsKeep.finish (h : MomentsKeep crc targets disks w w') : SystemKeeps crc targets disks w'.disks := by
  obtain ⟨events, hafter, hmoments⟩ := h
  rw [hafter.replayAll]
  exact hmoments events (List.prefix_refl events)

/-- A call for one of the targets keeps the devices at all of its moments. -/
theorem prepare_partitions_system (hio : env.FullOrFail) (htarget : fd ∈ targets)
    (hkeeps : SystemKeeps env.crc32 targets disks w.disks) (stage : boot_update_stage) :
    Returns (prepare_partitions env stage fd) w fun _ w' => MomentsKeep env.crc32 targets disks w w' := by
  obtain ⟨disk, moment, hstart, hdisk, hwf, hkept⟩ := hkeeps.kept fd htarget
  have hmoments := prepare_partitions_keeps hio hwf.toValid hdisk hkept stage
  obtain ⟨copies, -, hfits, hmoment⟩ := hkept
  obtain ⟨r, w', hrun, events, hafter, htargets⟩ :=
    prepare_partitions_targets hio hwf.toValid hfits (hmoment ▸ hdisk) stage
  obtain ⟨events', hafter', hdone⟩ := Returns.of_run hmoments hrun
  obtain rfl : events' = events := List.append_cancel_left (hafter'.log.symm.trans hafter.log)
  refine ⟨r, w', hrun, events', hafter, fun done htaken => ⟨fun other hother => ?_, fun other hother => ?_⟩⟩
  · by_cases hsame : other = fd
    · subst hsame
      refine ⟨disk, _, hstart, ?_, hwf, hdone done htaken⟩
      rw [replayAll, hdisk]
      rfl
    · obtain ⟨disk', moment', hstart', hdisk', hwf', hkept'⟩ := hkeeps.kept other hother
      refine ⟨disk', moment', hstart', ?_, hwf', hkept'⟩
      rw [replayAll, hdisk', Option.map_some]
      exact congrArg some (replay_of_targets (fun event h => htargets event (htaken.subset h)) hsame moment')
  · have hsame : other ≠ fd := fun h => hother (h ▸ htarget)
    rw [← hkeeps.others other hother, replayAll]
    cases w.disks other with
    | none => rfl
    | some device =>
      exact congrArg some (replay_of_targets (fun event h => htargets event (htaken.subset h)) hsame device)

theorem turns_system (hio : env.FullOrFail) (stage : boot_update_stage) {luns : List String}
    (hluns : luns ⊆ targets) (hkeeps : SystemKeeps env.crc32 targets disks w.disks) (is_error : Bool) :
    Returns (luns.foldlM (prepare_boot_update.turn env stage) is_error) w fun _ w' =>
      MomentsKeep env.crc32 targets disks w w' := by
  induction luns generalizing w is_error with
  | nil => exact .pure (.refl hkeeps)
  | cons lun luns ih =>
    rw [List.cons_subset] at hluns
    rw [List.foldlM_cons]
    have hturn : Returns (prepare_boot_update.turn env stage is_error lun) w fun _ w' =>
        MomentsKeep env.crc32 targets disks w w' := by
      rw [prepare_boot_update.turn]
      refine (prepare_partitions_system hio hluns.1 hkeeps stage).bind fun r w' hmoments => ?_
      split
      · exact .pure hmoments
      · exact .pure hmoments
    refine hturn.bind fun is_error' w' hmoments => ?_
    exact (ih hluns.2 hmoments.finish is_error').mono fun _ w'' hrest => hmoments.trans hrest

theorem prepare_boot_update_system (hio : env.FullOrFail) (htargets : env.targets ⊆ targets)
    (hkeeps : SystemKeeps env.crc32 targets disks w.disks) (stage : boot_update_stage) :
    Returns (prepare_boot_update env stage) w fun _ w' => MomentsKeep env.crc32 targets disks w w' := by
  rw [Env.targets] at htargets
  rw [prepare_boot_update]
  split
  next hemmc =>
    rw [if_pos hemmc] at htargets
    exact prepare_partitions_system hio (htargets (List.mem_singleton_self BLK_DEV_FILE)) hkeeps stage
  next hufs =>
    obtain ⟨data, hdata, -⟩ := data_distinct env
    rw [if_neg hufs, hdata] at htargets
    rw [hdata, mem_ok_bind]
    refine (turns_system hio stage htargets hkeeps false).bind fun is_error w' hmoments => ?_
    split
    · exact .pure hmoments
    · exact .pure hmoments

theorem prepare_boots_system (hio : env.FullOrFail) (htargets : env.targets ⊆ targets)
    (hkeeps : SystemKeeps env.crc32 targets disks w.disks) (stages : List boot_update_stage) :
    Returns (prepare_boots env stages) w fun _ w' => MomentsKeep env.crc32 targets disks w w' :=
  Returns.mapM (I := MomentsKeep env.crc32 targets disks w)
    (fun stage _ hmoments => (prepare_boot_update_system hio htargets hmoments.finish stage).mono
      fun _ _ hrest => hmoments.trans hrest) stages (.refl hkeeps)

theorem systemKeeps_start (hwf : ∀ fd ∈ targets, ∃ disk, disks fd = some disk ∧ disk.WellFormed crc) :
    SystemKeeps crc targets disks disks where
  kept fd hfd := by
    obtain ⟨disk, hdisk, hwf⟩ := hwf fd hfd
    exact ⟨disk, disk, hdisk, hdisk, hwf, keeps_self hwf⟩
  others _ _ := rfl

theorem Left.keeps (hwf : ∀ fd ∈ targets, ∃ disk, disks fd = some disk ∧ disk.WellFormed crc)
    {now : String → Option Disk} (h : Left crc targets disks now) : SystemKeeps crc targets disks now := by
  induction h with
  | start => exact systemKeeps_start hwf
  | session _ hcrc hio htargets hdisks hrun hlog hdone ih =>
    subst hcrc hdisks
    obtain ⟨events', hafter, hmoments⟩ := Returns.of_run (prepare_boots_system hio htargets ih _) hrun
    have hsame : events' = _ := List.append_cancel_left (hafter.log.symm.trans hlog)
    exact hmoments _ (hsame ▸ hdone)

/-- One of the two copies of the table is completely valid, the primary entry array is what it
    was, and so is everything outside the area of an update. -/
structure Disk.Survives (crc : Buffer → UInt32) (disk moment : Disk) : Prop where
  copy : moment.ValidCopy crc .PRIMARY_GPT ∨ moment.ValidCopy crc .SECONDARY_GPT
  entries : moment.read (disk.pentriesOffset .PRIMARY_GPT) (disk.pentriesSize .PRIMARY_GPT) =
    disk.pentries .PRIMARY_GPT
  blk_size : moment.blk_size = disk.blk_size
  size : moment.bytes.length = disk.bytes.length
  area : ∀ i, ¬ disk.UpdateArea i → moment.bytes[i]? = disk.bytes[i]?

theorem Disk.Keeps.survives {disk moment : Disk} (hwf : disk.WellFormed crc) (hkeeps : disk.Keeps crc moment) :
    disk.Survives crc moment := by
  obtain ⟨hcopy, hentries⟩ := hkeeps.valid hwf.toValid
  obtain ⟨copies, -, hfits, rfl⟩ := hkeeps
  exact ⟨hcopy, hentries, rfl, length_holding _ _ _, fun i houtside => getElem?_holding hwf.toValid hfits houtside⟩

/-- Whatever updates are requested of a machine whose targets are well-formed, in any number of
    sessions, and wherever these are stopped: every target has survived, no other device is
    changed, and the next session returns. -/
theorem boot_update_fail_safe (hwf : ∀ fd ∈ targets, ∃ disk, disks fd = some disk ∧ disk.WellFormed crc)
    {now : String → Option Disk} (h : Left crc targets disks now) :
    (∀ fd ∈ targets, ∃ disk moment, disks fd = some disk ∧ now fd = some moment ∧ disk.Survives crc moment) ∧
    (∀ fd, fd ∉ targets → now fd = disks fd) ∧
    ∀ (env : Env) (w : World) (stages : List boot_update_stage), env.crc32 = crc → env.FullOrFail →
      env.targets ⊆ targets → w.disks = now → Returns (prepare_boots env stages) w fun _ _ => True := by
  have hkeeps := h.keeps hwf
  refine ⟨fun fd hfd => ?_, hkeeps.others, fun env w stages hcrc hio htargets hdisks => ?_⟩
  · obtain ⟨disk, moment, hstart, hmoment, hwf, hkept⟩ := hkeeps.kept fd hfd
    exact ⟨disk, moment, hstart, hmoment, hkept.survives hwf⟩
  · subst hcrc hdisks
    exact (prepare_boots_system hio htargets hkeeps stages).mono fun _ _ _ => trivial

theorem ufs_targets : ufs.targets = ["/dev/block/sdb", "/dev/block/sde"] := by
  obtain ⟨data, hdata, hluns⟩ := ufs_luns
  have hufs : gpt_utils_is_ufs_device ufs = true := by decide +kernel
  rw [Env.targets, hufs, hdata]
  exact hluns

theorem twoLuns_wellFormed : ∀ fd ∈ ufs.targets,
    ∃ disk, (twoLuns pairedDisk pairedDisk).disks fd = some disk ∧ disk.WellFormed ufs.crc32 := by
  have hwf : pairedDisk.WellFormed ufs.crc32 := pairedDisk_wellFormed
  rw [ufs_targets]
  simpa [twoLuns] using hwf

/-- A session of `UPDATE_MAIN` is stopped after some of its writes. -/
theorem left_update_main : ∃ now, Left ufs.crc32 ufs.targets (twoLuns pairedDisk pairedDisk).disks now := by
  obtain ⟨results, w', hrun, events, hafter, -⟩ := prepare_boots_system ufs_working.fullOrFail
    (List.Subset.refl ufs.targets) (systemKeeps_start twoLuns_wellFormed) [.UPDATE_MAIN]
  exact ⟨_, .session .start rfl ufs_working.fullOrFail (List.Subset.refl _) rfl hrun hafter.log
    (List.take_prefix 3 events)⟩

theorem boot_update_fail_safe_twoLuns : ∃ now, Left ufs.crc32 ufs.targets (twoLuns pairedDisk pairedDisk).disks now ∧
    (∀ fd ∈ ufs.targets, ∃ disk moment, (twoLuns pairedDisk pairedDisk).disks fd = some disk ∧
      now fd = some moment ∧ disk.Survives ufs.crc32 moment) ∧
    (∀ fd, fd ∉ ufs.targets → now fd = (twoLuns pairedDisk pairedDisk).disks fd) ∧
    ∀ (env : Env) (w : World) (stages : List boot_update_stage), env.crc32 = ufs.crc32 → env.FullOrFail →
      env.targets ⊆ ufs.targets → w.disks = now → Returns (prepare_boots env stages) w fun _ _ => True := by
  obtain ⟨now, hleft⟩ := left_update_main
  exact ⟨now, hleft, boot_update_fail_safe twoLuns_wellFormed hleft⟩

end gpt_utils
