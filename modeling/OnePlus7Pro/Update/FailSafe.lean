import OnePlus7Pro.Update.Cycle

open regions effects twins

namespace gpt_utils

/-- A sequence of update requests for one device. -/
def prepare_all (env : Env) (fd : String) (stages : List boot_update_stage) : Sys (List Int) :=
  stages.mapM fun stage => prepare_partitions env stage fd

/-- The contents that a device can be left with. In each session requests are made in
    any order, and the session may be stopped between any two writes. -/
inductive Persisted (crc : Buffer → UInt32) (fd : String) (disk : Disk) : Disk → Prop where
  | start : Persisted crc fd disk disk
  | session {before moment : Disk} {env : Env} {w w' : World} {stages : List boot_update_stage}
      {results : List Int} {events : List Event} (hbefore : Persisted crc fd disk before)
      (hcrc : env.crc32 = crc) (hio : env.FullOrFail) (hdisk : w.disks fd = some before)
      (hrun : prepare_all env fd stages w = .ok results w') (hlog : w'.log = w.log ++ events)
      (hmoment : moment ∈ moments (fun disk event => event.onDisk fd disk) before events) :
      Persisted crc fd disk moment

/-- The device is the one described by copies of its table that are safe. -/
def Disk.Keeps (crc : Buffer → UInt32) (disk moment : Disk) : Prop :=
  ∃ copies : Copies Buffer, copies.Safe ∧ disk.Fits copies.stored ∧ moment = disk.holding crc copies

variable {crc : Buffer → UInt32} {fd : String} {disk moment : Disk}

theorem keeps_self (hwf : disk.WellFormed crc) : disk.Keeps crc disk :=
  ⟨⟨true, true, disk.pentries .PRIMARY_GPT, disk.pentries .PRIMARY_GPT⟩, .inl rfl, hwf.length_pentries _,
    (holding_intact hwf).symm⟩

/-- A safe description is one of a device with a valid copy and its primary array. -/
theorem Disk.Keeps.valid (hvalid : disk.Valid crc) (hkeeps : disk.Keeps crc moment) :
    (moment.ValidCopy crc .PRIMARY_GPT ∨ moment.ValidCopy crc .SECONDARY_GPT) ∧
      moment.read (disk.pentriesOffset .PRIMARY_GPT) (disk.pentriesSize .PRIMARY_GPT) = disk.pentries .PRIMARY_GPT := by
  obtain ⟨copies, hsafe, hfits, rfl⟩ := hkeeps
  have hroom (gpt : gpt_instance) : (disk.holding crc copies).pentriesOffset gpt +
      (disk.holding crc copies).pentriesSize gpt ≤ (disk.holding crc copies).bytes.length := by
    rw [pentriesOffset_holding hvalid hfits, pentriesSize_holding hvalid hfits, length_holding]
    exact hvalid.room gpt
  constructor
  · rcases hsafe with hprimary | ⟨hsecondary, hrecorded⟩
    · refine .inl ⟨?_, hroom _, (readyForChain_holding hvalid hfits).crc_eq⟩
      rw [headerState_holding_primary hvalid hfits, hprimary]
      rfl
    · refine .inr ⟨?_, hroom _, ?_⟩
      · rw [headerState_holding_secondary hvalid hfits, hsecondary]
        rfl
      · rw [pentries_holding_secondary hvalid hfits, header_holding_secondary hvalid hfits,
          ← hrecorded]
        exact partition_crc_secondaryHeader hvalid copies
  · have h := pentries_holding_primary hvalid hfits
    rwa [Disk.pentries, pentriesOffset_holding hvalid hfits, pentriesSize_holding hvalid hfits] at h

/-- Each request keeps the device safe at all of its moments. -/
theorem prepare_partitions_keeps {env : Env} {w : World} (hio : env.FullOrFail)
    (hvalid : disk.Valid env.crc32) (hdisk : w.disks fd = some moment)
    (hkeeps : disk.Keeps env.crc32 moment) (stage : boot_update_stage) :
    Returns (prepare_partitions env stage fd) w fun _ w' => ∃ events, w.After events w' ∧
      ∀ done, done <+: events → disk.Keeps env.crc32 (replay fd moment done) := by
  obtain ⟨copies, hsafe, hfits, rfl⟩ := hkeeps
  refine (prepare_partitions_moments hio hvalid hfits hdisk stage).mono fun _ w' h => ?_
  obtain ⟨events, hafter, hmoments⟩ := h
  refine ⟨events, hafter, fun done hdone => ?_⟩
  obtain ⟨acts, hacts, hreplay⟩ := hmoments done hdone
  rw [hreplay]
  have hfit := dueActs_fit hvalid copies stage
  exact ⟨_, safe_dueActs hsafe hacts, fits_foldl hfits fun act hact => hfit act (hacts.subset hact), rfl⟩

/-- A session keeps the device safe at all of its moments. -/
theorem prepare_all_keeps {env : Env} {w : World} (hio : env.FullOrFail)
    (hvalid : disk.Valid env.crc32) (hdisk : w.disks fd = some moment)
    (hkeeps : disk.Keeps env.crc32 moment) (stages : List boot_update_stage) :
    Returns (prepare_all env fd stages) w fun _ w' => ∃ events, w.After events w' ∧
      ∀ done, done <+: events → disk.Keeps env.crc32 (replay fd moment done) := by
  refine Returns.mapM (I := fun w' => ∃ events, w.After events w' ∧
    ∀ done, done <+: events → disk.Keeps env.crc32 (replay fd moment done)) (fun stage w1 hw1 => ?_) stages ?_
  · obtain ⟨events, hafter, hmoments⟩ := hw1
    have hdisk1 : w1.disks fd = some (replay fd moment events) := hafter.disk hdisk
    refine (prepare_partitions_keeps hio hvalid hdisk1 (hmoments _ (List.prefix_refl _)) stage).mono fun _ w2 h => ?_
    obtain ⟨events', hafter', hmoments'⟩ := h
    refine ⟨events ++ events', hafter.trans hafter', fun done hdone => ?_⟩
    rcases List.prefix_or_prefix_of_prefix hdone (List.prefix_append events events') with hearly | ⟨rest, rfl⟩
    · exact hmoments done hearly
    · rw [replay_append]
      exact hmoments' rest ((List.prefix_append_right_inj events).mp hdone)
  · refine ⟨[], World.After.refl w, fun done hdone => ?_⟩
    rw [List.prefix_nil.mp hdone]
    exact hkeeps

theorem Persisted.keeps (hwf : disk.WellFormed crc) (h : Persisted crc fd disk moment) :
    disk.Keeps crc moment := by
  induction h with
  | start => exact keeps_self hwf
  | session _ hcrc hio hdisk hrun hlog hmoment ih =>
    subst hcrc
    obtain ⟨events', hafter, hmoments⟩ :=
      Returns.of_run (prepare_all_keeps hio hwf.toValid hdisk ih _) hrun
    have hsame : events' = _ := List.append_cancel_left (hafter.log.symm.trans hlog)
    obtain ⟨done, hdone, rfl⟩ := (mem_moments_iff _ _ _ _).mp hmoment
    exact hmoments done (hsame ▸ hdone)

/-- Whatever updates are requested of a well-formed device, and wherever a session is
    stopped, the requests return, one of its two copies is completely valid, and its
    primary entry array is what it was. -/
theorem prepare_partitions_fail_safe (hwf : disk.WellFormed crc) (h : Persisted crc fd disk moment) :
    ((moment.ValidCopy crc .PRIMARY_GPT ∨ moment.ValidCopy crc .SECONDARY_GPT) ∧
      moment.read (disk.pentriesOffset .PRIMARY_GPT) (disk.pentriesSize .PRIMARY_GPT) =
        disk.pentries .PRIMARY_GPT) ∧
    ∀ (env : Env) (w : World) (stages : List boot_update_stage), env.crc32 = crc → env.FullOrFail →
      w.disks fd = some moment → Returns (prepare_all env fd stages) w fun _ _ => True := by
  have hkeeps := h.keeps hwf
  refine ⟨hkeeps.valid hwf.toValid, fun env w stages hcrc hio hdisk => ?_⟩
  subst hcrc
  exact (prepare_all_keeps hio hwf.toValid hdisk hkeeps stages).mono fun _ _ _ => trivial

/-- A session of one `UPDATE_MAIN` leaves a device whose primary header is invalid. -/
theorem persisted_update_main :
    ∃ moment, Persisted zlib_crc32 BLK_DEV_FILE pairedDisk moment ∧
    headerState zlib_crc32 (moment.header .PRIMARY_GPT) = .GPT_BAD_SIGNATURE := by
  have hwf : pairedDisk.WellFormed emmc.crc32 := pairedDisk_wellFormed
  have hdisk : (machine pairedDisk).disks BLK_DEV_FILE = some (pairedDisk.holding zlib_crc32
      (pairedDisk.startCopies emmc .divert)) := congrArg some (@holding_startCopies_divert emmc _ hwf).symm
  obtain ⟨w1, hrun, hdisk1⟩ :=
    prepare_partitions_completes emmc_working emmc_lunSwitches hwf.toValid .divert
    (fun _ => pairedDisk_handledPairs) hdisk
  obtain ⟨events, hafter, _⟩ :=
    Returns.of_run (prepare_partitions_keeps emmc_working.fullOrFail hwf.toValid
    (machine_disk pairedDisk) (keeps_self hwf) .UPDATE_MAIN) hrun
  have hsession : prepare_all emmc BLK_DEV_FILE [.UPDATE_MAIN] (machine pairedDisk) = .ok [0] w1 := by
    rw [prepare_all, List.mapM_cons]
    exact run_bind_ok hrun
  have hreplay : replay BLK_DEV_FILE pairedDisk events = pairedDisk.holding zlib_crc32
      (pairedDisk.startCopies emmc .restore) := by
    have h := hafter.disk (machine_disk pairedDisk)
    rw [hdisk1] at h
    exact (Option.some.inj h).symm
  refine ⟨_, .session .start rfl emmc_working.fullOrFail rfl hsession hafter.log
    ((mem_moments_iff _ _ _ _).mpr ⟨events, List.prefix_refl _, rfl⟩), ?_⟩
  change headerState zlib_crc32 ((replay BLK_DEV_FILE pairedDisk events).header .PRIMARY_GPT) = _
  rw [hreplay]
  exact @headerState_startCopies emmc _ hwf.toValid .restore .PRIMARY_GPT

theorem prepare_partitions_fail_safe_pairedDisk : ∃ moment,
    headerState zlib_crc32 (moment.header .PRIMARY_GPT) = .GPT_BAD_SIGNATURE ∧
    ((moment.ValidCopy zlib_crc32 .PRIMARY_GPT ∨ moment.ValidCopy zlib_crc32 .SECONDARY_GPT) ∧
      moment.read (pairedDisk.pentriesOffset .PRIMARY_GPT) (pairedDisk.pentriesSize .PRIMARY_GPT) =
        pairedDisk.pentries .PRIMARY_GPT) ∧
    ∀ (env : Env) (w : World) (stages : List boot_update_stage), env.crc32 = zlib_crc32 →
      env.FullOrFail → w.disks BLK_DEV_FILE = some moment →
      Returns (prepare_all env BLK_DEV_FILE stages) w fun _ _ => True := by
  obtain ⟨moment, hpersisted, hprimary⟩ := persisted_update_main
  exact ⟨moment, hprimary, prepare_partitions_fail_safe pairedDisk_wellFormed hpersisted⟩

end gpt_utils
