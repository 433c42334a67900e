import OnePlus7Pro.Update.SystemSafe

open regions effects twins

namespace gpt_utils

/-- A request is granted for the stage that is due, and again for the stage before it. -/
def grants (due : Stage) (stage : boot_update_stage) : Bool :=
  stage = updateStage due || stage.toInt = (updateStage due).toInt - 1

def followingStage : Stage → Stage
  | .divert => .restore
  | .restore => .settle
  | .settle => .divert

/-- The stage that is due on a disk after a request. A disk without a pair is not diverted. -/
def Disk.dueAfter (env : Env) (disk : Disk) (due : Stage) (stage : boot_update_stage) : Stage :=
  if stage = updateStage due ∧ ¬ (due = .divert ∧ disk.handledPairs env = []) then followingStage due
  else due

/-- The stages that are due on the disks after a request. -/
def duesAfter (env : Env) (disks : String → Option Disk) (dues : String → Stage)
    (stage : boot_update_stage) : String → Stage := fun fd =>
  (disks fd).elim (dues fd) fun disk => disk.dueAfter env (dues fd) stage

/-- What a sequence of requests is answered. -/
def answers (env : Env) (disks : String → Option Disk) : (String → Stage) → List boot_update_stage → List Int
  | _, [] => []
  | dues, stage :: stages =>
    (if env.targets.all fun fd => grants (dues fd) stage then 0 else -1) ::
      answers env disks (duesAfter env disks dues stage) stages

/-- Every target is in the course of its cycle where its stage is due, and no other device is changed. -/
structure SystemAt (env : Env) (disks : String → Option Disk) (dues : String → Stage)
    (now : String → Option Disk) : Prop where
  targets : ∀ fd ∈ env.targets, ∃ disk, disks fd = some disk ∧ disk.WellFormed env.crc32 ∧
    now fd = some (disk.holding env.crc32 (disk.startCopies env (dues fd)))
  others : ∀ fd, fd ∉ env.targets → now fd = disks fd

variable {env : Env} {w : World} {fd : String} {disk : Disk} {disks : String → Option Disk}
  {dues : String → Stage}

theorem stageValue_startCopies (hlun : env.LunSwitches) (disk : Disk) (due : Stage) (stage : boot_update_stage) :
    stageValue env (disk.startCopies env due) stage = if grants due stage then 0 else -1 := by
  rw [stageValue, startCopies_due, Option.map_some]
  simp only [hlun.stage]
  cases due <;> cases stage <;> rfl

theorem dueActs_startCopies (hlun : env.LunSwitches) (disk : Disk) (due : Stage) (stage : boot_update_stage) :
    (dueActs env disk (disk.startCopies env due) stage).foldl Copies.apply (disk.startCopies env due) =
      disk.startCopies env (disk.dueAfter env due stage) := by
  rw [dueActs, startCopies_due, Option.map_some, Disk.dueAfter]
  by_cases hdue : stage = updateStage due
  · subst hdue
    rw [if_pos ⟨rfl, hlun.stage _⟩, performActs_eq]
    by_cases hnone : due = .divert ∧ disk.handledPairs env = []
    · rw [if_pos hnone, if_neg fun h => h.2 hnone]
      rfl
    · rw [if_neg hnone, if_pos ⟨rfl, hnone⟩]
      have hfinish : disk.finishCopies env due = disk.startCopies env (followingStage due) := by
        cases due <;> rfl
      exact (foldl_start _ _ due).trans hfinish
  · rw [if_neg fun h => hdue (Option.some.inj h.1).symm, if_neg fun h => hdue h.1]
    rfl

/-- Where nothing fails, a request is answered, and taken up, as the stage due on the device tells. -/
theorem prepare_partitions_request (hworking : env.Working) (hlun : env.LunSwitches)
    (hwf : disk.WellFormed env.crc32) {due : Stage}
    (hdisk : w.disks fd = some (disk.holding env.crc32 (disk.startCopies env due))) (stage : boot_update_stage) :
    Returns (prepare_partitions env stage fd) w fun r w' => r = (if grants due stage then 0 else -1) ∧
      w'.disks fd = some (disk.holding env.crc32 (disk.startCopies env (disk.dueAfter env due stage))) ∧
      ∀ other, other ≠ fd → w'.disks other = w.disks other := by
  have hfits := @fits_startCopies env _ hwf.toValid due
  obtain ⟨w', hrun, hdisk'⟩ := prepare_partitions_done hworking.fullOrFail hwf.toValid hfits hdisk stage
    (hworking.exec _ _)
  have hframe := Returns.of_run
    (prepare_partitions_frame hworking.fullOrFail hwf.toValid hfits hdisk stage) hrun
  rw [stageValue_startCopies hlun] at hrun
  rw [dueActs_startCopies hlun] at hdisk'
  exact ⟨_, w', hrun, rfl, hdisk', hframe⟩

/-- A device with its path. -/
def World.located (w : World) (fd : String) : Option (String × Disk) := (w.disks fd).map (Prod.mk fd)

theorem located_of_disk {device : Disk} (hdisk : w.disks fd = some device) : w.located fd = some (fd, device) := by
  rw [World.located, hdisk, Option.map_some]

theorem disk_of_located {fd' : String} {device : Disk} (h : w.located fd = some (fd', device)) :
    fd = fd' ∧ w.disks fd = some device := by
  obtain ⟨device', hdisk, hpair⟩ := Option.map_eq_some_iff.mp h
  obtain ⟨rfl, rfl⟩ := Prod.mk.inj hpair
  exact ⟨rfl, hdisk⟩

theorem duesAfter_of_disk (hdisk : disks fd = some disk) (stage : boot_update_stage) :
    duesAfter env disks dues stage fd = disk.dueAfter env (dues fd) stage := by
  rw [duesAfter, hdisk]
  rfl

/-- One turn of the loop over the LUNs. -/
theorem turn_requests (hworking : env.Working) (hlun : env.LunSwitches) (disks : String → Option Disk)
    (dues : String → Stage) (stage : boot_update_stage) :
    TurnsKeys World.located (prepare_boot_update.turn env stage)
      (fun device => ∃ disk, disks device.1 = some disk ∧ disk.WellFormed env.crc32 ∧
        device.2 = disk.holding env.crc32 (disk.startCopies env (dues device.1)))
      (fun device => grants (dues device.1) stage = false)
      (fun device device' => ∀ disk, disks device.1 = some disk → device'.2 =
        disk.holding env.crc32 (disk.startCopies env (duesAfter env disks dues stage device.1))) := by
  rintro is_error lun w ⟨fd, device⟩ hget ⟨disk, hstart, hwf, hdevice⟩
  obtain ⟨rfl, hdisk⟩ := disk_of_located hget
  dsimp only at hstart hdevice ⊢
  rw [hdevice] at hdisk
  rw [prepare_boot_update.turn]
  refine (prepare_partitions_request hworking hlun hwf hdisk stage).bind fun r w' h => ?_
  obtain ⟨hr, hdisk', hframe⟩ := h
  have hothers (other : String) (hother : other ≠ lun) : w'.located other = w.located other := by
    rw [World.located, World.located, hframe other hother]
  have hlater : ∃ device', w'.located lun = some device' ∧ ∀ disk, disks lun = some disk →
      device'.2 = disk.holding env.crc32 (disk.startCopies env (duesAfter env disks dues stage lun)) := by
    refine ⟨_, located_of_disk hdisk', fun disk' hdisk'' => ?_⟩
    obtain rfl : disk = disk' := Option.some.inj (hstart.symm.trans hdisk'')
    rw [duesAfter_of_disk hstart]
  cases hgrants : grants (dues lun) stage with
  | true =>
    rw [hgrants, if_pos rfl] at hr
    rw [if_neg (not_not.mpr hr)]
    exact .pure ⟨⟨.inl, fun h => h.resolve_right Bool.noConfusion⟩, hlater, hothers⟩
  | false =>
    rw [hgrants, if_neg Bool.false_ne_true] at hr
    rw [if_pos (by rw [hr]; decide)]
    exact .pure ⟨iff_of_true rfl (.inr rfl), hlater, hothers⟩

theorem turns_request (hworking : env.Working) (hlun : env.LunSwitches)
    (hat : SystemAt env disks dues w.disks) (hnodup : env.targets.Nodup) (stage : boot_update_stage) :
    Returns (env.targets.foldlM (prepare_boot_update.turn env stage) false) w fun is_error w' =>
      (is_error = true ↔ (env.targets.all fun fd => grants (dues fd) stage) = false) ∧
      SystemAt env disks (duesAfter env disks dues stage) w'.disks := by
  refine ((turn_requests hworking hlun disks dues stage).foldlM hnodup false fun lun hlun => ?_).mono
    fun is_error w' h => ?_
  · obtain ⟨disk, hstart, hwf, hdisk⟩ := hat.targets lun hlun
    exact ⟨_, located_of_disk hdisk, disk, hstart, hwf, rfl⟩
  · obtain ⟨hflag, hdevices, hframe⟩ := h
    have hpath : ∀ fd ∈ env.targets, ∃ device, w.located fd = some (fd, device) := by
      intro fd hfd
      obtain ⟨disk, -, -, hdisk⟩ := hat.targets fd hfd
      exact ⟨_, located_of_disk hdisk⟩
    refine ⟨?_, fun fd hfd => ?_, fun fd hfd => ?_⟩
    · rw [hflag, or_iff_right Bool.false_ne_true, List.all_eq_false]
      refine exists_congr fun fd => and_congr_right fun hfd => ?_
      obtain ⟨device, hlocated⟩ := hpath fd hfd
      rw [Bool.not_eq_true]
      constructor
      · rintro ⟨value, hvalue, hbad⟩
        obtain rfl := Option.some.inj (hlocated.symm.trans hvalue)
        exact hbad
      · exact fun hbad => ⟨_, hlocated, hbad⟩
    · obtain ⟨disk, hstart, hwf, -⟩ := hat.targets fd hfd
      obtain ⟨device, hlocated⟩ := hpath fd hfd
      obtain ⟨⟨fd', device'⟩, hlocated', hlater⟩ := hdevices fd hfd _ hlocated
      obtain ⟨rfl, hdisk'⟩ := disk_of_located hlocated'
      exact ⟨disk, hstart, hwf, hdisk'.trans (congrArg some (hlater disk hstart))⟩
    · have hsame : (w'.located fd).map Prod.snd = (w.located fd).map Prod.snd := by
        rw [hframe fd hfd]
      rw [World.located, World.located, Option.map_map, Option.map_map] at hsame
      rw [← hat.others fd hfd]
      simpa [Function.comp_def] using hsame

/-- A request is answered, and taken up on every target, as the stages that are due tell. -/
theorem prepare_boot_update_request (hworking : env.Working) (hlun : env.LunSwitches)
    (hat : SystemAt env disks dues w.disks) (stage : boot_update_stage) :
    Returns (prepare_boot_update env stage) w fun r w' =>
      r = (if env.targets.all fun fd => grants (dues fd) stage then 0 else -1) ∧
      SystemAt env disks (duesAfter env disks dues stage) w'.disks := by
  rw [prepare_boot_update]
  split
  next hemmc =>
    obtain ⟨htargets, hothers⟩ := hat
    have hone : env.targets = [BLK_DEV_FILE] := if_pos hemmc
    rw [hone] at htargets hothers
    obtain ⟨disk, hstart, hwf, hdisk⟩ := htargets BLK_DEV_FILE (List.mem_singleton_self _)
    refine (prepare_partitions_request hworking hlun hwf hdisk stage).mono fun r w' h => ?_
    obtain ⟨hr, hdisk', hframe⟩ := h
    refine ⟨?_, fun fd hfd => ?_, fun fd hfd => ?_⟩
    · rw [hone, List.all_cons, List.all_nil, Bool.and_true]
      exact hr
    · rw [hone, List.mem_singleton] at hfd
      subst hfd
      exact ⟨disk, hstart, hwf, by rw [hdisk', duesAfter_of_disk hstart]⟩
    · rw [hone] at hfd
      rw [hframe fd fun h => hfd (h ▸ List.mem_singleton_self _), hothers fd hfd]
  next hufs =>
    obtain ⟨data, hdata, hdistinct⟩ := data_distinct env
    have hluns : env.targets = data.lun_list := by
      rw [Env.targets, if_neg hufs, hdata]
      rfl
    rw [hdata, mem_ok_bind, ← hluns]
    refine (turns_request hworking hlun hat (hluns ▸ hdistinct.nodup) stage).bind fun is_error w' h => ?_
    obtain ⟨hrefused, hat'⟩ := h
    cases is_error with
    | true =>
      rw [hrefused.mp rfl]
      exact .pure ⟨rfl, hat'⟩
    | false =>
      have hgranted : (env.targets.all fun fd => grants (dues fd) stage) = true :=
        Bool.of_not_eq_false fun h => Bool.false_ne_true (hrefused.mpr h)
      rw [hgranted]
      exact .pure ⟨rfl, hat'⟩

/-- A sequence of requests is answered as the stages that become due tell. -/
theorem prepare_boots_requests (hworking : env.Working) (hlun : env.LunSwitches)
    (stages : List boot_update_stage) (hat : SystemAt env disks dues w.disks) :
    Returns (prepare_boots env stages) w fun results w' => results = answers env disks dues stages ∧
      SystemAt env disks (stages.foldl (duesAfter env disks) dues) w'.disks := by
  rw [prepare_boots]
  induction stages generalizing w dues with
  | nil => exact .pure ⟨rfl, hat⟩
  | cons stage stages ih =>
    rw [List.mapM_cons]
    refine (prepare_boot_update_request hworking hlun hat stage).bind fun r w1 h => ?_
    obtain ⟨hr, hat1⟩ := h
    refine (ih hat1).bind fun results w2 h => ?_
    obtain ⟨hresults, hat2⟩ := h
    refine .pure ⟨?_, hat2⟩
    rw [hr, hresults, answers]

theorem systemAt_start (hwf : ∀ fd ∈ env.targets, ∃ disk, disks fd = some disk ∧ disk.WellFormed env.crc32) :
    SystemAt env disks (fun _ => .divert) disks where
  targets fd hfd := by
    obtain ⟨disk, hdisk, hwf⟩ := hwf fd hfd
    exact ⟨disk, hdisk, hwf, by rw [holding_startCopies_divert hwf, hdisk]⟩
  others _ _ := rfl

/-- Where nothing fails, a machine whose targets are well-formed answers every sequence of update
    requests as a machine would that knows of each target only its tables and the stage that is
    due, and its devices are what they were, in the course of the cycle where these stages are due. -/
theorem boot_updates_followed (hworking : env.Working) (hlun : env.LunSwitches)
    (hwf : ∀ fd ∈ env.targets, ∃ disk, w.disks fd = some disk ∧ disk.WellFormed env.crc32)
    (stages : List boot_update_stage) :
    Returns (prepare_boots env stages) w fun results w' =>
      results = answers env w.disks (fun _ => .divert) stages ∧
      SystemAt env w.disks (stages.foldl (duesAfter env w.disks) fun _ => .divert) w'.disks :=
  prepare_boots_requests hworking hlun stages (systemAt_start hwf)

/-- A pair of the device would be exchanged. -/
def hasPair (env : Env) (disks : String → Option Disk) (fd : String) : Bool :=
  (disks fd).any fun disk => disk.handledPairs env ≠ []

/-- The stages that are due when `due` is on the devices with a pair. -/
def cycleDues (env : Env) (disks : String → Option Disk) (due : Stage) : String → Stage := fun fd =>
  if hasPair env disks fd then due else .divert

theorem cycleDues_divert (env : Env) (disks : String → Option Disk) :
    cycleDues env disks .divert = fun _ => .divert :=
  funext fun _ => ite_self _

theorem duesAfter_cycleDues (env : Env) (disks : String → Option Disk) (due : Stage) (stage : boot_update_stage) :
    duesAfter env disks (cycleDues env disks due) stage =
      cycleDues env disks (if stage = updateStage due then followingStage due else due) := by
  funext fd
  rw [duesAfter, cycleDues, cycleDues, hasPair]
  cases disks fd with
  | none => rfl
  | some disk =>
    simp only [Option.elim_some, Option.any_some, decide_eq_true_eq, Disk.dueAfter]
    by_cases hpairs : disk.handledPairs env = []
    · rw [if_neg (not_not.mpr hpairs), if_neg (not_not.mpr hpairs), if_neg fun h => h.2 ⟨rfl, hpairs⟩]
    · rw [if_pos hpairs, if_pos hpairs]
      by_cases hdue : stage = updateStage due
      · rw [if_pos ⟨hdue, fun h => hpairs h.2⟩, if_pos hdue]
      · rw [if_neg fun h => hdue h.1, if_neg hdue]

theorem answers_append (dues : String → Stage) (stages later : List boot_update_stage) :
    answers env disks dues (stages ++ later) =
      answers env disks dues stages ++ answers env disks (stages.foldl (duesAfter env disks) dues) later := by
  induction stages generalizing dues with
  | nil => rfl
  | cons stage stages ih =>
    rw [List.cons_append, answers, answers, ih, List.foldl_cons, List.cons_append]

/-- A request that is repeated is answered as often, where it leaves what is due. -/
theorem answers_replicate (env : Env) (disks : String → Option Disk) {stage : boot_update_stage}
    (hsettled : duesAfter env disks dues stage = dues) (n : Nat) :
    answers env disks dues (List.replicate n stage) =
      List.replicate n (if env.targets.all fun fd => grants (dues fd) stage then 0 else -1) ∧
    (List.replicate n stage).foldl (duesAfter env disks) dues = dues := by
  induction n with
  | zero => exact ⟨rfl, rfl⟩
  | succ n ih =>
    rw [List.replicate_succ, List.replicate_succ, answers, List.foldl_cons, hsettled]
    exact ⟨congrArg _ ih.1, ih.2⟩

theorem all_granted {due : Stage} {stage : boot_update_stage} (hdue : grants due stage = true)
    (hdivert : grants .divert stage = false) :
    (env.targets.all fun fd => grants (cycleDues env disks due fd) stage) = env.targets.all (hasPair env disks) := by
  congr 1
  funext fd
  rw [cycleDues]
  cases hasPair env disks fd with
  | true => exact hdue
  | false => exact hdivert

theorem all_granted_main {due : Stage} (hdue : grants due .UPDATE_MAIN = true) :
    (env.targets.all fun fd => grants (cycleDues env disks due fd) .UPDATE_MAIN) = true := by
  rw [List.all_eq_true]
  intro fd _
  rw [cycleDues]
  split
  · exact hdue
  · rfl

/-- The stage that is due is requested, and requested again. -/
theorem answers_retried (env : Env) (disks : String → Option Disk) (due : Stage) {r : Int} (n : Nat)
    (hfirst : (if env.targets.all fun fd => grants (cycleDues env disks due fd) (updateStage due) then 0 else -1) = r)
    (hagain : (if env.targets.all fun fd => grants (cycleDues env disks (followingStage due) fd) (updateStage due)
      then 0 else -1) = r) :
    answers env disks (cycleDues env disks due) (List.replicate (n + 1) (updateStage due)) =
      List.replicate (n + 1) r ∧
    (List.replicate (n + 1) (updateStage due)).foldl (duesAfter env disks) (cycleDues env disks due) =
      cycleDues env disks (followingStage due) := by
  have hfollows : duesAfter env disks (cycleDues env disks due) (updateStage due) =
      cycleDues env disks (followingStage due) := by
    rw [duesAfter_cycleDues, if_pos rfl]
  have hsettled : duesAfter env disks (cycleDues env disks (followingStage due)) (updateStage due) =
      cycleDues env disks (followingStage due) := by
    rw [duesAfter_cycleDues, if_neg]
    cases due <;> exact boot_update_stage.noConfusion
  obtain ⟨hanswers, hdues⟩ := answers_replicate env disks hsettled n
  rw [hagain] at hanswers
  rw [List.replicate_succ, answers, hfirst, List.foldl_cons, hfollows, hanswers, List.replicate_succ]
  exact ⟨rfl, hdues⟩

/-- The requests of an update, of which the first two stages may be requested again. -/
def retriedCycle (mains backups : Nat) : List boot_update_stage :=
  List.replicate (mains + 1) .UPDATE_MAIN ++ (List.replicate (backups + 1) .UPDATE_BACKUP ++ [.UPDATE_FINALIZE])

theorem answers_retriedCycle (env : Env) (disks : String → Option Disk) (mains backups : Nat) :
    answers env disks (fun _ => .divert) (retriedCycle mains backups) =
      List.replicate (mains + 1) 0 ++
        List.replicate (backups + 2) (if env.targets.all (hasPair env disks) then 0 else -1) ∧
    (retriedCycle mains backups).foldl (duesAfter env disks) (fun _ => .divert) = fun _ => .divert := by
  obtain ⟨hmain, hmaindues⟩ := answers_retried env disks .divert mains
    (if_pos (all_granted_main rfl)) (if_pos (all_granted_main rfl))
  obtain ⟨hbackup, hbackupdues⟩ := answers_retried env disks .restore backups
    (by rw [all_granted rfl rfl]) (by rw [all_granted rfl rfl])
  have hfinalize : answers env disks (cycleDues env disks .settle) [.UPDATE_FINALIZE] =
      [if env.targets.all (hasPair env disks) then 0 else -1] := by
    rw [answers, answers, all_granted rfl rfl]
  have hlast : [boot_update_stage.UPDATE_FINALIZE].foldl (duesAfter env disks) (cycleDues env disks .settle) =
      cycleDues env disks .divert :=
    duesAfter_cycleDues env disks .settle .UPDATE_FINALIZE
  rw [← cycleDues_divert env disks, retriedCycle]
  constructor
  · rw [answers_append, answers_append]
    simp only [updateStage, followingStage] at hmain hmaindues hbackup hbackupdues
    rw [hmain, hmaindues, hbackup, hbackupdues, hfinalize, ← List.replicate_succ']
  · simp only [updateStage, followingStage] at hmaindues hbackupdues
    rw [List.foldl_append, List.foldl_append, hmaindues, hbackupdues, hlast]

theorem SystemAt.returned (hat : SystemAt env disks (fun _ => .divert) w.disks) : w.disks = disks := by
  funext fd
  by_cases hfd : fd ∈ env.targets
  · obtain ⟨disk, hdisk, hwf, hnow⟩ := hat.targets fd hfd
    rw [hnow, hdisk, holding_startCopies_divert hwf]
  · exact hat.others fd hfd

/-- Where nothing fails, an update of a machine whose targets are well-formed ends with every device
    as it was, also when the first two stages are requested more than once. The last two stages
    succeed exactly where there is a pair to exchange on every target. -/
theorem boot_cycle_returns (hworking : env.Working) (hlun : env.LunSwitches)
    (hwf : ∀ fd ∈ env.targets, ∃ disk, w.disks fd = some disk ∧ disk.WellFormed env.crc32)
    (mains backups : Nat) :
    Returns (prepare_boots env (retriedCycle mains backups)) w fun results w' =>
      results = List.replicate (mains + 1) 0 ++
        List.replicate (backups + 2) (if env.targets.all (hasPair env w.disks) then 0 else -1) ∧
      w'.disks = w.disks := by
  obtain ⟨hanswers, hdues⟩ := answers_retriedCycle env w.disks mains backups
  refine (prepare_boots_requests hworking hlun _ (systemAt_start hwf)).mono fun results w' h => ?_
  obtain ⟨hresults, hat⟩ := h
  rw [hdues] at hat
  exact ⟨hresults.trans hanswers, hat.returned⟩

theorem boot_updates_followed_ufs :
    Returns (prepare_boots ufs (retriedCycle 1 2)) (twoLuns pairedDisk pairedDisk) fun results w' =>
      results = answers ufs (twoLuns pairedDisk pairedDisk).disks (fun _ => .divert) (retriedCycle 1 2) ∧
      SystemAt ufs (twoLuns pairedDisk pairedDisk).disks
        ((retriedCycle 1 2).foldl (duesAfter ufs (twoLuns pairedDisk pairedDisk).disks) fun _ => .divert)
        w'.disks :=
  boot_updates_followed ufs_working ufs_lunSwitches twoLuns_wellFormed (retriedCycle 1 2)

theorem boot_cycle_returns_ufs :
    Returns (prepare_boots ufs (retriedCycle 1 2)) (twoLuns pairedDisk pairedDisk) fun results w' =>
      results = List.replicate 2 0 ++ List.replicate 4
        (if ufs.targets.all (hasPair ufs (twoLuns pairedDisk pairedDisk).disks) then 0 else -1) ∧
      w'.disks = (twoLuns pairedDisk pairedDisk).disks :=
  boot_cycle_returns ufs_working ufs_lunSwitches twoLuns_wellFormed 1 2

end gpt_utils
