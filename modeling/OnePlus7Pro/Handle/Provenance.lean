import OnePlus7Pro.Handle.InfoCalls
import OnePlus7Pro.Handle.EditCommit
import OnePlus7Pro.Handle.PartitionMap
import OnePlus7Pro.Runs.Taken

open regions effects runs

namespace gpt_utils

/-- A call that has returned: the machine it met, the path that the handle held, and whether it
    succeeded. -/
structure Made where
  call : InfoCall
  world : World
  devpath : String
  succeeded : Bool

/-- A program that fills a handle again and again: the machine, the handle, the origins of its
    fields, and the calls that have returned. An origin gives a call by its place among them. -/
structure Session where
  world : World
  dsk : gpt_disk
  origins : Origins
  made : List Made

def Session.start (w : World) : Session := ⟨w, gpt_disk.cleared, Origins.cleared, []⟩

/-- A call on the handle. One that does not return leaves nothing to be asked about. -/
def Session.call (s : Session) (c : InfoCall) : Session :=
  match gpt_disk_get_disk_info.traced c s.made.length s.dsk s.origins s.world with
  | .ok (failed, dsk, origins) w =>
    { world := w, dsk, origins, made := s.made ++ [⟨c, s.world, s.dsk.devpath, failed.isNone⟩] }
  | .error _ _ => s

/-- A field is as a cleared handle has it, or its origin is a call that has read it. -/
def Session.Traces (s : Session) (origin : Option Origin) (untouched : Prop)
    (read : Made → Option String → Prop) : Prop :=
  match origin with
  | none => untouched
  | some origin => ∃ m, s.made[origin.call]? = some m ∧ read m origin.path

/-- The origins tell the truth: every field is what the call of its origin has read from the
    device at the path of its origin. -/
structure Session.Labelled (s : Session) : Prop where
  hdr : s.Traces s.origins.hdr (s.dsk.hdr = none) fun m path =>
    path = m.call.hdr_path ∧ s.dsk.hdr = m.call.header m.world
  pentry_arr : s.Traces s.origins.pentry_arr (s.dsk.pentry_arr = none) fun m path =>
    ∃ hdr devpath, path = some devpath ∧ m.call.path m.devpath = some devpath ∧
      m.call.header m.world = some hdr ∧ m.call.array m.world devpath hdr = .ok s.dsk.pentry_arr
  pentry_size : s.Traces s.origins.pentry_size (s.dsk.pentry_size = 0) fun m path =>
    ∃ hdr, path = m.call.hdr_path ∧ m.call.header m.world = some hdr ∧
      s.dsk.pentry_size = field hdr PENTRY_SIZE_OFFSET 4
  pentry_arr_size : s.Traces s.origins.pentry_arr_size (s.dsk.pentry_arr_size = 0) fun m path =>
    ∃ hdr, path = m.call.hdr_path ∧ m.call.header m.world = some hdr ∧
      s.dsk.pentry_arr_size = arraySize hdr
  devpath : s.Traces s.origins.devpath (s.dsk.devpath = "") fun m path =>
    path = some s.dsk.devpath ∧ m.call.path m.devpath = some s.dsk.devpath

/-- `gpt_disk_get_pentry`, `gpt_disk_update_crc` and `gpt_disk_commit` accept the handle. -/
def gpt_disk.Accepted (dsk : gpt_disk) : Prop := dsk.is_initialized = GPT_DISK_INIT_MAGIC

/-- The fields of the handle are what a call has read from the device at a path. -/
structure Made.Loaded (m : Made) (path : String) (dsk : gpt_disk) : Prop where
  devpath : dsk.devpath = path
  fields : ∃ hdr arr, m.call.hdr_env.headerFrom m.world (some path) = some hdr ∧ dsk.hdr = some hdr ∧
    m.call.array m.world path hdr = .ok (some arr) ∧ dsk.pentry_arr = some arr ∧
    dsk.pentry_size = field hdr PENTRY_SIZE_OFFSET 4 ∧ dsk.pentry_arr_size = arraySize hdr

/-- If the handle is accepted, one successful call loaded it, from one device. -/
def Session.Whole (s : Session) : Prop :=
  s.dsk.Accepted →
    ∃ call path m, s.origins = ⟨some ⟨call, some path⟩, some ⟨call, some path⟩, some ⟨call, some path⟩,
        some ⟨call, some path⟩, some ⟨call, some path⟩⟩ ∧
      s.made[call]? = some m ∧ m.succeeded = true ∧ m.Loaded path s.dsk

/-- If the surroundings make a step of the call fail, the handle is not accepted yet; if they let
    it complete, the name of the partition leads back to the device of the header. -/
structure Session.Sound (s : Session) (c : InfoCall) : Prop where
  fails_unaccepted : ∀ step, c.Comes s.world s.dsk.devpath (some step) → ¬ s.dsk.Accepted
  leads_back : c.Comes s.world s.dsk.devpath none → c.LeadsBack s.dsk.devpath

theorem Session.Traces.call {s s' : Session} {origin origin' : Option Origin} {untouched untouched' : Prop}
    {read read' : Made → Option String → Prop} {m : Made} (hmade : s'.made = s.made ++ [m])
    (h : s.Traces origin untouched read)
    (hkept : origin' = origin ∧ (untouched → untouched') ∧ (∀ m path, read m path → read' m path) ∨
      ∃ path, origin' = some ⟨s.made.length, path⟩ ∧ read' m path) :
    s'.Traces origin' untouched' read' := by
  rcases hkept with ⟨rfl, huntouched, hread⟩ | ⟨path, rfl, hread⟩
  · cases origin' with
    | none => exact huntouched h
    | some origin =>
      obtain ⟨m', hm', hread'⟩ := h
      refine ⟨m', ?_, hread _ _ hread'⟩
      rw [hmade]
      exact List.getElem?_append_left (List.getElem?_eq_some_iff.mp hm').1 |>.trans hm'
  · exact ⟨m, by simp [hmade], hread⟩

/-- A call keeps the origins true. -/
theorem Session.labelled_call {s : Session} (hlabelled : s.Labelled) (c : InfoCall) : (s.call c).Labelled := by
  have hspec := gpt_disk_get_disk_info.traced_spec c s.made.length s.dsk s.origins s.world
  unfold Session.call
  cases houtcome : gpt_disk_get_disk_info.traced c s.made.length s.dsk s.origins s.world with
  | error fault w => exact hlabelled
  | ok outcome w =>
    obtain ⟨failed, dsk, origins⟩ := outcome
    rw [houtcome] at hspec
    obtain ⟨_, hstored⟩ := hspec
    constructor
    · exact hlabelled.hdr.call rfl (.inr ⟨_, hstored.hdr.2, rfl, hstored.hdr.1⟩)
    · refine hlabelled.pentry_arr.call rfl ?_
      rcases hstored.pentry_arr with ⟨harr, horigin⟩ | ⟨hdr, devpath, hheader, hpath, harr, horigin⟩
      · exact .inl ⟨horigin, fun h => harr.trans h, fun m path h => by rw [harr]; exact h⟩
      · exact .inr ⟨_, horigin, hdr, devpath, rfl, hpath, hheader, harr⟩
    · refine hlabelled.pentry_size.call rfl ?_
      rcases hstored.pentry_size with ⟨hsize, horigin⟩ | ⟨hdr, hheader, hsize, horigin⟩
      · exact .inl ⟨horigin, fun h => hsize.trans h, fun m path h => by rw [hsize]; exact h⟩
      · exact .inr ⟨_, horigin, hdr, rfl, hheader, hsize⟩
    · refine hlabelled.pentry_arr_size.call rfl ?_
      rcases hstored.pentry_arr_size with ⟨hsize, horigin⟩ | ⟨hdr, hheader, hsize, horigin⟩
      · exact .inl ⟨horigin, fun h => hsize.trans h, fun m path h => by rw [hsize]; exact h⟩
      · exact .inr ⟨_, horigin, hdr, rfl, hheader, hsize⟩
    · refine hlabelled.devpath.call rfl ?_
      rcases hstored.devpath with ⟨hpath, horigin⟩ | ⟨hpath, horigin⟩
      · exact .inl ⟨horigin, fun h => hpath.trans h, fun m path h => by rw [hpath]; exact h⟩
      · exact .inr ⟨_, horigin, rfl, hpath⟩

theorem Session.Traces.of_some {s : Session} {origin : Origin} {untouched : Prop} {m : Made}
    {read : Made → Option String → Prop} (h : s.Traces (some origin) untouched read)
    (hmade : s.made[origin.call]? = some m) : read m origin.path := by
  obtain ⟨m', hm', hread⟩ := h
  rw [hmade] at hm'
  cases hm'
  exact hread

/-- A call that its surroundings let complete has loaded the handle if its name leads back. -/
theorem Session.whole_of_completed {s : Session} {m : Made} {call : Nat} (hlabelled : s.Labelled)
    (hmade : s.made[call]? = some m) (hsucceeded : m.succeeded = true)
    (hcompletes : m.call.Comes m.world m.devpath none) (hback : m.call.LeadsBack m.devpath)
    (horigins : s.origins = {
      hdr := some ⟨call, m.call.hdr_path⟩
      pentry_arr := some ⟨call, m.call.path m.devpath⟩
      pentry_size := some ⟨call, m.call.hdr_path⟩
      pentry_arr_size := some ⟨call, m.call.hdr_path⟩
      devpath := some ⟨call, m.call.path m.devpath⟩ }) : s.Whole := by
  intro _
  obtain ⟨hhdr, harr, hsize, harrsize, hpath⟩ := hlabelled
  rw [horigins] at hhdr harr hsize harrsize hpath
  obtain ⟨-, hhdr⟩ := hhdr.of_some hmade
  obtain ⟨hdr₁, path, harrpath, hpath₁, hheader₁, harr⟩ := harr.of_some hmade
  obtain ⟨hdr₂, -, hheader₂, hsize⟩ := hsize.of_some hmade
  obtain ⟨hdr₃, -, hheader₃, harrsize⟩ := harrsize.of_some hmade
  obtain ⟨hdevpath, -⟩ := hpath.of_some hmade
  cases hcompletes with
  | @completed hdr hdr_bak arr arr_bak devpath hheaders hpath hopen harray hbackup hfields =>
    obtain rfl : hdr₁ = hdr := by simpa [hheader₁] using hheaders.header
    obtain rfl : hdr₂ = hdr₁ := by simpa [hheader₂] using hheader₁
    obtain rfl : hdr₃ = hdr₂ := by simpa [hheader₃] using hheader₁
    obtain rfl : path = devpath := by simpa [hpath₁] using hpath
    have hhdrpath : m.call.hdr_path = some path := hback.trans hpath
    rw [hhdrpath, hpath] at horigins
    refine ⟨call, path, m, horigins, hmade, hsucceeded, ?_, hdr₃, arr, ?_, hhdr.trans hheader₁, harray, ?_,
      hsize, harrsize⟩
    · exact Option.some.inj (hdevpath.symm.trans hpath)
    · rw [← hhdrpath]
      exact hheader₁
    · simpa [harray] using harr.symm

/-- A call keeps the handle whole exactly if it is sound. -/
theorem Session.whole_call_iff {s : Session} (hlabelled : s.Labelled) (hwhole : s.Whole) (c : InfoCall) :
    (s.call c).Whole ↔ s.Sound c := by
  have hspec := gpt_disk_get_disk_info.traced_spec c s.made.length s.dsk s.origins s.world
  have hlabelled' := s.labelled_call hlabelled c
  revert hlabelled'
  unfold Session.call
  cases houtcome : gpt_disk_get_disk_info.traced c s.made.length s.dsk s.origins s.world with
  | error fault w =>
    intro _
    rw [houtcome] at hspec
    exact iff_of_true hwhole ⟨fun step h => absurd h (hspec _), fun h => absurd h (hspec _)⟩
  | ok outcome w =>
    obtain ⟨failed, dsk, origins⟩ := outcome
    intro hlabelled'
    rw [houtcome] at hspec
    obtain ⟨hcomes, hstored⟩ := hspec
    have hmade : (s.made ++ [(⟨c, s.world, s.dsk.devpath, failed.isNone⟩ : Made)])[s.made.length]? =
        some ⟨c, s.world, s.dsk.devpath, failed.isNone⟩ := by simp
    cases failed with
    | some step =>
      have hinit := hstored.is_initialized
      constructor
      · refine fun h => ⟨fun _ _ haccepted => ?_, fun h => by cases hcomes.unique h⟩
        obtain ⟨call, path, m, horigins, hm, hsucceeded, _⟩ := h (hinit.trans haccepted)
        have hhdr := hstored.hdr.2
        change origins = _ at horigins
        rw [horigins] at hhdr
        obtain rfl : call = s.made.length := congrArg Origin.call (Option.some.inj hhdr)
        cases hmade.symm.trans hm
        cases hsucceeded
      · exact fun h haccepted => absurd (hinit.symm.trans haccepted) (h.fails_unaccepted step hcomes)
    | none =>
      have horigins := hstored.completed rfl
      constructor
      · refine fun h => ⟨fun _ h' => (by cases hcomes.unique h'), fun _ => ?_⟩
        obtain ⟨call, path, m, hsame, _⟩ := h hstored.is_initialized
        change origins = _ at hsame
        rw [horigins] at hsame
        simp only [Origins.mk.injEq, Option.some.injEq, Origin.mk.injEq] at hsame
        exact hsame.1.2.trans hsame.2.2.2.2.2.symm
      · exact fun h => whole_of_completed hlabelled' hmade rfl hcomes (h.leads_back hcomes) horigins

/-- A name leads back unless the target of its link is shorter than the 14 characters that are
    kept and than the old path: then the end of the old path stays behind the target. -/
theorem InfoCall.leadsBack_iff (env : Env) (dev old : String) :
    InfoCall.LeadsBack ⟨dev, env, env, env⟩ old ↔
      ∀ target, gpt_utils_is_ufs_device env = true → env.stat (by_name dev) = true →
        env.readlink (by_name dev) = some target →
        PATH_TRUNCATE_LOC ≤ strlen target ∨ strlen old ≤ strlen target := by
  have hpath (old : String) : get_dev_path_from_partition_name env dev old PATH_MAX =
      if gpt_utils_is_ufs_device env = true then
        if env.stat (by_name dev) = true then
          (env.readlink (by_name dev)).map fun target => truncate (truncate target PATH_MAX ++
            String.ofList (old.toList.drop (strlen (truncate target PATH_MAX)))) PATH_TRUNCATE_LOC
        else none
      else some (truncate BLK_DEV_FILE (PATH_MAX - 1)) := by
    unfold get_dev_path_from_partition_name
    rw [if_neg (by decide)]
    change (if gpt_utils_is_ufs_device env = true then _ else _) = _
    rw [← by_name]
    cases gpt_utils_is_ufs_device env with
    | false => rfl
    | true =>
      simp only [if_true]
      cases env.stat (by_name dev) with
      | false => simp
      | true => cases env.readlink (by_name dev) <;> simp
  unfold InfoCall.LeadsBack InfoCall.hdr_path InfoCall.path
  simp only []
  rw [hpath, hpath]
  by_cases hufs : gpt_utils_is_ufs_device env = true
  swap
  · simp [hufs]
  by_cases hstat : env.stat (by_name dev) = true
  swap
  · simp [hstat]
  rw [if_pos hufs, if_pos hstat, if_pos hufs, if_pos hstat]
  cases hlink : env.readlink (by_name dev) with
  | none => simp
  | some target =>
    simp only [hufs, hstat, forall_const, Option.some_inj, Option.map_some, forall_eq']
    simp only [truncate, strlen, String.toList_append, String.toList_ofList, String.toList_empty, List.drop_nil,
      List.append_nil, String.ofList_inj]
    rw [List.take_append, List.length_take, List.self_eq_append_right, List.take_eq_nil_iff,
      List.drop_eq_nil_iff]
    simp only [PATH_TRUNCATE_LOC, PATH_MAX]
    omega

/-- At every moment the origins of the fields are true, and the handle is whole at every moment
    exactly if every call is sound. Where the surroundings do not change during a call, its name
    leads back unless a short target leaves the end of the old path. -/
theorem handle_whole_iff (w : World) (calls : List InfoCall) :
    (∀ moment ∈ moments Session.call (Session.start w) calls, moment.Labelled) ∧
    ((∀ moment ∈ moments Session.call (Session.start w) calls, moment.Whole) ↔
      Taken Session.call Session.Sound (Session.start w) calls) ∧
    ∀ (env : Env) (dev old : String), InfoCall.LeadsBack ⟨dev, env, env, env⟩ old ↔
      ∀ target, gpt_utils_is_ufs_device env = true → env.stat (by_name dev) = true →
        env.readlink (by_name dev) = some target →
        PATH_TRUNCATE_LOC ≤ strlen target ∨ strlen old ≤ strlen target := by
  have hlabelled : (Session.start w).Labelled := ⟨rfl, rfl, rfl, rfl, rfl⟩
  have hwhole : (Session.start w).Whole := by
    intro haccepted
    cases haccepted
  have hlegal : Taken Session.call (fun _ _ => True) (Session.start w) calls :=
    taken_of_forall fun _ _ => trivial
  refine ⟨?_, ?_, InfoCall.leadsBack_iff⟩
  · exact hlegal.invariant (fun s c hs _ => s.labelled_call hs c) hlabelled
  · exact always_iff_taken (fun s c hs hwhole _ => s.whole_call_iff hs hwhole c)
      (fun s c hs _ _ _ => s.labelled_call hs c) hlegal hlabelled hwhole

/-- A target without UFS on which nothing can be opened any more. -/
def unopened : Env := { emmc with call := fun _ => false }

/-- A call that succeeds as `gpt_disk_get_disk_info` leaves the same handle. -/
theorem outcome_of_info {env : Env} {dev : String} {dsk handle : gpt_disk} {w w' : World}
    (hinfo : gpt_disk_get_disk_info env dev dsk w = .ok (0, handle) w') (call : Nat) (origins : Origins) :
    ∃ origins', gpt_disk_get_disk_info.traced ⟨dev, env, env, env⟩ call dsk origins w =
      .ok (none, handle, origins') w' := by
  rw [← gpt_disk_get_disk_info.traced_erased env dev call dsk origins] at hinfo
  rw [← bind_pure_comp] at hinfo
  cases houtcome : gpt_disk_get_disk_info.traced ⟨dev, env, env, env⟩ call dsk origins w with
  | error fault w₁ =>
    rw [run_bind_error houtcome] at hinfo
    cases hinfo
  | ok outcome w₁ =>
    rw [run_bind_ok houtcome] at hinfo
    obtain ⟨failed, dsk', origins'⟩ := outcome
    cases failed with
    | some step => cases hinfo
    | none =>
      cases hinfo
      exact ⟨origins', rfl⟩

theorem Session.call_of_ok {s : Session} {c : InfoCall} {failed : Option InfoStep} {dsk : gpt_disk}
    {origins : Origins} {w : World}
    (h : gpt_disk_get_disk_info.traced c s.made.length s.dsk s.origins s.world = .ok (failed, dsk, origins) w) :
    s.call c = ⟨w, dsk, origins, s.made ++ [⟨c, s.world, s.dsk.devpath, failed.isNone⟩]⟩ := by
  rw [Session.call, h]

/-- Where nothing can be opened, a call on an accepted handle leaves it without a header. -/
theorem unopened_outcome (call : Nat) (dsk : gpt_disk) (origins : Origins) (w : World) :
    gpt_disk_get_disk_info.traced ⟨"abl", unopened, unopened, unopened⟩ call dsk origins w =
      .ok (some .header, { dsk with hdr := none },
        { origins with hdr := some ⟨call, some BLK_DEV_FILE⟩ }) w.called := by
  have hpath : get_dev_path_from_partition_name unopened "abl" "" PATH_MAX = some BLK_DEV_FILE := by
    rw [get_dev_path_from_partition_name_cleared, device_of, if_neg (by decide)]
  have hheader : gpt_get_header unopened "abl" .PRIMARY_GPT w = .ok none w.called := by
    unfold gpt_get_header
    rw [hpath]
    exact run_bind_ok (m := open_device unopened BLK_DEV_FILE) rfl
  unfold gpt_disk_get_disk_info.traced
  rw [run_bind_ok hheader, InfoCall.hdr_path, hpath]
  rfl

/-- After a second call that fails, the handle is accepted without a header, with the entry
    array that the first call loaded. -/
theorem handle_not_whole :
    ∃ moment ∈ moments Session.call (Session.start (machine pairedDisk))
        [⟨"abl", emmc, emmc, emmc⟩, ⟨"abl", unopened, unopened, unopened⟩],
      moment.dsk.Accepted ∧ moment.dsk.hdr = none ∧
      moment.dsk.pentry_arr = some (pairedDisk.pentries .PRIMARY_GPT) ∧ ¬ moment.Whole := by
  obtain ⟨handle, w₁, hinfo, _, hfilled⟩ := emmc_info "abl" pairedDisk_wellFormed
  obtain ⟨origins, hfirst⟩ := outcome_of_info hinfo 0 Origins.cleared
  have hs₁ := Session.call_of_ok (s := Session.start (machine pairedDisk)) hfirst
  obtain ⟨s₁, hs₁'⟩ : ∃ s₁, (Session.start (machine pairedDisk)).call ⟨"abl", emmc, emmc, emmc⟩ = s₁ := ⟨_, rfl⟩
  have hs₂ := Session.call_of_ok (unopened_outcome s₁.made.length s₁.dsk s₁.origins s₁.world)
  have hmoment : s₁.call ⟨"abl", unopened, unopened, unopened⟩ ∈
      moments Session.call (Session.start (machine pairedDisk))
        [⟨"abl", emmc, emmc, emmc⟩, ⟨"abl", unopened, unopened, unopened⟩] := by
    rw [moments_cons, moments_cons, moments_nil, hs₁']
    exact List.mem_cons_of_mem _ (List.mem_cons_of_mem _ List.mem_cons_self)
  rw [hs₁'] at hs₁
  rw [hs₂] at hmoment
  subst hs₁
  refine ⟨_, hmoment, hfilled.holds.is_initialized, rfl, hfilled.holds.pentry_arr, ?_⟩
  intro hwhole
  obtain ⟨call, path, m, _, _, _, _, hdr, _, _, hhdr, _⟩ := hwhole hfilled.holds.is_initialized
  cases hhdr

end gpt_utils
