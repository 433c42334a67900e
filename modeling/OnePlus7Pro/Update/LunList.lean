import OnePlus7Pro.Gpt.Format
import OnePlus7Pro.Update.BootUpdate
import Mathlib.Data.List.Induction

open effects

namespace gpt_utils

/-- One more element is the last to appear, unless it has appeared before. -/
theorem eraseDups_concat {α : Type} [DecidableEq α] (xs : List α) (x : α) :
    (xs ++ [x]).eraseDups = if x ∈ xs then xs.eraseDups else xs.eraseDups ++ [x] := by
  rw [List.eraseDups_append]
  by_cases hmem : x ∈ xs <;> simp [List.removeAll, List.eraseDups_cons, hmem]

theorem nodup_eraseDups {α : Type} [DecidableEq α] (xs : List α) : xs.eraseDups.Nodup := by
  induction xs using List.reverseRecOn with
  | nil => simp
  | append_singleton xs x ih =>
    rw [eraseDups_concat]
    split_ifs with hmem
    · exact ih
    · rw [List.nodup_append_comm, List.singleton_append, List.nodup_cons, List.mem_eraseDups]
      exact ⟨hmem, ih⟩

theorem length_eraseDups_le {α : Type} [DecidableEq α] (xs : List α) :
    xs.eraseDups.length ≤ xs.length := by
  induction xs using List.reverseRecOn with
  | nil => simp
  | append_singleton xs x ih =>
    rw [eraseDups_concat, List.length_append, List.length_singleton]
    split_ifs
    · omega
    · rw [List.length_append, List.length_singleton]
      omega

/-- The paths are added one after the other to a list that has been cleared. -/
def add_luns (env : Env) (paths : List String) : Except Fault update_data :=
  paths.foldlM (fun dat lun_path => do
    let (_, dat) ← add_lun_to_update_list env lun_path dat
    return dat) update_data.cleared

/-- The list holds every path once, in the order in which they appear first, as far as there is
    room. -/
def Lists (paths : List String) (added : Except Fault update_data) : Prop :=
  ∃ dat, added = .ok dat ∧ dat.lun_list = paths.eraseDups.take MAX_LUNS

/-- Before every path there are less than `MAX_LUNS - 1` others, or so many and the path is none
    of them. -/
def Fits (paths : List String) : Prop :=
  ∀ before lun_path after, paths = before ++ lun_path :: after →
    before.eraseDups.length < MAX_LUNS - 1 ∨
      (before.eraseDups.length = MAX_LUNS - 1 ∧ lun_path ∉ before)

theorem fits_nil : Fits [] := by
  intro before lun_path after hpaths
  simp at hpaths

theorem fits_concat {paths : List String} {lun_path : String} :
    Fits (paths ++ [lun_path]) ↔ Fits paths ∧ (paths.eraseDups.length < MAX_LUNS - 1 ∨
      (paths.eraseDups.length = MAX_LUNS - 1 ∧ lun_path ∉ paths)) := by
  constructor
  · intro hfits
    refine ⟨fun before lun after hpaths => ?_, hfits paths lun_path [] rfl⟩
    exact hfits before lun (after ++ [lun_path]) (by rw [hpaths, List.append_assoc, List.cons_append])
  · rintro ⟨hfits, hlast⟩ before lun after hpaths
    induction after using List.reverseRecOn with
    | nil =>
      obtain ⟨rfl, hlun⟩ := List.append_inj' hpaths rfl
      exact List.singleton_inj.mp hlun ▸ hlast
    | append_singleton after last _ =>
      rw [← List.cons_append, ← List.append_assoc] at hpaths
      exact hfits before lun after (List.append_inj' hpaths rfl).1

/-- So many paths always fit. -/
theorem fits_of_length {paths : List String} (hlength : paths.length ≤ MAX_LUNS - 1) : Fits paths := by
  rintro before lun after rfl
  rw [List.length_append, List.length_cons] at hlength
  exact .inl (Nat.lt_of_le_of_lt (length_eraseDups_le before) (by omega))

section calls

variable {env : Env} {paths : List String} {lun_path : String} {dat : update_data}

/-- Among paths of one length, the comparison of prefixes finds a path that is in the list. -/
theorem any_isPrefixOf_iff (hlist : ∀ lun ∈ dat.lun_list, strlen lun = PATH_TRUNCATE_LOC)
    (hlength : strlen lun_path = PATH_TRUNCATE_LOC) :
    (dat.lun_list.any fun lun => lun.toList.isPrefixOf lun_path.toList) = true ↔
      lun_path ∈ dat.lun_list := by
  rw [List.any_eq_true]
  constructor
  · rintro ⟨lun, hlun, hprefix⟩
    have hsame := (List.isPrefixOf_iff_prefix.mp hprefix).eq_of_length
      ((hlist lun hlun).trans hlength.symm)
    exact String.toList_inj.mp hsame ▸ hlun
  · exact fun hmem => ⟨lun_path, hmem, List.isPrefixOf_iff_prefix.mpr (List.prefix_refl _)⟩

/-- A path that is found among less than `MAX_LUNS - 1` is not added again. -/
theorem add_lun_found (hstat : env.stat lun_path = true)
    (hlist : ∀ lun ∈ dat.lun_list, strlen lun = PATH_TRUNCATE_LOC)
    (hlength : strlen lun_path = PATH_TRUNCATE_LOC) (hroom : dat.lun_list.length < MAX_LUNS - 1)
    (hmem : lun_path ∈ dat.lun_list) : add_lun_to_update_list env lun_path dat = .ok (0, dat) := by
  unfold add_lun_to_update_list
  rw [if_neg (by simp [hstat]), if_pos ⟨hroom, (any_isPrefixOf_iff hlist hlength).mpr hmem⟩]
  rfl

/-- Any other path is added: also one that is in a list of `MAX_LUNS - 1`. -/
theorem add_lun_pushed (hstat : env.stat lun_path = true)
    (hlist : ∀ lun ∈ dat.lun_list, strlen lun = PATH_TRUNCATE_LOC)
    (hlength : strlen lun_path = PATH_TRUNCATE_LOC)
    (hnew : dat.lun_list.length < MAX_LUNS - 1 → lun_path ∉ dat.lun_list)
    (hroom : dat.lun_list.length < MAX_LUNS) :
    ∃ dat', add_lun_to_update_list env lun_path dat = .ok (0, dat') ∧
      dat'.lun_list = dat.lun_list ++ [lun_path] := by
  have hsame : truncate lun_path (PATH_MAX - 1) = lun_path := truncate_of_le (hlength ▸ by decide)
  have hsearch : ¬ (dat.num_valid_entries < MAX_LUNS - 1 ∧
      (dat.lun_list.any fun lun => lun.toList.isPrefixOf lun_path.toList) = true) :=
    fun h => hnew h.1 ((any_isPrefixOf_iff hlist hlength).mp h.2)
  unfold add_lun_to_update_list
  rw [if_neg (by simp [hstat]), if_neg hsearch, update_data.push, dif_pos hroom]
  exact ⟨_, rfl, by simp only [hsame]⟩

/-- Beyond the last entry there is no room, for whatever path. -/
theorem add_lun_overflows (hstat : env.stat lun_path = true)
    (hfull : dat.lun_list.length = MAX_LUNS) :
    add_lun_to_update_list env lun_path dat = .error .out_of_bounds := by
  have hsearch : ¬ dat.num_valid_entries < MAX_LUNS - 1 := by
    rw [update_data.num_valid_entries, hfull]
    omega
  unfold add_lun_to_update_list
  rw [if_neg (by simp [hstat]), if_neg fun h => hsearch h.1, update_data.push,
    dif_neg (by omega)]
  rfl

theorem add_luns_concat (hadded : add_luns env paths = .ok dat) (lun_path : String) :
    add_luns env (paths ++ [lun_path]) = (add_lun_to_update_list env lun_path dat).map Prod.snd := by
  rw [add_luns] at hadded
  rw [add_luns, List.foldlM_append, hadded]
  cases hadd : add_lun_to_update_list env lun_path dat with
  | error fault => simp [bind, Except.bind, hadd, Except.map]
  | ok added => simp [bind, Except.bind, hadd, Except.map, pure, Except.pure]

theorem add_luns_concat_error {fault : Fault} (hadded : add_luns env paths = .error fault)
    (lun_path : String) : add_luns env (paths ++ [lun_path]) = .error fault := by
  rw [add_luns] at hadded
  rw [add_luns, List.foldlM_append, hadded]
  rfl

variable (hpaths : ∀ lun ∈ paths, env.stat lun = true ∧ strlen lun = PATH_TRUNCATE_LOC)

include hpaths

/-- Paths that fit are listed once each. -/
theorem add_luns_of_fits (hfits : Fits paths) :
    ∃ dat, add_luns env paths = .ok dat ∧ dat.lun_list = paths.eraseDups := by
  induction paths using List.reverseRecOn with
  | nil => exact ⟨update_data.cleared, rfl, rfl⟩
  | append_singleton paths lun_path ih =>
    obtain ⟨hfits, hroom⟩ := fits_concat.mp hfits
    obtain ⟨hstat, hlength⟩ := hpaths lun_path (by simp)
    obtain ⟨dat, hadded, hlist⟩ := ih (fun lun hlun => hpaths lun (List.mem_append_left _ hlun)) hfits
    have hmem : lun_path ∈ dat.lun_list ↔ lun_path ∈ paths := by
      rw [hlist, List.mem_eraseDups]
    have hlengths : ∀ lun ∈ dat.lun_list, strlen lun = PATH_TRUNCATE_LOC := by
      intro lun hlun
      rw [hlist, List.mem_eraseDups] at hlun
      exact (hpaths lun (List.mem_append_left _ hlun)).2
    rw [← hlist] at hroom
    rw [add_luns_concat hadded, eraseDups_concat]
    by_cases hfound : lun_path ∈ paths
    · have hshort : dat.lun_list.length < MAX_LUNS - 1 := hroom.resolve_right fun h => h.2 hfound
      rw [if_pos hfound, ← hlist]
      refine ⟨dat, ?_, rfl⟩
      rw [add_lun_found hstat hlengths hlength hshort (hmem.mpr hfound)]
      rfl
    · have hcapacity : 0 < MAX_LUNS := by decide
      have hshort : dat.lun_list.length < MAX_LUNS := by omega
      obtain ⟨dat', hpushed, hlist'⟩ := add_lun_pushed hstat hlengths hlength
        (fun _ => mt hmem.mp hfound) hshort
      rw [if_neg hfound, ← hlist, ← hlist']
      refine ⟨dat', ?_, rfl⟩
      rw [hpushed]
      rfl

/-- Where they do not fit, a path is listed twice, in a list that is full then, or the list
    overflows. -/
theorem add_luns_of_not_fits (hfits : ¬ Fits paths) : add_luns env paths = .error .out_of_bounds ∨
    ∃ dat, add_luns env paths = .ok dat ∧ dat.lun_list.length = MAX_LUNS ∧ ¬ dat.lun_list.Nodup := by
  induction paths using List.reverseRecOn with
  | nil => exact absurd fits_nil hfits
  | append_singleton paths lun_path ih =>
    obtain ⟨hstat, hlength⟩ := hpaths lun_path (by simp)
    have hbefore : ∀ lun ∈ paths, env.stat lun = true ∧ strlen lun = PATH_TRUNCATE_LOC :=
      fun lun hlun => hpaths lun (List.mem_append_left _ hlun)
    have hfull {dat : update_data} (hadded : add_luns env paths = .ok dat)
        (hfull : dat.lun_list.length = MAX_LUNS) :
        add_luns env (paths ++ [lun_path]) = .error .out_of_bounds := by
      rw [add_luns_concat hadded, add_lun_overflows hstat hfull]
      rfl
    by_cases hfits' : Fits paths
    · -- the paths before fit, and so it is this one that finds no room or is not looked for
      obtain ⟨dat, hadded, hlist⟩ := add_luns_of_fits hbefore hfits'
      rw [fits_concat, ← hlist] at hfits
      have hlengths : ∀ lun ∈ dat.lun_list, strlen lun = PATH_TRUNCATE_LOC := by
        intro lun hlun
        rw [hlist, List.mem_eraseDups] at hlun
        exact (hbefore lun hlun).2
      by_cases hlast : dat.lun_list.length = MAX_LUNS - 1
      · have hmem : lun_path ∈ dat.lun_list := by
          rw [hlist, List.mem_eraseDups]
          by_contra hnew
          exact hfits ⟨hfits', .inr ⟨hlast, hnew⟩⟩
        have hcapacity : 0 < MAX_LUNS := by decide
        obtain ⟨dat', hpushed, hlist'⟩ := add_lun_pushed hstat hlengths hlength (by omega) (by omega)
        refine .inr ⟨dat', ?_, ?_, ?_⟩
        · rw [add_luns_concat hadded, hpushed]
          rfl
        · rw [hlist', List.length_append, hlast]
          rfl
        · rw [hlist', List.nodup_append]
          exact fun hnodup => hnodup.2.2 lun_path hmem lun_path (by simp) rfl
      · have hroom := dat.num_valid_entries_le
        exact .inl (hfull hadded (by
          by_contra hshort
          exact hfits ⟨hfits', .inl (by omega)⟩))
    · obtain herror | ⟨dat, hadded, hlast, -⟩ := ih hbefore hfits'
      · exact .inl (add_luns_concat_error herror lun_path)
      · exact .inl (hfull hadded hlast)

theorem lists_of_fits (hfits : Fits paths) : Lists paths (add_luns env paths) := by
  obtain ⟨dat, hadded, hlist⟩ := add_luns_of_fits hpaths hfits
  refine ⟨dat, hadded, ?_⟩
  rw [hlist, List.take_of_length_le]
  exact hlist ▸ dat.num_valid_entries_le

theorem not_lists_of_not_fits (hfits : ¬ Fits paths) : ¬ Lists paths (add_luns env paths) := by
  rintro ⟨dat, hadded, hlist⟩
  obtain herror | ⟨dat', hadded', -, hnodup⟩ := add_luns_of_not_fits hpaths hfits
  · exact absurd (hadded.symm.trans herror) (by simp)
  · obtain rfl := Except.ok.inj (hadded.symm.trans hadded')
    exact hnodup (hlist ▸ (nodup_eraseDups paths).sublist (List.take_sublist _ _))

/-- Accessible paths of the length of `/dev/block/sda` are listed as they appear, once each and
    as far as there is room, exactly if they fit. -/
theorem lun_list_exact_iff : Lists paths (add_luns env paths) ↔ Fits paths :=
  ⟨fun hlists => by_contra fun hfits => not_lists_of_not_fits hpaths hfits hlists,
    lists_of_fits hpaths⟩

end calls

/-- The LUN that a turn of the loop over the names of the partitions comes to. -/
def bak_lun (env : Env) (ptn_name : Buffer) : Option String :=
  let buf := truncate (BOOT_DEV_DIR ++ "/" ++ characters ptn_name ++ "bak") (PATH_MAX - 1)
  if PTN_XBL.isPrefixOf ptn_name ∨ env.stat buf = false then none
  else
    (env.readlink buf).bind fun real_path =>
      let real_path := truncate real_path (PATH_MAX - 1)
      let lun := truncate real_path PATH_TRUNCATE_LOC
      if strlen real_path < PATH_TRUNCATE_LOC + 1 ∨ env.stat lun = false then none else some lun

theorem bak_lun_some {env : Env} {ptn_name : Buffer} {lun : String}
    (hlun : bak_lun env ptn_name = some lun) :
    env.stat lun = true ∧ strlen lun = PATH_TRUNCATE_LOC := by
  unfold bak_lun at hlun
  dsimp only at hlun
  split_ifs at hlun
  obtain ⟨real_path, -, hlun⟩ := Option.bind_eq_some_iff.mp hlun
  split_ifs at hlun with hskip
  rw [not_or, Bool.not_eq_false] at hskip
  obtain rfl := Option.some.inj hlun
  exact ⟨hskip.2, strlen_truncate (by omega)⟩

/-- A turn of the loop adds its LUN to the list, or nothing. -/
theorem add_partition_eq (env : Env) (data : update_data) (ptn_name : Buffer) :
    prepare_boot_update.add_partition env data ptn_name =
      match bak_lun env ptn_name with
      | none => .ok data
      | some lun => (add_lun_to_update_list env lun data).map Prod.snd := by
  unfold prepare_boot_update.add_partition bak_lun
  dsimp only
  generalize truncate (BOOT_DEV_DIR ++ "/" ++ characters ptn_name ++ "bak") (PATH_MAX - 1) = buf
  by_cases hxbl : PTN_XBL.isPrefixOf ptn_name = true
  · simp [hxbl, pure, Except.pure]
  by_cases hbuf : env.stat buf = true
  · rw [if_neg hxbl, if_neg (by simp [hbuf]), if_neg (by simp [hxbl, hbuf])]
    cases env.readlink buf with
    | none => rfl
    | some real_path =>
      rw [Option.bind_some]
      dsimp only
      generalize truncate real_path (PATH_MAX - 1) = real_path
      by_cases hshort : strlen real_path < PATH_TRUNCATE_LOC + 1
      · simp [hshort, pure, Except.pure]
      by_cases hlun : env.stat (truncate real_path PATH_TRUNCATE_LOC) = true
      · rw [if_neg hshort, if_neg (by simp [hshort, hlun])]
        dsimp only
        cases add_lun_to_update_list env (truncate real_path PATH_TRUNCATE_LOC) data <;> rfl
      · simp [hshort, hlun, add_lun_to_update_list, bind, Except.bind, pure, Except.pure]
  · simp [hxbl, hbuf, pure, Except.pure]

/-- The list that the update is carried out on holds the LUN of every partition, once each and in
    the order of the partitions. -/
theorem data_lun_list (env : Env) : ∃ data, prepare_boot_update.data env = .ok data ∧
    data.lun_list = (PTN_SWAP_LIST.filterMap (bak_lun env)).eraseDups := by
  have hfold (names : List Buffer) (data : update_data) :
      names.foldlM (prepare_boot_update.add_partition env) data =
        (names.filterMap (bak_lun env)).foldlM (fun dat lun_path => do
          let (_, dat) ← add_lun_to_update_list env lun_path dat
          return dat) data := by
    induction names generalizing data with
    | nil => rfl
    | cons name names ih =>
      rw [List.foldlM_cons, add_partition_eq]
      cases hlun : bak_lun env name with
      | none =>
        rw [List.filterMap_cons_none hlun]
        exact ih data
      | some lun =>
        rw [List.filterMap_cons_some hlun, List.foldlM_cons]
        dsimp only
        cases add_lun_to_update_list env lun data with
        | error fault => rfl
        | ok added => exact ih added.2
  have hlength : (PTN_SWAP_LIST.filterMap (bak_lun env)).length ≤ MAX_LUNS - 1 :=
    (List.length_filterMap_le _ _).trans (by decide)
  rw [prepare_boot_update.data, hfold]
  refine add_luns_of_fits (fun lun hlun => ?_) (fits_of_length hlength)
  obtain ⟨name, -, hname⟩ := List.mem_filterMap.mp hlun
  exact bak_lun_some hname

/-- The paths of the first LUNs. -/
def luns (count : Nat) : List String :=
  (List.range count).map fun n => String.ofList ("/dev/block/sd".toList ++ [Char.ofNat (97 + n)])

theorem lun_list_exact_twice : Lists ["/dev/block/sda", "/dev/block/sdb", "/dev/block/sda"]
    (add_luns ufs ["/dev/block/sda", "/dev/block/sdb", "/dev/block/sda"]) :=
  (lun_list_exact_iff (by decide)).mpr (fits_of_length (by decide))

/-- A path that is repeated after `MAX_LUNS - 1` others is listed again. -/
theorem repeated_lun_listed : ¬ ∀ (env : Env) (paths : List String),
    (∀ lun ∈ paths, env.stat lun = true ∧ strlen lun = PATH_TRUNCATE_LOC) →
      Lists paths (add_luns env paths) := by
  intro hlists
  have hpaths : ∀ lun ∈ luns 25 ++ ["/dev/block/sda"],
      ufs.stat lun = true ∧ strlen lun = PATH_TRUNCATE_LOC := by decide
  refine not_lists_of_not_fits hpaths (fun hfits => ?_) (hlists ufs _ hpaths)
  obtain hroom | ⟨-, hnew⟩ := hfits (luns 25) "/dev/block/sda" [] rfl
  · exact absurd hroom (by decide +kernel)
  · exact absurd (by decide) hnew

end gpt_utils
