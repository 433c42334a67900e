import OnePlus7Pro.Startup.GestureKeys
import Mathlib.Data.List.Nodup

namespace device_parts

structure ComponentName where
  packageName : String
  className : String
  deriving DecidableEq

namespace ComponentName

def flattenToString (self : ComponentName) : String := self.packageName ++ "/" ++ self.className

/-- `ComponentName.unflattenFromString`: a class that begins with a dot is one of the package. -/
def unflattenFromString (str : String) : Option ComponentName :=
  let sep := str.toList.idxOf '/'
  if str.length ≤ sep + 1 then none
  else
    let pkg := str.toList.take sep
    let cls := str.toList.drop (sep + 1)
    some ⟨.ofList pkg, .ofList (if cls.head? = some '.' then pkg ++ cls else cls)⟩

/-- The names of a package and of a class, which is given in full. -/
structure WellFormed (component : ComponentName) : Prop where
  packageName : '/' ∉ component.packageName.toList
  className : component.className ≠ ""
  full : component.className.toList.head? ≠ some '.'

instance (self : ComponentName) : Decidable self.WellFormed :=
  decidable_of_iff ('/' ∉ self.packageName.toList ∧ self.className ≠ "" ∧ self.className.toList.head? ≠ some '.')
    ⟨fun h => ⟨h.1, h.2.1, h.2.2⟩, fun h => ⟨h.packageName, h.className, h.full⟩⟩

end ComponentName

/-- The texts of the preference that are resources. -/
inductive StringResource where
  | not_ready_summary
  | resolve_failed_summary
  | disabled_entry
  | wake_entry
  | music_play_entry
  | music_prev_entry
  | music_next_entry
  | torch_entry
  | camera_entry
  deriving DecidableEq

inductive Title where
  | resource (id : StringResource)
  | label (text : String)
  deriving DecidableEq

inductive DrawableResource where
  | ic_disabled
  | ic_wakeup
  | ic_music_play
  | ic_music_prev
  | ic_music_next
  | ic_flashlight
  | ic_camera
  deriving DecidableEq

/-- An icon: a resource, that of an activity, or the one for activities that have none. -/
inductive Icon where
  | resource (id : DrawableResource)
  | activity (component : ComponentName)
  | sym_def_app_icon
  deriving DecidableEq

/-- An entry of the list: an application, or an action that is no application. -/
structure PackageItem where
  mTitle : Title
  mAppIconResourceId : Option DrawableResource
  mComponentName : Option ComponentName
  mValue : String
  deriving DecidableEq

namespace PackageItem

def application (package : ComponentName × String) : PackageItem :=
  ⟨.label package.2, none, some package.1, package.1.flattenToString⟩

def special (title : StringResource) (icon : DrawableResource) (value : String) : PackageItem :=
  ⟨.resource title, some icon, none, value⟩

end PackageItem

/-- The entries that `addSpecialApps` puts in front, each before the last. -/
def specialApps : List PackageItem :=
  [.special .disabled_entry .ic_disabled DISABLED_ENTRY,
    .special .wake_entry .ic_wakeup WAKE_ENTRY,
    .special .music_play_entry .ic_music_play MUSIC_PLAY_ENTRY,
    .special .music_prev_entry .ic_music_prev MUSIC_PREV_ENTRY,
    .special .music_next_entry .ic_music_next MUSIC_NEXT_ENTRY,
    .special .torch_entry .ic_flashlight TORCH_ENTRY,
    .special .camera_entry .ic_camera CAMERA_ENTRY]

/-- The preference of a gesture: its list, its value, and what it shows. -/
structure AppSelectListPreference where
  mInstalledPackages : List PackageItem
  mValue : Option String
  mTitle : Option Title
  mAppIconResourceId : Option DrawableResource
  mAppIconDrawable : Option Icon
  summary : Title
  icon : Option Icon
  deriving DecidableEq

namespace AppSelectListPreference

/-- `onSetInitialValue` of a new preference, and `setValue`. -/
def create (value : Option String) : AppSelectListPreference where
  mInstalledPackages := []
  mValue := value
  mTitle := none
  mAppIconResourceId := some .ic_disabled
  mAppIconDrawable := none
  summary := .resource .not_ready_summary
  icon := some (.resource .ic_disabled)

def resolveApplication (self : AppSelectListPreference) (componentName : Option ComponentName) :
    Option PackageItem :=
  self.mInstalledPackages.find? fun item => item.mComponentName.isSome && item.mComponentName = componentName

/-- `resolveAppIcon`, given which activities have an icon. -/
def resolveAppIcon (hasIcon : ComponentName → Bool) (item : PackageItem) : Icon :=
  match item.mComponentName with
  | some component => if hasIcon component then .activity component else .sym_def_app_icon
  | none => .sym_def_app_icon

def showResource (self : AppSelectListPreference) (title : StringResource) (icon : DrawableResource) :
    AppSelectListPreference :=
  { self with mTitle := some (.resource title), mAppIconResourceId := some icon }

/-- What the preference shows of its own value, which it does not persist. -/
def updatePreferenceViews (self : AppSelectListPreference) (hasIcon : ComponentName → Bool) :
    AppSelectListPreference :=
  let self := { self with mAppIconResourceId := some .ic_disabled }
  let self :=
    match self.mValue with
    | some name =>
      let self := { self with mAppIconDrawable := none }
      if name = DISABLED_ENTRY then self.showResource .disabled_entry .ic_disabled
      else if name = TORCH_ENTRY then self.showResource .torch_entry .ic_flashlight
      else if name = CAMERA_ENTRY then self.showResource .camera_entry .ic_camera
      else if name = MUSIC_PLAY_ENTRY then self.showResource .music_play_entry .ic_music_play
      else if name = MUSIC_NEXT_ENTRY then self.showResource .music_next_entry .ic_music_next
      else if name = MUSIC_PREV_ENTRY then self.showResource .music_prev_entry .ic_music_prev
      else if name = WAKE_ENTRY then self.showResource .wake_entry .ic_wakeup
      else
        match self.resolveApplication (ComponentName.unflattenFromString name) with
        | some item =>
          { self with mTitle := some item.mTitle, mAppIconDrawable := some (resolveAppIcon hasIcon item) }
        | none => { self with mTitle := some (.resource .resolve_failed_summary) }
    | none => self.showResource .disabled_entry .ic_disabled
  { self with
    summary := self.mTitle.getD self.summary
    icon := self.mAppIconDrawable <|> self.mAppIconResourceId.map .resource }

/-- The packages as the settings have loaded and sorted them. -/
def setPackageList (self : AppSelectListPreference) (hasIcon : ComponentName → Bool)
    (installedPackages : List (ComponentName × String)) : AppSelectListPreference :=
  let self := { self with mInstalledPackages := specialApps ++ installedPackages.map PackageItem.application }
  self.updatePreferenceViews hasIcon

/-- A click on an entry of the list, as far as the preference is concerned. -/
def onItemClick (self : AppSelectListPreference) (hasIcon : ComponentName → Bool) (info : PackageItem) :
    AppSelectListPreference :=
  let self := { self with
    mValue := some info.mValue
    mTitle := some info.mTitle
    mAppIconDrawable := if info.mComponentName.isSome then some (resolveAppIcon hasIcon info) else none
    mAppIconResourceId := if info.mComponentName.isSome then none else info.mAppIconResourceId }
  self.updatePreferenceViews hasIcon

end AppSelectListPreference

/-- The phone and its open gesture settings. -/
structure GestureScreen where
  phone : Phone
  prefs : Gesture → AppSelectListPreference

/-- The settings are opened, the packages are loaded, and an entry of a list is clicked. -/
inductive GestureEvent where
  | onCreatePreferences
  | onPostExecute (installedPackages : List (ComponentName × String))
  | onItemClick (gesture : Gesture) (position : Nat)
  deriving DecidableEq

namespace GestureScreen

def create (phone : Phone) : GestureScreen := ⟨phone, fun gesture => .create (phone.mappings gesture)⟩

/-- What was clicked is told to the settings, which map the gesture. -/
def step (hasIcon : ComponentName → Bool) (self : GestureScreen) : GestureEvent → GestureScreen
  | .onCreatePreferences => create self.phone
  | .onPostExecute installedPackages =>
    { self with prefs := fun gesture => (self.prefs gesture).setPackageList hasIcon installedPackages }
  | .onItemClick gesture position =>
    match (self.prefs gesture).mInstalledPackages[position]? with
    | none => self
    | some info =>
      { phone := self.phone.onGestureChange gesture info.mValue
        prefs := Function.update self.prefs gesture ((self.prefs gesture).onItemClick hasIcon info) }

end GestureScreen

/-- The packages that were loaded since the settings were opened. -/
def loaded (packages : Option (List (ComponentName × String))) :
    GestureEvent → Option (List (ComponentName × String))
  | .onCreatePreferences => none
  | .onPostExecute installedPackages => some installedPackages
  | .onItemClick .. => packages

/-- The list that is shown of the packages. -/
def listed (packages : Option (List (ComponentName × String))) : List PackageItem :=
  packages.elim [] fun packages => specialApps ++ packages.map PackageItem.application

/-- The entry that a value stands for: an action, or the first application with its component. -/
def standsFor (items : List PackageItem) (name : String) : Option PackageItem :=
  (specialApps.find? fun item => item.mValue = name).or
    (items.find? fun item => item.mComponentName.isSome &&
      item.mComponentName = ComponentName.unflattenFromString name)

/-- What a text of the preference says about its gesture. -/
def Phone.Tells (self : Phone) (packages : List (ComponentName × String)) (playing : Playing) (gesture : Gesture) :
    Title → Prop :=
  let event : KeyEvent := ⟨.ACTION_UP, gesture.scanCode⟩
  let launch := self.isActivityLaunchEvent playing event
  fun
  | .resource .not_ready_summary => False
  | .resource .disabled_entry => ¬ self.Answers playing event
  | .resource .wake_entry => (self.isWakeEvent event).1 = true
  | .resource .camera_entry => self.isCameraLaunchEvent event = true
  | .resource .torch_entry => some launch = (launchSpecialActions playing TORCH_ENTRY).map .special
  | .resource .music_play_entry => some launch = (launchSpecialActions playing MUSIC_PLAY_ENTRY).map .special
  | .resource .music_prev_entry => some launch = (launchSpecialActions playing MUSIC_PREV_ENTRY).map .special
  | .resource .music_next_entry => some launch = (launchSpecialActions playing MUSIC_NEXT_ENTRY).map .special
  | .label text => ∃ component value, launch = .intent value ∧
      ComponentName.unflattenFromString value = some component ∧ (component, text) ∈ packages
  | .resource .resolve_failed_summary => launch = .nothing ∨ ∃ value, launch = .intent value ∧
      ∀ package ∈ packages, ComponentName.unflattenFromString value ≠ some package.1

/-- The icon that an entry is shown with. -/
def PackageItem.icon (hasIcon : ComponentName → Bool) (self : PackageItem) : Option Icon :=
  if self.mComponentName.isSome then some (AppSelectListPreference.resolveAppIcon hasIcon self)
  else self.mAppIconResourceId.map .resource

/-- The preference shows what its value stands for. -/
structure AppSelectListPreference.Shows (hasIcon : ComponentName → Bool) (pref : AppSelectListPreference) :
    Prop where
  absent : pref.mValue = none → pref.summary = .resource .disabled_entry
  entry : ∀ name item, pref.mValue = some name → standsFor pref.mInstalledPackages name = some item →
    pref.summary = item.mTitle ∧ pref.icon = item.icon hasIcon
  unknown : ∀ name, pref.mValue = some name → standsFor pref.mInstalledPackages name = none →
    pref.summary = .resource .resolve_failed_summary

variable {hasIcon : ComponentName → Bool} {packages : Option (List (ComponentName × String))}
  {screen : GestureScreen} {pref : AppSelectListPreference} {name : String}

theorem standsFor_special {item : PackageItem} (hspecial : item ∈ specialApps) (items : List PackageItem) :
    standsFor items item.mValue = some item := by
  simp only [specialApps, List.mem_cons, List.not_mem_nil, or_false] at hspecial
  obtain rfl | rfl | rfl | rfl | rfl | rfl | rfl := hspecial <;> rfl

theorem find?_special_eq_none_iff : specialApps.find? (fun item => item.mValue = name) = none ↔
    name ≠ DISABLED_ENTRY ∧ name ≠ WAKE_ENTRY ∧ name ≠ MUSIC_PLAY_ENTRY ∧ name ≠ MUSIC_PREV_ENTRY ∧
      name ≠ MUSIC_NEXT_ENTRY ∧ name ≠ TORCH_ENTRY ∧ name ≠ CAMERA_ENTRY := by
  simp [specialApps, PackageItem.special, List.find?_eq_none, eq_comm (a := name)]

namespace AppSelectListPreference

/-- What is shown of an action. -/
theorem shows_special (item : PackageItem) (hspecial : item ∈ specialApps) (hvalue : pref.mValue = some item.mValue)
    (hsummary : pref.summary = item.mTitle) (hicon : pref.icon = item.icon hasIcon) : pref.Shows hasIcon where
  absent hnone := by simp [hvalue] at hnone
  entry name item' hname hitem := by
    obtain rfl := Option.some.inj (hvalue.symm.trans hname)
    obtain rfl := Option.some.inj ((standsFor_special hspecial _).symm.trans hitem)
    exact ⟨hsummary, hicon⟩
  unknown name hname hitem := by
    obtain rfl := Option.some.inj (hvalue.symm.trans hname)
    rw [standsFor_special hspecial] at hitem
    cases hitem

theorem shows_updatePreferenceViews (pref : AppSelectListPreference) (hasIcon : ComponentName → Bool) :
    (pref.updatePreferenceViews hasIcon).mValue = pref.mValue ∧
      (pref.updatePreferenceViews hasIcon).mInstalledPackages = pref.mInstalledPackages ∧
      (pref.updatePreferenceViews hasIcon).Shows hasIcon := by
  cases hvalue : pref.mValue with
  | none =>
    simp only [updatePreferenceViews, hvalue]
    exact ⟨rfl, rfl, ⟨fun _ => rfl, nofun, nofun⟩⟩
  | some name =>
    simp only [updatePreferenceViews, hvalue]
    by_cases hdisabled : name = DISABLED_ENTRY
    · subst hdisabled
      exact ⟨rfl, rfl, shows_special (.special .disabled_entry .ic_disabled DISABLED_ENTRY) (by simp [specialApps])
        rfl rfl rfl⟩
    rw [if_neg hdisabled]
    by_cases htorch : name = TORCH_ENTRY
    · subst htorch
      exact ⟨rfl, rfl, shows_special (.special .torch_entry .ic_flashlight TORCH_ENTRY) (by simp [specialApps])
        rfl rfl rfl⟩
    rw [if_neg htorch]
    by_cases hcamera : name = CAMERA_ENTRY
    · subst hcamera
      exact ⟨rfl, rfl, shows_special (.special .camera_entry .ic_camera CAMERA_ENTRY) (by simp [specialApps])
        rfl rfl rfl⟩
    rw [if_neg hcamera]
    by_cases hplay : name = MUSIC_PLAY_ENTRY
    · subst hplay
      exact ⟨rfl, rfl, shows_special (.special .music_play_entry .ic_music_play MUSIC_PLAY_ENTRY)
        (by simp [specialApps]) rfl rfl rfl⟩
    rw [if_neg hplay]
    by_cases hnext : name = MUSIC_NEXT_ENTRY
    · subst hnext
      exact ⟨rfl, rfl, shows_special (.special .music_next_entry .ic_music_next MUSIC_NEXT_ENTRY)
        (by simp [specialApps]) rfl rfl rfl⟩
    rw [if_neg hnext]
    by_cases hprev : name = MUSIC_PREV_ENTRY
    · subst hprev
      exact ⟨rfl, rfl, shows_special (.special .music_prev_entry .ic_music_prev MUSIC_PREV_ENTRY)
        (by simp [specialApps]) rfl rfl rfl⟩
    rw [if_neg hprev]
    by_cases hwake : name = WAKE_ENTRY
    · subst hwake
      exact ⟨rfl, rfl, shows_special (.special .wake_entry .ic_wakeup WAKE_ENTRY) (by simp [specialApps])
        rfl rfl rfl⟩
    rw [if_neg hwake]
    -- no action has this value, so the applications decide
    have happlication : specialApps.find? (fun item => item.mValue = name) = none :=
      find?_special_eq_none_iff.mpr ⟨hdisabled, hwake, hplay, hprev, hnext, htorch, hcamera⟩
    have hstands : standsFor pref.mInstalledPackages name = pref.mInstalledPackages.find? fun item =>
        item.mComponentName.isSome && item.mComponentName = ComponentName.unflattenFromString name := by
      rw [standsFor, happlication]
      rfl
    simp only [resolveApplication, ← hstands]
    cases hitem : standsFor pref.mInstalledPackages name with
    | none =>
      refine ⟨rfl, rfl, nofun, fun other item hname hother => ?_, fun _ _ _ => rfl⟩
      obtain rfl := Option.some.inj hname
      rw [hitem] at hother
      cases hother
    | some item =>
      refine ⟨rfl, rfl, nofun, fun other item' hname hother => ?_, fun other hname hother => ?_⟩
      · obtain rfl := Option.some.inj hname
        obtain rfl := Option.some.inj (hitem.symm.trans hother)
        have hcomponent : item.mComponentName.isSome = true := by
          rw [hstands] at hitem
          simpa using (Bool.and_eq_true _ _ ▸ List.find?_some hitem).1
        exact ⟨rfl, by simp [PackageItem.icon, hcomponent]⟩
      · obtain rfl := Option.some.inj hname
        rw [hitem] at hother
        cases hother

theorem shows_onItemClick (pref : AppSelectListPreference) (hasIcon : ComponentName → Bool) (info : PackageItem) :
    (pref.onItemClick hasIcon info).mValue = some info.mValue ∧
      (pref.onItemClick hasIcon info).mInstalledPackages = pref.mInstalledPackages ∧
      (pref.onItemClick hasIcon info).Shows hasIcon :=
  shows_updatePreferenceViews _ hasIcon

theorem shows_setPackageList (pref : AppSelectListPreference) (hasIcon : ComponentName → Bool)
    (installedPackages : List (ComponentName × String)) :
    (pref.setPackageList hasIcon installedPackages).mValue = pref.mValue ∧
      (pref.setPackageList hasIcon installedPackages).mInstalledPackages = listed (some installedPackages) ∧
      (pref.setPackageList hasIcon installedPackages).Shows hasIcon :=
  shows_updatePreferenceViews _ hasIcon

end AppSelectListPreference

/-- The preferences show the mappings of their gestures once the packages are loaded. -/
structure GestureScreen.Follows (hasIcon : ComponentName → Bool)
    (packages : Option (List (ComponentName × String))) (screen : GestureScreen) : Prop where
  values : ∀ gesture, (screen.prefs gesture).mValue = screen.phone.mappings gesture
  lists : ∀ gesture, (screen.prefs gesture).mInstalledPackages = listed packages
  pending : packages = none → ∀ gesture, (screen.prefs gesture).summary = .resource .not_ready_summary
  shown : packages.isSome → ∀ gesture, (screen.prefs gesture).Shows hasIcon

theorem GestureScreen.follows_create (hasIcon : ComponentName → Bool) (phone : Phone) :
    (create phone).Follows hasIcon none where
  values _ := rfl
  lists _ := rfl
  pending _ _ := rfl
  shown := nofun

theorem GestureScreen.Follows.step (hfollows : screen.Follows hasIcon packages) (event : GestureEvent) :
    (screen.step hasIcon event).Follows hasIcon (loaded packages event) := by
  cases event with
  | onCreatePreferences => exact follows_create hasIcon screen.phone
  | onPostExecute installedPackages =>
    have hviews := fun gesture => (screen.prefs gesture).shows_setPackageList hasIcon installedPackages
    exact {
      values := fun gesture => (hviews gesture).1.trans (hfollows.values gesture)
      lists := fun gesture => (hviews gesture).2.1
      pending := nofun
      shown := fun _ gesture => (hviews gesture).2.2 }
  | onItemClick gesture position =>
    rw [GestureScreen.step, hfollows.lists]
    cases hinfo : (listed packages)[position]? with
    | none => exact hfollows
    | some info =>
      have hloaded : packages.isSome := by
        cases packages with
        | none => simp [listed] at hinfo
        | some _ => rfl
      obtain ⟨hvalue, hlist, hshows⟩ := (screen.prefs gesture).shows_onItemClick hasIcon info
      refine ⟨fun other => ?_, fun other => ?_, fun hnone => ?_, fun _ other => ?_⟩
      · simp only [mappings_onGestureChange]
        by_cases hother : other = gesture
        · subst hother
          simpa using hvalue
        · simpa [hother] using hfollows.values other
      · rw [loaded, ← hfollows.lists other]
        by_cases hother : other = gesture
        · subst hother
          simpa using hlist
        · simp [hother]
      · have hpackages : packages = none := hnone
        simp [hpackages] at hloaded
      · by_cases hother : other = gesture
        · subst hother
          simpa using hshows
        · simpa [hother] using hfollows.shown hloaded other

/-- The key handler launches what a gesture is mapped to. -/
theorem isActivityLaunchEvent_mapped {phone : Phone} {gesture : Gesture}
    (hmapping : phone.mappings gesture = some name) (hempty : name ≠ "") (hdisabled : name ≠ DISABLED_ENTRY)
    (playing : Playing) :
    phone.isActivityLaunchEvent playing ⟨.ACTION_UP, gesture.scanCode⟩ =
      (launchSpecialActions playing name).elim (.intent name) .special := by
  rw [Phone.isActivityLaunchEvent, if_neg (by simp)]
  simp only [getGestureValueForScanCode_scanCode, hmapping, Option.getD_some]
  rw [if_pos (by simp [hempty, hdisabled])]
  cases launchSpecialActions playing name <;> rfl

theorem launchSpecialActions_eq_none (playing : Playing)
    (happlication : specialApps.find? (fun item => item.mValue = name) = none) :
    launchSpecialActions playing name = none := by
  obtain ⟨-, -, hplay, hprev, hnext, htorch, -⟩ := find?_special_eq_none_iff.mp happlication
  rw [launchSpecialActions, if_neg htorch, if_neg hplay, if_neg hnext, if_neg hprev]

/-- An entry that a value stands for is an action with that value, or one of the packages. -/
theorem standsFor_listed {loaded : List (ComponentName × String)} {item : PackageItem}
    (hitem : standsFor (listed (some loaded)) name = some item) :
    (item ∈ specialApps ∧ item.mValue = name) ∨
      (specialApps.find? (fun item => item.mValue = name) = none ∧
        ∃ package ∈ loaded, item = .application package ∧
          ComponentName.unflattenFromString name = some package.1) := by
  rw [standsFor] at hitem
  cases hspecial : specialApps.find? fun item => item.mValue = name with
  | some action =>
    rw [hspecial] at hitem
    obtain rfl : action = item := Option.some.inj hitem
    exact .inl ⟨List.mem_of_find?_eq_some hspecial, by simpa using List.find?_some hspecial⟩
  | none =>
    rw [hspecial] at hitem
    rw [Option.none_or] at hitem
    have hcomponent := List.find?_some hitem
    rw [Bool.and_eq_true, decide_eq_true_eq] at hcomponent
    refine .inr ⟨rfl, ?_⟩
    obtain haction | happlication := List.mem_append.mp (List.mem_of_find?_eq_some hitem)
    · -- the actions have no component
      have hnone : ∀ action ∈ specialApps, action.mComponentName = none := by decide
      simp [hnone item haction] at hcomponent
    · obtain ⟨package, hpackage, rfl⟩ := List.mem_map.mp happlication
      exact ⟨package, hpackage, rfl, hcomponent.2.symm⟩

theorem launch_component {phone : Phone} {gesture : Gesture} (hmapping : phone.mappings gesture = some name)
    (happlication : specialApps.find? (fun item => item.mValue = name) = none) {component : ComponentName}
    (hcomponent : ComponentName.unflattenFromString name = some component) (playing : Playing) :
    phone.isActivityLaunchEvent playing ⟨.ACTION_UP, gesture.scanCode⟩ = .intent name := by
  have hempty : name ≠ "" := by
    rintro rfl
    simp [ComponentName.unflattenFromString] at hcomponent
  rw [isActivityLaunchEvent_mapped hmapping hempty (find?_special_eq_none_iff.mp happlication).1,
    launchSpecialActions_eq_none playing happlication]
  rfl

theorem tells_unknown {phone : Phone} {gesture : Gesture} (hmapping : phone.mappings gesture = some name)
    {loaded : List (ComponentName × String)} (hitem : standsFor (listed (some loaded)) name = none)
    (playing : Playing) : phone.Tells loaded playing gesture (.resource .resolve_failed_summary) := by
  rw [standsFor, Option.or_eq_none_iff] at hitem
  obtain ⟨happlication, hpackages⟩ := hitem
  by_cases hempty : name = ""
  · refine .inl ((isActivityLaunchEvent_eq_nothing_iff phone playing gesture).mpr ?_)
    simp [hmapping, hempty]
  · refine .inr ⟨name, ?_, fun package hpackage hcomponent => ?_⟩
    · rw [isActivityLaunchEvent_mapped hmapping hempty (find?_special_eq_none_iff.mp happlication).1,
        launchSpecialActions_eq_none playing happlication]
      rfl
    · have hlisted : PackageItem.application package ∈ listed (some loaded) :=
        List.mem_append_right specialApps (List.mem_map_of_mem hpackage)
      have hmissed := List.find?_eq_none.mp hpackages _ hlisted
      simp [PackageItem.application, hcomponent] at hmissed

theorem launch_special {phone : Phone} {gesture : Gesture} {playing : Playing} {effects : List Effect}
    (hmapping : phone.mappings gesture = some name) (hspecial : launchSpecialActions playing name = some effects) :
    some (phone.isActivityLaunchEvent playing ⟨.ACTION_UP, gesture.scanCode⟩) =
      (launchSpecialActions playing name).map .special := by
  have hempty : name ≠ "" := by
    rintro rfl
    simp [launchSpecialActions, TORCH_ENTRY, MUSIC_PLAY_ENTRY, MUSIC_NEXT_ENTRY, MUSIC_PREV_ENTRY] at hspecial
  have hdisabled : name ≠ DISABLED_ENTRY := by
    rintro rfl
    simp [launchSpecialActions, DISABLED_ENTRY, TORCH_ENTRY, MUSIC_PLAY_ENTRY, MUSIC_NEXT_ENTRY,
      MUSIC_PREV_ENTRY] at hspecial
  rw [isActivityLaunchEvent_mapped hmapping hempty hdisabled, hspecial]
  rfl

/-- An action that a gesture is mapped to is what the key handler does. -/
theorem tells_special {phone : Phone} {gesture : Gesture} {item : PackageItem}
    (hmapping : phone.mappings gesture = some item.mValue) (haction : item ∈ specialApps)
    (playing : Playing) (loaded : List (ComponentName × String)) :
    phone.Tells loaded playing gesture item.mTitle := by
  simp only [specialApps, List.mem_cons, List.not_mem_nil, or_false] at haction
  obtain rfl | rfl | rfl | rfl | rfl | rfl | rfl := haction
  · simp [Phone.Tells, answers_scanCode_iff, hmapping, PackageItem.special]
  · simp [Phone.Tells, isWakeEvent_scanCode_iff, hmapping, PackageItem.special]
  · exact launch_special hmapping rfl
  · exact launch_special hmapping rfl
  · exact launch_special hmapping rfl
  · exact launch_special hmapping rfl
  · simp [Phone.Tells, isCameraLaunchEvent_scanCode_iff, hmapping, PackageItem.special]

/-- What a preference says is what the key handler does. -/
theorem GestureScreen.Follows.tells {loaded : List (ComponentName × String)}
    (hfollows : screen.Follows hasIcon (some loaded)) (playing : Playing) (gesture : Gesture) :
    screen.phone.Tells loaded playing gesture (screen.prefs gesture).summary := by
  have hshows := hfollows.shown rfl gesture
  have hlist := hfollows.lists gesture
  have hvalue := hfollows.values gesture
  cases hmapping : screen.phone.mappings gesture with
  | none =>
    rw [hmapping] at hvalue
    rw [hshows.absent hvalue]
    simp [Phone.Tells, answers_scanCode_iff, hmapping]
  | some name =>
    rw [hmapping] at hvalue
    cases hitem : standsFor (listed (some loaded)) name with
    | none =>
      rw [hshows.unknown name hvalue (hlist ▸ hitem)]
      exact tells_unknown hmapping hitem playing
    | some item =>
      rw [(hshows.entry name item hvalue (hlist ▸ hitem)).1]
      obtain ⟨haction, rfl⟩ | ⟨happlication, package, hpackage, rfl, hcomponent⟩ := standsFor_listed hitem
      · exact tells_special hmapping haction playing loaded
      · have hlaunch := launch_component hmapping happlication hcomponent playing
        exact ⟨package.1, name, hlaunch, hcomponent, hpackage⟩

theorem GestureScreen.follows_run (hasIcon : ComponentName → Bool) (phone : Phone) (events : List GestureEvent) :
    (events.foldl (step hasIcon) (create phone)).Follows hasIcon (events.foldl loaded none) := by
  induction events using List.reverseRecOn with
  | nil => exact follows_create hasIcon phone
  | append_singleton events event ih =>
    rw [List.foldl_append, List.foldl_append]
    exact ih.step event

/-- However the settings are opened, the packages loaded and the entries clicked: every preference
    says what the key handler does for its gesture, once the packages are loaded. -/
theorem summary_tells (hasIcon : ComponentName → Bool) (phone : Phone) (events : List GestureEvent)
    (playing : Playing) (gesture : Gesture) :
    let screen := events.foldl (GestureScreen.step hasIcon) (.create phone)
    (events.foldl loaded none).elim ((screen.prefs gesture).summary = .resource .not_ready_summary)
      fun packages => screen.phone.Tells packages playing gesture (screen.prefs gesture).summary := by
  have hfollows := GestureScreen.follows_run hasIcon phone events
  cases hloaded : events.foldl loaded none with
  | none => exact hfollows.pending hloaded gesture
  | some packages =>
    rw [hloaded] at hfollows
    exact hfollows.tells playing gesture

theorem ComponentName.unflatten_flatten {component : ComponentName} (hwf : component.WellFormed) :
    unflattenFromString component.flattenToString = some component := by
  obtain ⟨packageName, className⟩ := component
  have hchars : (flattenToString ⟨packageName, className⟩).toList =
      packageName.toList ++ '/' :: className.toList := by
    simp [flattenToString]
  have hsep : (packageName.toList ++ '/' :: className.toList).idxOf '/' = packageName.toList.length := by
    rw [List.idxOf_append_of_notMem hwf.packageName, List.idxOf_cons_self, Nat.add_zero]
  have hlength : ¬ (flattenToString ⟨packageName, className⟩).length ≤ packageName.toList.length + 1 := by
    have hnonempty : className.toList ≠ [] := by simpa using hwf.className
    rw [← String.length_toList, hchars]
    have := List.length_pos_iff.mpr hnonempty
    simp only [List.length_append, List.length_cons]
    omega
  have hcls : (packageName.toList ++ '/' :: className.toList).drop (packageName.toList.length + 1) =
      className.toList := by
    simp [List.drop_append]
  simp only [unflattenFromString, hchars, hsep]
  rw [if_neg hlength, hcls, List.take_left, if_neg hwf.full, String.ofList_toList, String.ofList_toList]

/-- The packages that are loaded have components of their own. -/
structure Distinct (packages : List (ComponentName × String)) : Prop where
  wellFormed : ∀ package ∈ packages, package.1.WellFormed
  nodup : (packages.map Prod.fst).Nodup

instance (packages : List (ComponentName × String)) : Decidable (Distinct packages) :=
  decidable_of_iff ((∀ package ∈ packages, package.1.WellFormed) ∧ (packages.map Prod.fst).Nodup)
    ⟨fun h => ⟨h.1, h.2⟩, fun h => ⟨h.wellFormed, h.nodup⟩⟩

def GestureEvent.Distinct : GestureEvent → Prop
  | .onPostExecute installedPackages => device_parts.Distinct installedPackages
  | _ => True

instance : (event : GestureEvent) → Decidable event.Distinct
  | .onCreatePreferences => inferInstanceAs (Decidable True)
  | .onPostExecute installedPackages => inferInstanceAs (Decidable (device_parts.Distinct installedPackages))
  | .onItemClick _ _ => inferInstanceAs (Decidable True)

/-- The list, and the entry that was clicked last for each gesture since it was loaded. Opening the
    settings anew, or loading the packages anew, makes a new list. -/
structure Chosen where
  packages : Option (List (ComponentName × String))
  items : Gesture → Option PackageItem

namespace Chosen

def start : Chosen := ⟨none, fun _ => none⟩

def step (self : Chosen) : GestureEvent → Chosen
  | .onCreatePreferences => start
  | .onPostExecute installedPackages => ⟨some installedPackages, fun _ => none⟩
  | .onItemClick gesture position =>
    { self with
      items := Function.update self.items gesture ((listed self.packages)[position]? <|> self.items gesture) }

end Chosen

theorem special_flatten (component : ComponentName) :
    specialApps.find? (fun item => item.mValue = component.flattenToString) = none := by
  have hslash : ∀ item ∈ specialApps, '/' ∉ item.mValue.toList := by decide
  refine List.find?_eq_none.mpr fun item hitem hvalue => hslash item hitem ?_
  rw [decide_eq_true_eq.mp hvalue]
  simp [ComponentName.flattenToString]

/-- The value of an entry stands for it. -/
theorem standsFor_mValue {packages : List (ComponentName × String)} (hdistinct : Distinct packages)
    {item : PackageItem} (hitem : item ∈ listed (some packages)) :
    standsFor (listed (some packages)) item.mValue = some item := by
  obtain haction | happlication := List.mem_append.mp hitem
  · exact standsFor_special haction _
  obtain ⟨package, hpackage, rfl⟩ := List.mem_map.mp happlication
  have hwf := hdistinct.wellFormed package hpackage
  cases hstands : standsFor (listed (some packages)) package.1.flattenToString with
  | none =>
    rw [standsFor, special_flatten, Option.none_or, ComponentName.unflatten_flatten hwf] at hstands
    have hmissed := List.find?_eq_none.mp hstands _ hitem
    simp [PackageItem.application] at hmissed
  | some other =>
    obtain ⟨haction, hvalue⟩ | ⟨-, package', hpackage', rfl, hcomponent⟩ := standsFor_listed hstands
    · have hspecial := List.find?_eq_none.mp (special_flatten package.1) other haction
      simp [hvalue] at hspecial
    · rw [ComponentName.unflatten_flatten hwf] at hcomponent
      have hsame := List.inj_on_of_nodup_map hdistinct.nodup hpackage' hpackage (Option.some.inj hcomponent).symm
      simp [PackageItem.application, hsame, hstands]

/-- The entries chosen are mapped. -/
structure GestureScreen.Holds (chosen : Chosen) (packages : Option (List (ComponentName × String)))
    (screen : GestureScreen) : Prop where
  same : chosen.packages = packages
  distinct : ∀ loaded, packages = some loaded → Distinct loaded
  items : ∀ gesture item, chosen.items gesture = some item → item ∈ listed packages ∧
    screen.phone.mappings gesture = some item.mValue

theorem GestureScreen.holds_create (phone : Phone) : (create phone).Holds .start none where
  same := rfl
  distinct _ hloaded := (Option.some_ne_none _ hloaded.symm).elim
  items _ _ hitem := (Option.some_ne_none _ hitem.symm).elim

theorem GestureScreen.Holds.step {chosen : Chosen} (hholds : screen.Holds chosen packages)
    (hfollows : screen.Follows hasIcon packages) {event : GestureEvent} (hdistinct : event.Distinct) :
    (screen.step hasIcon event).Holds (chosen.step event) (loaded packages event) := by
  cases event with
  | onCreatePreferences => exact holds_create screen.phone
  | onPostExecute installedPackages =>
    refine ⟨rfl, fun packages hpackages => ?_, fun gesture item hitem => ?_⟩
    · obtain rfl : installedPackages = packages := Option.some.inj hpackages
      exact hdistinct
    · exact (Option.some_ne_none item hitem.symm).elim
  | onItemClick gesture position =>
    refine ⟨hholds.same, hholds.distinct, fun other item hitem => ?_⟩
    rw [GestureScreen.step, hfollows.lists]
    rw [Chosen.step, hholds.same] at hitem
    cases hinfo : (listed packages)[position]? with
    | none =>
      rw [hinfo] at hitem
      by_cases hother : other = gesture
      · subst hother
        exact hholds.items other item (by simpa using hitem)
      · exact hholds.items other item (by simpa [hother] using hitem)
    | some info =>
      rw [hinfo] at hitem
      simp only [mappings_onGestureChange]
      by_cases hother : other = gesture
      · subst hother
        obtain rfl : info = item := by simpa using hitem
        exact ⟨List.mem_of_getElem? hinfo, by simp⟩
      · obtain ⟨hlisted, hmapping⟩ := hholds.items other item (by simpa [hother] using hitem)
        exact ⟨hlisted, by simpa [hother] using hmapping⟩

/-- The entry clicked last for a gesture since the settings were opened and the packages loaded is
    the one that its preference shows, that is stored, and whose component the key handler launches,
    whatever the settings were used for before. -/
theorem choice_shown (hasIcon : ComponentName → Bool) (phone : Phone) {events : List GestureEvent}
    (hdistinct : ∀ event ∈ events, event.Distinct) (playing : Playing) (gesture : Gesture) {item : PackageItem}
    (hchosen : (events.foldl Chosen.step .start).items gesture = some item) :
    let screen := events.foldl (GestureScreen.step hasIcon) (.create phone)
    (screen.prefs gesture).summary = item.mTitle ∧ (screen.prefs gesture).icon = item.icon hasIcon ∧
      screen.phone.mappings gesture = some item.mValue ∧
      ∀ component, item.mComponentName = some component →
        screen.phone.isActivityLaunchEvent playing ⟨.ACTION_UP, gesture.scanCode⟩ = .intent item.mValue ∧
          ComponentName.unflattenFromString item.mValue = some component := by
  have hholds : (events.foldl (GestureScreen.step hasIcon) (.create phone)).Holds
      (events.foldl Chosen.step .start) (events.foldl loaded none) := by
    clear hchosen
    induction events using List.reverseRecOn with
    | nil => exact GestureScreen.holds_create phone
    | append_singleton events event ih =>
      rw [List.forall_mem_append] at hdistinct
      simp only [List.foldl_append, List.foldl_cons, List.foldl_nil]
      exact (ih hdistinct.1).step (GestureScreen.follows_run hasIcon phone events)
        (hdistinct.2 event (List.mem_singleton_self event))
  have hfollows := GestureScreen.follows_run hasIcon phone events
  obtain ⟨hlisted, hmapping⟩ := hholds.items gesture item hchosen
  cases hloaded : events.foldl loaded none with
  | none => simp [hloaded, listed] at hlisted
  | some packages =>
    rw [hloaded] at hlisted hfollows
    have hitem := standsFor_mValue (hholds.distinct packages hloaded) hlisted
    have hshows := (hfollows.shown rfl gesture).entry item.mValue item
      ((hfollows.values gesture).trans hmapping) ((hfollows.lists gesture).symm ▸ hitem)
    refine ⟨hshows.1, hshows.2, hmapping, fun component hcomponent => ?_⟩
    obtain ⟨haction, -⟩ | ⟨happlication, package, -, rfl, hpackage⟩ := standsFor_listed hitem
    · have hnone : ∀ action ∈ specialApps, action.mComponentName = none := by decide
      simp [hnone item haction] at hcomponent
    · obtain rfl : package.1 = component := Option.some.inj hcomponent
      exact ⟨launch_component hmapping happlication hpackage playing, hpackage⟩

/-- The second of two applications is chosen for the letter M, and then the torch for the circle. -/
def twoChosen : List GestureEvent :=
  [.onCreatePreferences, .onPostExecute [(⟨"org.dialer", "org.dialer.Main"⟩, "Dialer"),
    (⟨"org.maps", "org.maps.Map"⟩, "Maps")], .onItemClick .M 8, .onItemClick .CIRCLE 5]

def maps : PackageItem := .application (⟨"org.maps", "org.maps.Map"⟩, "Maps")

theorem choice_shown_twoChosen :
    let screen := twoChosen.foldl (GestureScreen.step fun _ => true) (.create plainPhone)
    (screen.prefs .M).summary = maps.mTitle ∧ (screen.prefs .M).icon = maps.icon (fun _ => true) ∧
      screen.phone.mappings .M = some maps.mValue ∧
      ∀ component, maps.mComponentName = some component →
        screen.phone.isActivityLaunchEvent ⟨false, false⟩ ⟨.ACTION_UP, Gesture.M.scanCode⟩ = .intent maps.mValue ∧
          ComponentName.unflattenFromString maps.mValue = some component := by
  have hdistinct : ∀ event ∈ twoChosen, event.Distinct := by decide
  exact choice_shown (fun _ => true) plainPhone hdistinct ⟨false, false⟩ .M (by decide)

end device_parts
