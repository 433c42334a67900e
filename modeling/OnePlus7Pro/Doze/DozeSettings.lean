import OnePlus7Pro.Doze.Parsers

open runs

namespace device_parts

/-- The features that the doze settings switch. -/
structure DozeFlags where
  mUseTiltCheck : Bool
  mUseSingleTap : Bool
  mUseWaveCheck : Bool
  mUsePocketCheck : Bool
  deriving DecidableEq

def ObservingKeyHandler.dozeFlags (self : ObservingKeyHandler) : DozeFlags where
  mUseTiltCheck := self.mUseTiltCheck
  mUseSingleTap := self.mUseSingleTap
  mUseWaveCheck := self.mUseWaveCheck
  mUsePocketCheck := self.mUsePocketCheck

inductive DozeKey where
  | KEY_TILT_CHECK
  | KEY_SINGLE_TAP
  | KEY_WAVE_CHECK
  | KEY_POCKET_CHECK
  deriving DecidableEq

namespace DozeFlags

/-- The fields of a new fragment. -/
def blank : DozeFlags := ⟨false, false, false, false⟩

/-- `parts[index]`. -/
def part (parts : List String) (index : Nat) : Except ArrayIndexOutOfBoundsException String :=
  match parts[index]? with
  | some part => .ok part
  | none => .error ⟨index, parts.length⟩

def getDozeSettings (sIsOnePlus7t : Bool) (stored : Option String) (self : DozeFlags) :
    Except ArrayIndexOutOfBoundsException DozeFlags :=
  match stored with
  | none => .ok self
  | some value =>
    if value = "" then .ok self
    else do
      let parts := texts.split ':' value
      let tilt ← part parts 0
      let self := { self with mUseTiltCheck := valueOf tilt }
      let singleTap ← part parts 1
      let self := { self with mUseSingleTap := valueOf singleTap }
      if sIsOnePlus7t then
        let self ←
          if 3 ≤ parts.length then
            let wave ← part parts 2
            .ok { self with mUseWaveCheck := valueOf wave }
          else .ok self
        if parts.length = 4 then
          let pocket ← part parts 3
          .ok { self with mUsePocketCheck := valueOf pocket }
        else .ok self
      else .ok { self with mUseWaveCheck := false, mUsePocketCheck := false }

/-- `String.valueOf` of a `boolean`. -/
def stringValueOf (value : Bool) : String := if value then "true" else "false"

/-- The value that `setDozeSettings` stores. -/
def setDozeSettings (self : DozeFlags) : String :=
  stringValueOf self.mUseTiltCheck ++ ":" ++ stringValueOf self.mUseSingleTap ++ ":" ++
    stringValueOf self.mUseWaveCheck ++ ":" ++ stringValueOf self.mUsePocketCheck

def set (self : DozeFlags) (key : DozeKey) (newValue : Bool) : DozeFlags :=
  match key with
  | .KEY_TILT_CHECK => { self with mUseTiltCheck := newValue }
  | .KEY_SINGLE_TAP => { self with mUseSingleTap := newValue }
  | .KEY_WAVE_CHECK => { self with mUseWaveCheck := newValue }
  | .KEY_POCKET_CHECK => { self with mUsePocketCheck := newValue }

/-- What of the features a phone has switches for. -/
def visible (sIsOnePlus7t : Bool) (self : DozeFlags) : DozeFlags :=
  if sIsOnePlus7t then self else { self with mUseWaveCheck := false, mUsePocketCheck := false }

end DozeFlags

/-- The stored setting, the screen that is open and the key handler. -/
structure DozeSystem where
  stored : Option String
  screen : Option DozeFlags
  handler : ObservingKeyHandler

/-- The screen is opened anew, or one of its switches is set. -/
inductive DozeEvent where
  | onCreatePreferences
  | onPreferenceChange (key : DozeKey) (newValue : Bool)
  deriving DecidableEq

def featureSettings (stored : Option String) : UserSettings := ⟨none, stored, none⟩

namespace DozeSystem

def start (board : Board) (stored : Option String) : DozeSystem :=
  ⟨stored, none, .create board (featureSettings stored)⟩

/-- What is stored reaches the key handler through its observer. -/
def step (board : Board) (sIsOnePlus7t : Bool) (self : DozeSystem) : DozeEvent → DozeSystem
  | .onCreatePreferences =>
    { self with screen := (DozeFlags.blank.getDozeSettings sIsOnePlus7t self.stored).toOption }
  | .onPreferenceChange key newValue =>
    match self.screen with
    | none => self
    | some flags =>
      let flags := flags.set key newValue
      let stored := some flags.setDozeSettings
      ⟨stored, some flags, self.handler.updateDozeSettings board (featureSettings stored)⟩

/-- A switch can be set that an open screen shows. -/
def Shown (sIsOnePlus7t : Bool) (self : DozeSystem) : DozeEvent → Prop
  | .onCreatePreferences => True
  | .onPreferenceChange key _ => self.screen.isSome ∧
      (key = .KEY_TILT_CHECK ∨ key = .KEY_SINGLE_TAP ∨ sIsOnePlus7t = true)

instance (sIsOnePlus7t : Bool) (self : DozeSystem) : (event : DozeEvent) → Decidable (self.Shown sIsOnePlus7t event)
  | .onCreatePreferences => isTrue trivial
  | .onPreferenceChange _ _ => inferInstanceAs (Decidable (_ ∧ _))

end DozeSystem

/-- The features after an event, given those before: the first switch that is set on a phone that
    does not show all of them puts the others off. -/
def DozeFlags.choose (sIsOnePlus7t : Bool) (flags : DozeFlags) : DozeEvent → DozeFlags
  | .onCreatePreferences => flags
  | .onPreferenceChange key newValue => (flags.visible sIsOnePlus7t).set key newValue

variable {board : Board} {sIsOnePlus7t : Bool} {stored : Option String} {flags : DozeFlags}

theorem boolean_text_free (value : Bool) : ':' ∉ (DozeFlags.stringValueOf value).toList := by
  cases value <;> decide

@[simp] theorem valueOf_stringValueOf (value : Bool) : valueOf (DozeFlags.stringValueOf value) = value := by
  cases value <;> decide

/-- What is stored has the four parts that were put together. -/
theorem split_setDozeSettings (flags : DozeFlags) : texts.split ':' flags.setDozeSettings =
    [DozeFlags.stringValueOf flags.mUseTiltCheck, DozeFlags.stringValueOf flags.mUseSingleTap,
      DozeFlags.stringValueOf flags.mUseWaveCheck, DozeFlags.stringValueOf flags.mUsePocketCheck] := by
  have hjoin : flags.setDozeSettings = texts.join ':'
      [DozeFlags.stringValueOf flags.mUseTiltCheck, DozeFlags.stringValueOf flags.mUseSingleTap,
        DozeFlags.stringValueOf flags.mUseWaveCheck, DozeFlags.stringValueOf flags.mUsePocketCheck] := by
    rw [← String.toList_inj]
    simp [DozeFlags.setDozeSettings, texts.join, List.intercalate]
  rw [hjoin]
  refine texts.split_join (by simp) ?_ ?_
  · simp [boolean_text_free]
  · cases flags.mUsePocketCheck <;> simp [DozeFlags.stringValueOf]

theorem setDozeSettings_ne_empty (flags : DozeFlags) : flags.setDozeSettings ≠ "" := by
  intro hempty
  have hparts := split_setDozeSettings flags
  rw [hempty, texts.split, if_neg (by simp)] at hparts
  simp at hparts

/-- What is stored is read again, by the screen as far as the phone shows it. -/
theorem getDozeSettings_setDozeSettings (sIsOnePlus7t : Bool) (flags : DozeFlags) :
    DozeFlags.blank.getDozeSettings sIsOnePlus7t (some flags.setDozeSettings) =
      .ok (flags.visible sIsOnePlus7t) := by
  rw [DozeFlags.getDozeSettings, if_neg (setDozeSettings_ne_empty flags), split_setDozeSettings]
  cases sIsOnePlus7t <;> simp [DozeFlags.part, DozeFlags.visible, bind, Except.bind]

@[simp] theorem dozeFlags_updateSingleTap (self : ObservingKeyHandler) (board : Board) :
    (self.updateSingleTap board).dozeFlags = self.dozeFlags := by
  rw [ObservingKeyHandler.updateSingleTap, ObservingKeyHandler.writeValue]
  split <;> rfl

@[simp] theorem dozeFlags_update (self : ObservingKeyHandler) (board : Board) (settings : UserSettings) :
    (self.update board settings).dozeFlags = self.dozeFlags := by
  rw [ObservingKeyHandler.update, ObservingKeyHandler.updateDoubleTapToWake, ObservingKeyHandler.writeValue]
  split <;> rfl

/-- The key handler has the first two parts, a third if there is one and a fourth if there are
    four. -/
theorem dozeFlags_updateDozeSettings (self : ObservingKeyHandler) (board : Board) {value : String}
    (hne : value ≠ "") {tilt singleTap : String} {rest : List String}
    (hparts : texts.split ':' value = tilt :: singleTap :: rest) :
    (self.updateDozeSettings board (featureSettings (some value))).dozeFlags =
      ⟨valueOf tilt, valueOf singleTap, rest.head?.any valueOf, pocketOf rest⟩ := by
  rw [updateDozeSettings_of_some self board rfl hne, hparts, ObservingKeyHandler.withParts,
    dozeFlags_updateSingleTap]
  rfl

theorem dozeFlags_create (board : Board) (stored : Option String) :
    (ObservingKeyHandler.create board (featureSettings stored)).dozeFlags =
      (((ObservingKeyHandler.blank board).update board (featureSettings stored)).updateDozeSettings board
        (featureSettings stored)).dozeFlags := rfl

/-- What is stored is read by the key handler. -/
theorem updateDozeSettings_setDozeSettings (self : ObservingKeyHandler) (board : Board) (flags : DozeFlags) :
    (self.updateDozeSettings board (featureSettings (some flags.setDozeSettings))).dozeFlags = flags := by
  have hparts := split_setDozeSettings flags
  rw [dozeFlags_updateDozeSettings _ _ (setDozeSettings_ne_empty flags) hparts]
  simp [pocketOf]

theorem settingsReadable_setDozeSettings (flags : DozeFlags) :
    SettingsReadable (some flags.setDozeSettings) := by
  rintro value ⟨⟩ -
  rw [← texts.two_le_length_split_iff, split_setDozeSettings]
  simp

theorem exists_parts {parts : List String} (hlength : 2 ≤ parts.length) :
    ∃ first second rest, parts = first :: second :: rest := by
  obtain _ | ⟨first, _ | ⟨second, rest⟩⟩ := parts
  · simp at hlength
  · simp at hlength
  · exact ⟨first, second, rest, rfl⟩

/-- The settings that can be read when the screen is opened show what the key handler has read of
    them, as far as the phone shows it. -/
theorem getDozeSettings_create (hreadable : SettingsReadable stored) :
    DozeFlags.blank.getDozeSettings sIsOnePlus7t stored =
      .ok ((ObservingKeyHandler.create board (featureSettings stored)).dozeFlags.visible sIsOnePlus7t) := by
  rw [dozeFlags_create]
  cases stored with
  | none =>
    rw [updateDozeSettings_of_none _ board rfl, dozeFlags_update]
    cases sIsOnePlus7t <;> rfl
  | some value =>
    by_cases hempty : value = ""
    · subst hempty
      rw [updateDozeSettings_of_blank _ board rfl, dozeFlags_update]
      cases sIsOnePlus7t <;> rfl
    · have hlength := (texts.two_le_length_split_iff ':' value).mpr (hreadable value rfl hempty)
      simp only [DozeFlags.getDozeSettings, if_neg hempty]
      obtain ⟨tilt, singleTap, rest, hparts⟩ := exists_parts hlength
      rw [hparts, dozeFlags_updateDozeSettings _ _ hempty hparts]
      obtain _ | ⟨wave, _ | ⟨pocket, _ | ⟨more, rest⟩⟩⟩ := rest
      · cases sIsOnePlus7t <;> rfl
      · cases sIsOnePlus7t <;> rfl
      · cases sIsOnePlus7t <;> rfl
      · cases sIsOnePlus7t <;>
          simp [DozeFlags.part, DozeFlags.visible, DozeFlags.blank, pocketOf, bind, Except.bind]

/-- The key handler has the features, and the screen, open or opened anew, shows them. -/
structure DozeSystem.Agrees (sIsOnePlus7t : Bool) (flags : DozeFlags) (system : DozeSystem) : Prop where
  readable : SettingsReadable system.stored
  handler : system.handler.dozeFlags = flags
  screen : ∀ shown, system.screen = some shown → shown = flags.visible sIsOnePlus7t
  reopened : DozeFlags.blank.getDozeSettings sIsOnePlus7t system.stored = .ok (flags.visible sIsOnePlus7t)

theorem DozeSystem.agrees_start (hreadable : SettingsReadable stored) :
    (start board stored).Agrees sIsOnePlus7t
      (ObservingKeyHandler.create board (featureSettings stored)).dozeFlags where
  readable := hreadable
  handler := rfl
  screen := nofun
  reopened := getDozeSettings_create hreadable

/-- A switch that the phone shows leaves the features that it does not show off. -/
theorem visible_set {key : DozeKey} (hshown : key = .KEY_TILT_CHECK ∨ key = .KEY_SINGLE_TAP ∨ sIsOnePlus7t = true)
    (flags : DozeFlags) (newValue : Bool) :
    ((flags.visible sIsOnePlus7t).set key newValue).visible sIsOnePlus7t =
      (flags.visible sIsOnePlus7t).set key newValue := by
  obtain rfl | rfl | rfl := hshown
  · cases sIsOnePlus7t <;> rfl
  · cases sIsOnePlus7t <;> rfl
  · rfl

theorem DozeSystem.Agrees.step {system : DozeSystem} (hagrees : system.Agrees sIsOnePlus7t flags)
    {event : DozeEvent} (hshown : system.Shown sIsOnePlus7t event) :
    (system.step board sIsOnePlus7t event).Agrees sIsOnePlus7t (flags.choose sIsOnePlus7t event) := by
  cases event with
  | onCreatePreferences =>
    refine ⟨hagrees.readable, hagrees.handler, fun shown hopened => ?_, hagrees.reopened⟩
    rw [DozeSystem.step, hagrees.reopened] at hopened
    exact (Option.some.inj hopened).symm
  | onPreferenceChange key newValue =>
    obtain ⟨hopen, hkey⟩ := hshown
    obtain ⟨shown, hscreen⟩ := Option.isSome_iff_exists.mp hopen
    obtain rfl := hagrees.screen shown hscreen
    have hvisible := visible_set hkey flags newValue
    simp only [DozeSystem.step, hscreen, DozeFlags.choose]
    -- from here on only that the chosen features are all visible matters
    generalize (flags.visible sIsOnePlus7t).set key newValue = chosen at hvisible ⊢
    exact {
      readable := settingsReadable_setDozeSettings chosen
      handler := updateDozeSettings_setDozeSettings system.handler board chosen
      screen := fun shown hshown => (Option.some.inj hshown).symm.trans hvisible.symm
      reopened := getDozeSettings_setDozeSettings sIsOnePlus7t chosen }

/-- However often the screen is opened and its switches are set, on a phone with readable
    settings: neither parser throws, and the key handler has what was chosen, which the
    screen shows. -/
theorem doze_settings_agree (hreadable : SettingsReadable stored) {events : List DozeEvent}
    (hrun : Taken (DozeSystem.step board sIsOnePlus7t) (DozeSystem.Shown sIsOnePlus7t) (.start board stored) events) :
    (events.foldl (DozeSystem.step board sIsOnePlus7t) (.start board stored)).Agrees sIsOnePlus7t
      (events.foldl (DozeFlags.choose sIsOnePlus7t)
        (ObservingKeyHandler.create board (featureSettings stored)).dozeFlags) := by
  refine hrun.history_invariant
    (H := fun past system => system.Agrees sIsOnePlus7t (past.foldl (DozeFlags.choose sIsOnePlus7t)
      (ObservingKeyHandler.create board (featureSettings stored)).dozeFlags))
    (fun past system event hagrees hshown => ?_) (DozeSystem.agrees_start hreadable) (List.prefix_refl events)
  rw [List.foldl_append]
  exact hagrees.step hshown

/-- The single tap is switched on, on a phone that has the wave on and does not show it. -/
def tapSwitched : List DozeEvent :=
  [.onCreatePreferences, .onPreferenceChange .KEY_SINGLE_TAP true, .onCreatePreferences]

def plainPhoneBoard : Board := (calibratedBoard none).toBoard

def waveOn : String := DozeFlags.setDozeSettings ⟨true, false, true, false⟩

theorem doze_settings_agree_tapSwitched :
    (tapSwitched.foldl (DozeSystem.step plainPhoneBoard false) (.start plainPhoneBoard (some waveOn))).Agrees
      false (tapSwitched.foldl (DozeFlags.choose false)
        (ObservingKeyHandler.create plainPhoneBoard (featureSettings (some waveOn))).dozeFlags) :=
  doze_settings_agree (settingsReadable_setDozeSettings _) (by decide +kernel)

end device_parts
