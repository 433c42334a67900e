import OnePlus7Pro.Display.RefreshRate
import OnePlus7Pro.Startup.PanelModes

namespace device_parts

/-- The shared preferences that are read at a boot, `KEY_HBM_SWITCH` apart. -/
structure SharedPreferences where
  KEY_SRGB_SWITCH : Bool
  KEY_DCD_SWITCH : Bool
  KEY_DCI_SWITCH : Bool
  KEY_NIGHT_SWITCH : Bool
  KEY_REFRESH_RATE : Bool
  KEY_AUTO_REFRESH_RATE : Bool
  KEY_VIBSTRENGTH : Option String
  KEY_FPS_INFO : Bool
  deriving DecidableEq

inductive Service where
  | FallSensorService
  | FPSInfoService
  deriving DecidableEq

/-- A phone with what is read and written when it boots. -/
structure Installation where
  phone : Phone
  sharedPrefs : SharedPreferences
  refresh : RefreshSettings
  nightMode : Option Int
  omni_device_setting_imported : Option Int
  /-- The phone is a `oneplus7pro` or a `oneplus7tpro`. -/
  hasCameraMotor : Bool

/-- `VibratorStrengthPreference.setValue`. -/
def Phone.setStrength (self : Phone) (newValue : String) : Phone :=
  let self := self.writeValue (some .FILE_LEVEL) newValue
  { self with vib_strength := some newValue }

/-- `VibratorStrengthPreference.onProgressChanged`. -/
def Phone.onProgressChanged (self : Phone) (progress : Nat) : Phone :=
  let mMinValue := 1
  self.setStrength (toString (progress + mMinValue))

namespace Installation

def maybeImportOldSettings (self : Installation) : Installation :=
  let imported := self.omni_device_setting_imported.getD 0 ≠ 0
  if imported then self
  else
    let sharedPrefs := self.sharedPrefs
    let phone := self.phone.putInt .SRGBModeSwitch (if sharedPrefs.KEY_SRGB_SWITCH then 1 else 0)
    let phone := phone.putInt .HBMModeSwitch (if phone.KEY_HBM_SWITCH then 1 else 0)
    let phone := phone.putInt .DCDModeSwitch (if sharedPrefs.KEY_DCD_SWITCH then 1 else 0)
    let phone := phone.putInt .DCIModeSwitch (if sharedPrefs.KEY_DCI_SWITCH then 1 else 0)
    let vibrStrength := sharedPrefs.KEY_VIBSTRENGTH.getD DEFAULT_VALUE
    { self with
      phone := { phone with vib_strength := some vibrStrength }
      nightMode := some (if sharedPrefs.KEY_NIGHT_SWITCH then 1 else 0)
      refresh := { self.refresh with
        PEAK_REFRESH_RATE := some (if sharedPrefs.KEY_REFRESH_RATE then 90 else 60)
        autoRefreshRate := some (if sharedPrefs.KEY_AUTO_REFRESH_RATE then 1 else 0) }
      omni_device_setting_imported := some 1 }

/-- `Startup.onReceive`, with the services that it starts. -/
def onReceive (self : Installation) : Installation × List Service :=
  let self := self.maybeImportOldSettings
  let self := { self with phone := self.phone.restoreAfterUserSwitch }
  let enabled := self.sharedPrefs.KEY_FPS_INFO
  (self, (if self.hasCameraMotor then [.FallSensorService] else []) ++ if enabled then [.FPSInfoService] else [])

/-- The phone restarts: the kernel sets up the nodes, and no screen is open. -/
def restarted (self : Installation) (nodes : Node → String) : Installation :=
  { self with phone := { self.phone with nodes := nodes, mCurrentMode := none } }

def boot (self : Installation) (nodes : Node → String) : Installation := (self.restarted nodes).onReceive.1

end Installation

/-- The settings are used or restored, the strength of the vibrator is chosen, or the phone
    restarts. -/
inductive LifeEvent where
  | receive (event : PhoneEvent)
  | onProgressChanged (progress : Nat)
  | boot (nodes : Node → String)

def Installation.step (self : Installation) : LifeEvent → Installation
  | .receive event => { self with phone := self.phone.receive event }
  | .onProgressChanged progress => { self with phone := self.phone.onProgressChanged progress }
  | .boot nodes => self.boot nodes

/-- No gesture is mapped to the empty text. -/
def LifeEvent.Chosen : LifeEvent → Prop
  | .receive event => event.Chosen
  | _ => True

/-- The choices that were made last: the mode of the panel, what each gesture is mapped to, and the
    strength of the vibrator. -/
structure Choices where
  panelOpen : Bool
  panel : PanelMode
  mapping : Gesture → Option String
  strength : String

/-- The mode of the panel that is stored, among those that can be turned on. -/
def Phone.storedPanel (self : Phone) : PanelMode :=
  let enabled (switch : ModeSwitch) : Bool := self.isStored switch && self.fileWritable (.mode switch)
  if enabled .DCIModeSwitch then .dci_mode
  else if enabled .SRGBModeSwitch then .srgb_mode
  else if enabled .WideColorModeSwitch then .wide_color_mode
  else .off_mode

namespace Choices

/-- What is stored on a phone, with the defaults of the gestures and of the vibrator. -/
def stored (phone : Phone) : Choices where
  panelOpen := false
  panel := phone.storedPanel
  mapping := fun gesture => restoredMapping gesture.storedEntry (phone.mappings gesture)
  strength := phone.vib_strength.getD DEFAULT_VALUE

/-- A choice is made; a restart only closes the panel settings. -/
def step (self : Choices) : LifeEvent → Choices
  | .receive (.perform .openPanel) => { self with panelOpen := true }
  | .receive (.perform (.checkPanel checkedId)) => if self.panelOpen then { self with panel := checkedId } else self
  | .receive (.perform (.mapGesture gesture value)) =>
    { self with mapping := Function.update self.mapping gesture (some value) }
  | .receive _ => self
  | .onProgressChanged progress => { self with strength := toString (progress + 1) }
  | .boot _ => { self with panelOpen := false }

end Choices

/-- What was chosen is in force: where they can be written, the nodes of the panel's modes, of the gestures and of
    the vibrator say so. -/
structure InForce (choices : Choices) (phone : Phone) : Prop where
  panel : ∀ switch ∈ panelSwitches, phone.fileWritable (.mode switch) = true →
    phone.isCurrentlyEnabled switch = decide (choices.panel.switch = some switch)
  mapping : phone.mappings = choices.mapping
  gestures : ∀ gesture, phone.fileWritable (.gesture gesture) = true →
    phone.nodes (.gesture gesture) = mappedNode (choices.mapping gesture)
  strength : phone.fileWritable .FILE_LEVEL = true → phone.nodes .FILE_LEVEL = choices.strength

/-- Nothing of the strength of the vibrator has changed. -/
structure KeepsStrength (before after : Phone) : Prop where
  fileWritable : after.fileWritable = before.fileWritable
  vib_strength : after.vib_strength = before.vib_strength
  level : after.nodes .FILE_LEVEL = before.nodes .FILE_LEVEL

theorem KeepsStrength.refl (phone : Phone) : KeepsStrength phone phone := ⟨rfl, rfl, rfl⟩

theorem KeepsStrength.trans {first second third : Phone} (h : KeepsStrength first second)
    (h' : KeepsStrength second third) : KeepsStrength first third :=
  ⟨h'.fileWritable.trans h.fileWritable, h'.vib_strength.trans h.vib_strength, h'.level.trans h.level⟩

variable {phone : Phone} {choices : Choices} {now : Installation}

theorem keepsStrength_writeValue (phone : Phone) {filename : Option Node} (hother : filename ≠ some .FILE_LEVEL)
    (value : String) : KeepsStrength phone (phone.writeValue filename value) := by
  cases filename with
  | none => exact .refl phone
  | some node =>
    rw [Phone.writeValue]
    split
    · exact ⟨rfl, rfl, Function.update_of_ne (fun h => hother (congrArg some h.symm)) value phone.nodes⟩
    · exact .refl phone

theorem getFile_ne_level (phone : Phone) (switch : ModeSwitch) : phone.getFile switch ≠ some .FILE_LEVEL := by
  rw [Phone.getFile]
  split <;> simp

theorem keepsStrength_turn (phone : Phone) (switch : Option ModeSwitch) (enabled : Bool) :
    KeepsStrength phone (phone.turn switch enabled) := by
  cases switch with
  | none => exact .refl phone
  | some switch => exact (keepsStrength_writeValue phone (getFile_ne_level _ _) _).trans ⟨rfl, rfl, rfl⟩

theorem keepsStrength_perform (phone : Phone) (action : Action) : KeepsStrength phone (phone.perform action) := by
  cases action with
  | HBMModeSwitch enabled =>
    have hput : KeepsStrength phone (phone.putInt .HBMModeSwitch (if enabled then 5 else 0)) := ⟨rfl, rfl, rfl⟩
    exact hput.trans (keepsStrength_writeValue _ (getFile_ne_level _ _) _)
  | DCDModeSwitch enabled =>
    have hput : KeepsStrength phone (phone.putInt .DCDModeSwitch (if enabled then 1 else 0)) := ⟨rfl, rfl, rfl⟩
    exact hput.trans (keepsStrength_writeValue _ (getFile_ne_level _ _) _)
  | HBMModeTile => exact (keepsStrength_writeValue phone (getFile_ne_level _ _) _).trans ⟨rfl, rfl, rfl⟩
  | openPanel => exact ⟨rfl, rfl, rfl⟩
  | checkPanel checkedId =>
    rw [Phone.perform, Phone.onCheckedChanged]
    split
    · exact (keepsStrength_turn phone _ _).trans ((keepsStrength_turn _ _ _).trans ⟨rfl, rfl, rfl⟩)
    · exact .refl phone
  | mapGesture gesture value =>
    exact (keepsStrength_writeValue phone (by simp [getGestureFile]) _).trans ⟨rfl, rfl, rfl⟩

theorem keepsStrength_restore (phone : Phone) {file : Option Node} (hother : file ≠ some .FILE_LEVEL)
    (enabled : Bool) : KeepsStrength phone (phone.restore file enabled) := by
  cases file with
  | none => exact .refl phone
  | some node => exact keepsStrength_writeValue phone hother _

theorem keepsStrength_restoreGesture (phone : Phone) (gesture : Gesture) (entry : Option String) :
    KeepsStrength phone (phone.restoreGesture gesture entry) := by
  let mapped := { phone with
    mappings := Function.update phone.mappings gesture (restoredMapping entry (phone.mappings gesture)) }
  have hmapped : KeepsStrength phone mapped := ⟨rfl, rfl, rfl⟩
  have hgesture : getGestureFile gesture ≠ some .FILE_LEVEL := by simp [getGestureFile]
  exact hmapped.trans (keepsStrength_restore mapped hgesture _)

theorem keepsStrength_restoreMode (phone : Phone) (switch : ModeSwitch) :
    KeepsStrength phone (phone.restoreMode switch) :=
  keepsStrength_restore phone (getFile_ne_level phone switch) _

theorem keepsStrength_foldl {A : Type} {step : Phone → A → Phone}
    (hstep : ∀ phone a, KeepsStrength phone (step phone a)) (as : List A) (phone : Phone) :
    KeepsStrength phone (as.foldl step phone) := by
  induction as generalizing phone with
  | nil => exact .refl phone
  | cons a as ih => exact (hstep phone a).trans (ih _)

/-- The level of the vibrator is restored from its setting. -/
theorem strength_restoreAfterUserSwitch (phone : Phone) :
    phone.restoreAfterUserSwitch.vib_strength = phone.vib_strength ∧
    (phone.fileWritable .FILE_LEVEL = true →
      phone.restoreAfterUserSwitch.nodes .FILE_LEVEL = phone.vib_strength.getD DEFAULT_VALUE) := by
  rw [restoreAfterUserSwitch_eq]
  have hgestures := keepsStrength_foldl (fun phone gesture =>
    keepsStrength_restoreGesture phone gesture gesture.storedEntry) gestures phone
  have hmodes := hgestures.trans (keepsStrength_foldl keepsStrength_restoreMode modeSwitches _)
  rw [Phone.restoreVibrator, hmodes.fileWritable, hmodes.vib_strength]
  cases hwritable : phone.fileWritable .FILE_LEVEL with
  | false => exact ⟨hmodes.vib_strength, fun h => absurd h Bool.false_ne_true⟩
  | true => simp [Phone.writeValue, hmodes.fileWritable, hwritable, hmodes.vib_strength]

theorem InForce.panel_of_keeps {after : Phone} (hinForce : InForce choices phone) (hkeeps : KeepsPanel phone after) :
    ∀ switch ∈ panelSwitches, after.fileWritable (.mode switch) = true →
      after.isCurrentlyEnabled switch = decide (choices.panel.switch = some switch) := by
  intro switch hswitch hwritable
  rw [hkeeps.fileWritable] at hwritable
  rw [isCurrentlyEnabled_congr hkeeps.fileWritable (hkeeps.nodes switch hswitch)]
  exact hinForce.panel switch hswitch hwritable

/-- Between two events: what was chosen is in force, and is what is stored as well. -/
structure Steady (choices : Choices) (now : Installation) : Prop where
  sync : PanelInSync now.phone
  inForce : InForce choices now.phone
  panelOpen : now.phone.mCurrentMode.isSome = choices.panelOpen
  strength : now.phone.vib_strength.getD DEFAULT_VALUE = choices.strength
  settled : ∀ gesture, restoredMapping gesture.storedEntry (choices.mapping gesture) = choices.mapping gesture
  imported : now.omni_device_setting_imported.getD 0 ≠ 0

/-- A restoration puts in force what is stored, whatever the nodes said before. -/
theorem inForce_restoreAfterUserSwitch
    (hpanel : ∀ switch ∈ panelSwitches, phone.fileWritable (.mode switch) = true →
      phone.isStored switch = decide (choices.panel.switch = some switch))
    (hmapping : ∀ gesture, restoredMapping gesture.storedEntry (phone.mappings gesture) = choices.mapping gesture)
    (hstrength : phone.vib_strength.getD DEFAULT_VALUE = choices.strength) :
    InForce choices phone.restoreAfterUserSwitch := by
  have hrestored := restoredBy_restoreAfterUserSwitch phone
  have hmappings : phone.restoreAfterUserSwitch.mappings = choices.mapping := by
    funext gesture
    rw [hrestored.mappings, if_pos (mem_gestures gesture), hmapping]
  refine ⟨fun switch hswitch hwritable => ?_, hmappings, fun gesture hwritable => ?_, fun hwritable => ?_⟩
  · rw [hrestored.fileWritable] at hwritable
    rw [isCurrentlyEnabled_restored, hpanel switch hswitch hwritable, hwritable, Bool.and_true]
  · rw [mapped_restoreAfterUserSwitch phone gesture hwritable, hmappings]
  · rw [hrestored.fileWritable] at hwritable
    rw [(strength_restoreAfterUserSwitch phone).2 hwritable, hstrength]

/-- What is stored of the panel is what was chosen. -/
theorem Steady.isStored (hsteady : Steady choices now) {switch : ModeSwitch} (hswitch : switch ∈ panelSwitches)
    (hwritable : now.phone.fileWritable (.mode switch) = true) :
    now.phone.isStored switch = decide (choices.panel.switch = some switch) := by
  rw [← hsteady.sync.stored switch hswitch hwritable, hsteady.inForce.panel switch hswitch hwritable]

theorem Steady.restoreAfterUserSwitch (hsteady : Steady choices now) :
    Steady choices { now with phone := now.phone.restoreAfterUserSwitch } where
  sync := hsteady.sync.restoreAfterUserSwitch
  inForce := by
    refine inForce_restoreAfterUserSwitch (fun switch => hsteady.isStored) (fun gesture => ?_) hsteady.strength
    rw [hsteady.inForce.mapping, hsteady.settled]
  panelOpen := by
    rw [(restoredModes_restoreAfterUserSwitch now.phone).mCurrentMode]
    exact hsteady.panelOpen
  strength := by
    rw [(strength_restoreAfterUserSwitch now.phone).1]
    exact hsteady.strength
  settled := hsteady.settled
  imported := hsteady.imported

/-- What no action other than a mapping changes: the gestures, the strength, and what is stored of them. -/
theorem Steady.keeps (hsteady : Steady choices now) {after : Phone} {later : Choices}
    (hsync : PanelInSync after) (hgestures : KeepsGestures now.phone after)
    (hstrength : KeepsStrength now.phone after) (hmapping : later.mapping = choices.mapping)
    (hchosen : later.strength = choices.strength) (hopen : after.mCurrentMode.isSome = later.panelOpen)
    (hpanel : ∀ switch ∈ panelSwitches, after.fileWritable (.mode switch) = true →
      after.isCurrentlyEnabled switch = decide (later.panel.switch = some switch)) :
    Steady later { now with phone := after } where
  sync := hsync
  inForce := by
    refine ⟨hpanel, ?_, fun gesture hwritable => ?_, fun hwritable => ?_⟩
    · rw [hgestures.mappings, hsteady.inForce.mapping, hmapping]
    · rw [hgestures.fileWritable] at hwritable
      rw [hgestures.nodes, hsteady.inForce.gestures gesture hwritable, hmapping]
    · rw [hstrength.fileWritable] at hwritable
      rw [hstrength.level, hsteady.inForce.strength hwritable, hchosen]
  panelOpen := hopen
  strength := by
    rw [hstrength.vib_strength, hsteady.strength, hchosen]
  settled gesture := by
    rw [hmapping]
    exact hsteady.settled gesture
  imported := hsteady.imported

theorem Steady.perform_other (hsteady : Steady choices now) (action : Action) (hopen : action ≠ .openPanel)
    (hcheck : ∀ checkedId, action ≠ .checkPanel checkedId)
    (hmap : ∀ gesture value, action ≠ .mapGesture gesture value) :
    Steady choices { now with phone := now.phone.perform action } := by
  have hkeeps := keepsPanel_perform now.phone hopen hcheck
  refine hsteady.keeps (hkeeps.panelInSync hsteady.sync) (keepsGestures_perform _ hmap)
    (keepsStrength_perform _ _) rfl rfl ?_ (hsteady.inForce.panel_of_keeps hkeeps)
  rw [hkeeps.mCurrentMode, hsteady.panelOpen]

theorem Steady.openPanel (hsteady : Steady choices now) :
    Steady { choices with panelOpen := true } { now with phone := now.phone.onViewCreated } := by
  have hgestures : KeepsGestures now.phone (now.phone.perform .openPanel) := keepsGestures_perform _ (by simp)
  exact hsteady.keeps (panelInSync_onViewCreated hsteady.sync) hgestures
    (keepsStrength_perform now.phone .openPanel) rfl rfl rfl hsteady.inForce.panel

theorem Steady.checkPanel (hsteady : Steady choices now) (checkedId : PanelMode) :
    Steady (if choices.panelOpen then { choices with panel := checkedId } else choices)
      { now with phone := now.phone.onCheckedChanged checkedId } := by
  by_cases hopen : choices.panelOpen = true
  · have hsync := panelInSync_onCheckedChanged hsteady.sync checkedId
    have hgestures : KeepsGestures now.phone (now.phone.perform (.checkPanel checkedId)) :=
      keepsGestures_perform _ (by simp)
    have hmode : (now.phone.onCheckedChanged checkedId).mCurrentMode = some checkedId := by
      rw [Phone.onCheckedChanged, hsteady.panelOpen, if_pos hopen]
    rw [if_pos hopen]
    refine hsteady.keeps hsync hgestures (keepsStrength_perform now.phone (.checkPanel checkedId)) rfl rfl ?_
      fun switch hswitch hwritable => ?_
    · rw [hmode]
      exact hopen.symm
    · rw [hsync.shown checkedId hmode switch hswitch, hwritable, Bool.and_true]
  · have hclosed : now.phone.onCheckedChanged checkedId = now.phone := by
      rw [Phone.onCheckedChanged, hsteady.panelOpen, if_neg hopen]
    rw [if_neg hopen, hclosed]
    exact hsteady

theorem Steady.mapGesture (hsteady : Steady choices now) (gesture : Gesture) {value : String} (hvalue : value ≠ "") :
    Steady { choices with mapping := Function.update choices.mapping gesture (some value) }
      { now with phone := now.phone.onGestureChange gesture value } := by
  have hpanel : KeepsPanel now.phone (now.phone.perform (.mapGesture gesture value)) :=
    keepsPanel_perform _ (by simp) (by simp)
  have hstrength := keepsStrength_perform now.phone (.mapGesture gesture value)
  rw [Phone.perform] at hpanel hstrength
  have hmapped : Mapped now.phone := by
    intro other hwritable
    rw [hsteady.inForce.gestures other hwritable, hsteady.inForce.mapping]
  have hmappings : (now.phone.onGestureChange gesture value).mappings =
      Function.update choices.mapping gesture (some value) := by
    rw [mappings_onGestureChange, hsteady.inForce.mapping]
  have hafter := mapped_onGestureChange hmapped gesture hvalue
  generalize now.phone.onGestureChange gesture value = after at hpanel hstrength hmappings hafter ⊢
  constructor
  · exact hpanel.panelInSync hsteady.sync
  · refine ⟨hsteady.inForce.panel_of_keeps hpanel, hmappings, fun other hwritable => ?_, fun hwritable => ?_⟩
    · exact (hafter other hwritable).trans (congrArg mappedNode (congrFun hmappings other))
    · dsimp only at hwritable ⊢
      rw [hpanel.fileWritable] at hwritable
      rw [hstrength.level, hsteady.inForce.strength hwritable]
  · dsimp only
    rw [hpanel.mCurrentMode, hsteady.panelOpen]
  · dsimp only
    rw [hstrength.vib_strength, hsteady.strength]
  · intro other
    by_cases hsame : other = gesture
    · subst hsame
      dsimp only
      rw [Function.update_self, restoredMapping_of_ne _ (by simpa using hvalue)]
    · dsimp only
      rw [Function.update_of_ne hsame]
      exact hsteady.settled other
  · exact hsteady.imported

theorem Steady.onProgressChanged (hsteady : Steady choices now) (progress : Nat) :
    Steady { choices with strength := toString (progress + 1) }
      { now with phone := now.phone.onProgressChanged progress } := by
  have hpanel : KeepsPanel now.phone (now.phone.onProgressChanged progress) :=
    (keepsPanel_writeValue now.phone (by simp) _).trans ⟨rfl, rfl, fun _ _ => rfl, fun _ _ => rfl⟩
  have hgestures : (now.phone.onProgressChanged progress).mappings = now.phone.mappings ∧ ∀ gesture,
      (now.phone.onProgressChanged progress).nodes (.gesture gesture) = now.phone.nodes (.gesture gesture) := by
    rw [Phone.onProgressChanged, Phone.setStrength, Phone.writeValue]
    split <;> simp
  have hlevel : now.phone.fileWritable .FILE_LEVEL = true →
      (now.phone.onProgressChanged progress).nodes .FILE_LEVEL = toString (progress + 1) := by
    intro hwritable
    simp [Phone.onProgressChanged, Phone.setStrength, Phone.writeValue, hwritable]
  have hstored : (now.phone.onProgressChanged progress).vib_strength = some (toString (progress + 1)) := rfl
  generalize now.phone.onProgressChanged progress = after at hpanel hgestures hlevel hstored ⊢
  constructor
  · exact hpanel.panelInSync hsteady.sync
  · refine ⟨hsteady.inForce.panel_of_keeps hpanel, ?_, fun gesture hwritable => ?_, fun hwritable => ?_⟩
    · exact hgestures.1.trans hsteady.inForce.mapping
    · dsimp only at hwritable ⊢
      rw [hpanel.fileWritable] at hwritable
      rw [hgestures.2, hsteady.inForce.gestures gesture hwritable]
    · dsimp only at hwritable ⊢
      rw [hpanel.fileWritable] at hwritable
      exact hlevel hwritable
  · dsimp only
    rw [hpanel.mCurrentMode, hsteady.panelOpen]
  · dsimp only
    rw [hstored, Option.getD_some]
  · exact hsteady.settled
  · exact hsteady.imported

/-- A boot puts in force what is stored, on a phone whose settings were imported before. -/
theorem steady_boot {phone : Phone} (hclosed : phone.mCurrentMode = none)
    (himported : now.omni_device_setting_imported.getD 0 ≠ 0) (hopen : choices.panelOpen = false)
    (hpanel : ∀ switch ∈ panelSwitches, phone.fileWritable (.mode switch) = true →
      phone.isStored switch = decide (choices.panel.switch = some switch))
    (hmapping : ∀ gesture, restoredMapping gesture.storedEntry (phone.mappings gesture) = choices.mapping gesture)
    (hstrength : phone.vib_strength.getD DEFAULT_VALUE = choices.strength) :
    Steady choices { now with phone := phone.restoreAfterUserSwitch } where
  sync := by
    refine panelInSync_start hclosed fun switch hswitch other hother hwritable hwritable' hstored hstored' => ?_
    rw [hpanel switch hswitch hwritable, decide_eq_true_eq] at hstored
    rw [hpanel other hother hwritable', decide_eq_true_eq] at hstored'
    exact Option.some.inj (hstored.symm.trans hstored')
  inForce := inForce_restoreAfterUserSwitch hpanel hmapping hstrength
  panelOpen := by
    dsimp only
    rw [(restoredModes_restoreAfterUserSwitch phone).mCurrentMode, hclosed, hopen]
    rfl
  strength := (congrArg (·.getD DEFAULT_VALUE) (strength_restoreAfterUserSwitch phone).1).trans hstrength
  settled gesture := by
    rw [← hmapping, restoredMapping_idem]
  imported := himported

theorem Steady.boot (hsteady : Steady choices now) (nodes : Node → String) :
    Steady { choices with panelOpen := false } (now.boot nodes) := by
  have himported : (now.restarted nodes).maybeImportOldSettings = now.restarted nodes := if_pos hsteady.imported
  rw [Installation.boot, Installation.onReceive, himported]
  refine steady_boot rfl hsteady.imported rfl (fun switch => hsteady.isStored) (fun gesture => ?_) hsteady.strength
  rw [← hsteady.settled gesture, ← hsteady.inForce.mapping]
  rfl

theorem Steady.step (hsteady : Steady choices now) {event : LifeEvent} (hchosen : event.Chosen) :
    Steady (choices.step event) (now.step event) := by
  cases event with
  | boot nodes => exact hsteady.boot nodes
  | onProgressChanged progress => exact hsteady.onProgressChanged progress
  | receive event =>
    cases event with
    | restoreAfterUserSwitch => exact hsteady.restoreAfterUserSwitch
    | perform action =>
      cases action with
      | HBMModeSwitch enabled => exact hsteady.perform_other (.HBMModeSwitch enabled) (by simp) (by simp) (by simp)
      | DCDModeSwitch enabled => exact hsteady.perform_other (.DCDModeSwitch enabled) (by simp) (by simp) (by simp)
      | HBMModeTile => exact hsteady.perform_other .HBMModeTile (by simp) (by simp) (by simp)
      | openPanel => exact hsteady.openPanel
      | checkPanel checkedId => exact hsteady.checkPanel checkedId
      | mapGesture gesture value => exact hsteady.mapGesture gesture hchosen

theorem steady_run (hsteady : Steady choices now) {events : List LifeEvent} (hchosen : ∀ event ∈ events, event.Chosen) :
    Steady (events.foldl Choices.step choices) (events.foldl Installation.step now) := by
  induction events generalizing choices now with
  | nil => exact hsteady
  | cons event events ih =>
    rw [List.forall_mem_cons] at hchosen
    exact ih (hsteady.step hchosen.1) hchosen.2

end device_parts
