import OnePlus7Pro.Doze.SettingsObserver

open effects

namespace device_parts

def TRI_STATE_CALIB_PATH : String := "/sys/bus/platform/devices/soc:tri_state_key/hall_data_calib"

/-- The phone with the first line of its calibration file, `none` where that cannot be read or is
    empty. -/
structure HallBoard extends Board where
  sIsOnePlus7t : Bool
  TRI_STATE_CALIB_DATA : Option String

namespace Handling

/-- The loop of `initTriStateHallSensor` over the pairs. -/
def readPairs (valueList : List String) : List String → Handling (List String)
  | [] => pure valueList
  | pair :: pairs => do
    let valuePair := texts.split ',' pair
    let lowValue ← part valuePair 0
    let valueList := valueList ++ [lowValue]
    let hightValue ← part valuePair 1
    let valueList := valueList ++ [hightValue]
    readPairs valueList pairs

/-- The line that is calibrated by, or the default. -/
def calibData (board : HallBoard) : String := board.TRI_STATE_CALIB_DATA.getD "0,0;0,0;0,0"

def initTriStateHallSensor (board : HallBoard) : Handling Unit := do
  let pairs := texts.split ';' (calibData board)
  let valueList ← readPairs [] pairs
  modify fun self => self.writeValue board.toBoard TRI_STATE_CALIB_PATH (texts.join ',' valueList)

/-- The constructor. -/
def create (board : HallBoard) (settings : UserSettings) : Handling Unit := do
  -- `mSettingsObserver.observe()`
  modify fun self => self.update board.toBoard settings
  updateDozeSettings board.toBoard settings
  if board.sIsOnePlus7t then initTriStateHallSensor board
  modify fun self => { self with mProxiSensorWakupCheck := board.config_proxiSensorWakupCheck }

end Handling

/-- It returns, and does not throw. -/
def Completes {α : Type} (handling : Handling α) (self : ObservingKeyHandler) : Prop :=
  Returns handling self fun _ _ => True

/-- The settings are not set or empty, or have a colon and behind it something else. -/
def SettingsReadable (stored : Option String) : Prop :=
  ∀ value, stored = some value → value ≠ "" → texts.Continues ':' value

/-- Every pair of the line has a comma and behind it something else. -/
def CalibReadable (line : String) : Prop :=
  ∀ pair ∈ texts.split ';' line, texts.Continues ',' pair

/-- Neither of the parsers throws, nor what calls them. -/
structure ParsersComplete (board : HallBoard) (settings : UserSettings) : Prop where
  updateDozeSettings : ∀ self, Completes (Handling.updateDozeSettings board.toBoard settings) self
  initTriStateHallSensor : ∀ self, Completes (Handling.initTriStateHallSensor board) self
  create : Completes (Handling.create board settings) (.blank board.toBoard)
  onChange : ∀ self change, Completes (Handling.onChange board.toBoard settings change) self

theorem completes_modify (step : ObservingKeyHandler → ObservingKeyHandler) (self : ObservingKeyHandler) :
    Completes (modify step) self :=
  ⟨(), step self, rfl, trivial⟩

/-- `updateDozeSettings` throws where there are less than two parts. -/
theorem run_updateDozeSettings (board : Board) (settings : UserSettings) (self : ObservingKeyHandler) :
    (∃ after, Handling.updateDozeSettings board settings self = .ok () after ∧
      SettingsReadable settings.OMNI_DEVICE_FEATURE_SETTINGS) ∨
    ∃ thrown after, Handling.updateDozeSettings board settings self = .error thrown after ∧
      ¬ SettingsReadable settings.OMNI_DEVICE_FEATURE_SETTINGS := by
  cases hstored : settings.OMNI_DEVICE_FEATURE_SETTINGS with
  | none => exact .inl ⟨self, by rw [Handling.updateDozeSettings, hstored]; rfl, by simp [SettingsReadable]⟩
  | some value =>
    by_cases hempty : value = ""
    · refine .inl ⟨self, ?_, by simp [SettingsReadable, hempty]⟩
      simp only [Handling.updateDozeSettings, hstored, if_pos hempty]
      rfl
    have hreadable : SettingsReadable (some value) ↔ 2 ≤ (texts.split ':' value).length := by
      rw [texts.two_le_length_split_iff]
      simp [SettingsReadable, hempty]
    simp only [Handling.updateDozeSettings, hstored, hreadable, if_neg hempty]
    rcases texts.split ':' value with
      _ | ⟨tilt, _ | ⟨singleTap, _ | ⟨wave, _ | ⟨pocket, _ | ⟨more, rest⟩⟩⟩⟩⟩
    · exact .inr ⟨_, _, rfl, Nat.not_succ_le_zero 1⟩
    · exact .inr ⟨_, _, rfl, Nat.not_succ_le_self 1⟩
    · exact .inl ⟨_, rfl, Nat.le_refl 2⟩
    · exact .inl ⟨_, rfl, Nat.le_succ 2⟩
    · exact .inl ⟨_, rfl, Nat.le_add_left 2 2⟩
    · exact .inl ⟨_, rfl, Nat.le_add_left 2 _⟩

theorem completes_updateDozeSettings_iff (board : Board) (settings : UserSettings)
    (self : ObservingKeyHandler) :
    Completes (Handling.updateDozeSettings board settings) self ↔
      SettingsReadable settings.OMNI_DEVICE_FEATURE_SETTINGS := by
  obtain ⟨after, hok, hreadable⟩ | ⟨thrown, after, herror, hthrows⟩ := run_updateDozeSettings board settings self
  · exact iff_of_true ⟨(), after, hok, trivial⟩ hreadable
  · refine iff_of_false ?_ hthrows
    rintro ⟨value, after', hreturns, -⟩
    rw [herror] at hreturns
    cases hreturns

theorem run_readPairs_cons {pair lowValue hightValue : String} {rest : List String}
    (hpair : texts.split ',' pair = lowValue :: hightValue :: rest) (pairs valueList : List String)
    (self : ObservingKeyHandler) : Handling.readPairs valueList (pair :: pairs) self =
      Handling.readPairs (valueList ++ [lowValue] ++ [hightValue]) pairs self := by
  rw [Handling.readPairs, hpair]
  rfl

/-- The loop collects the first two values of every pair, and throws at the first pair that has
    less. -/
theorem run_readPairs (pairs valueList : List String) (self : ObservingKeyHandler) :
    match Handling.readPairs valueList pairs self with
    | .ok values after => after = self ∧
        values = valueList ++ pairs.flatMap (fun pair => (texts.split ',' pair).take 2) ∧
        ∀ pair ∈ pairs, texts.Continues ',' pair
    | .error _ after => after = self ∧ ¬ ∀ pair ∈ pairs, texts.Continues ',' pair := by
  induction pairs generalizing valueList with
  | nil => simp [Handling.readPairs, pure, EStateM.pure]
  | cons pair pairs ih =>
    rw [List.forall_mem_cons, ← texts.two_le_length_split_iff ',' pair, List.flatMap_cons]
    match hpair : texts.split ',' pair with
    | lowValue :: hightValue :: rest =>
      rw [run_readPairs_cons hpair]
      simpa using ih (valueList ++ [lowValue] ++ [hightValue])
    | [lowValue] =>
      rw [Handling.readPairs, hpair]
      exact ⟨rfl, by simp⟩
    | [] =>
      rw [Handling.readPairs, hpair]
      exact ⟨rfl, by simp⟩

/-- `initTriStateHallSensor` writes the values of the pairs, and throws, with nothing written,
    where a pair has less than two. -/
theorem run_initTriStateHallSensor (board : HallBoard) (self : ObservingKeyHandler) :
    match Handling.initTriStateHallSensor board self with
    | .ok _ after => after = self.writeValue board.toBoard TRI_STATE_CALIB_PATH (texts.join ','
          ((texts.split ';' (Handling.calibData board)).flatMap
            fun pair => (texts.split ',' pair).take 2)) ∧
        CalibReadable (Handling.calibData board)
    | .error _ after => after = self ∧ ¬ CalibReadable (Handling.calibData board) := by
  have hread := run_readPairs (texts.split ';' (Handling.calibData board)) [] self
  rw [Handling.initTriStateHallSensor, CalibReadable]
  cases hrun : Handling.readPairs [] (texts.split ';' (Handling.calibData board)) self with
  | ok values after =>
    rw [hrun] at hread
    obtain ⟨rfl, rfl, hreadable⟩ := hread
    rw [run_bind_ok hrun]
    exact ⟨rfl, hreadable⟩
  | error thrown after =>
    rw [hrun] at hread
    rw [run_bind_error hrun]
    exact hread

theorem completes_initTriStateHallSensor_iff (board : HallBoard) (self : ObservingKeyHandler) :
    Completes (Handling.initTriStateHallSensor board) self ↔
      CalibReadable (Handling.calibData board) := by
  have hrun := run_initTriStateHallSensor board self
  refine returns_iff (fun value after hok => ?_) (fun thrown after herror => ?_)
  · rw [hok] at hrun
    exact hrun.2
  · rw [herror] at hrun
    exact hrun.2

theorem completes_create_iff (board : HallBoard) (settings : UserSettings) (self : ObservingKeyHandler) :
    Completes (Handling.create board settings) self ↔
      SettingsReadable settings.OMNI_DEVICE_FEATURE_SETTINGS ∧
        (board.sIsOnePlus7t = true → CalibReadable (Handling.calibData board)) := by
  unfold Handling.create
  refine (returns_bind_iff (iff_true_intro (completes_modify _ _)) fun _ after => ?_).trans
    (iff_of_eq (true_and _))
  refine returns_bind_iff (completes_updateDozeSettings_iff _ _ _) fun _ after => ?_
  cases board.sIsOnePlus7t with
  | true =>
    refine (returns_bind_iff (completes_initTriStateHallSensor_iff board after) fun _ _ =>
      iff_true_intro (completes_modify _ _)).trans ?_
    simp
  | false => exact iff_of_true (completes_modify _ _) (by simp)

/-- The constructor that returns has made the handler as said before, on a phone that is not
    calibrated. -/
theorem run_create {board : HallBoard} {settings : UserSettings} {after : ObservingKeyHandler}
    (hhall : board.sIsOnePlus7t = false)
    (hrun : Handling.create board settings (.blank board.toBoard) = .ok () after) :
    after = .create board.toBoard settings := by
  have hobserve : (modify fun self => self.update board.toBoard settings : Handling Unit)
      (.blank board.toBoard) = .ok () ((ObservingKeyHandler.blank board.toBoard).update board.toBoard settings) :=
    rfl
  rw [Handling.create, hhall, run_bind_ok hobserve] at hrun
  cases hstep : Handling.updateDozeSettings board.toBoard settings
      ((ObservingKeyHandler.blank board.toBoard).update board.toBoard settings) with
  | error thrown between =>
    rw [run_bind_error hstep] at hrun
    cases hrun
  | ok value between =>
    rw [run_bind_ok hstep] at hrun
    have hupdate : ((ObservingKeyHandler.blank board.toBoard).update board.toBoard settings).updateDozeSettings
        board.toBoard settings = between := congrArg endState hstep
    rw [ObservingKeyHandler.create, hupdate]
    exact (EStateM.Result.ok.inj hrun).2.symm

theorem completes_onChange_iff (board : Board) (settings : UserSettings) (self : ObservingKeyHandler)
    (change : Change) : Completes (Handling.onChange board settings change) self ↔
      ((∃ value, change = .OMNI_DEVICE_FEATURE_SETTINGS value) →
        SettingsReadable settings.OMNI_DEVICE_FEATURE_SETTINGS) := by
  cases change with
  | OMNI_DEVICE_FEATURE_SETTINGS value =>
    rw [Handling.onChange, completes_updateDozeSettings_iff]
    simp
  | OMNI_DEVICE_PROXI_CHECK_ENABLED value =>
    exact iff_of_true (completes_modify _ _) (by simp)
  | DOUBLE_TAP_TO_WAKE value =>
    exact iff_of_true (completes_modify _ _) (by simp)

/-- The parsers complete, in the constructor and on every change, exactly if both can find the
    parts that they ask for. -/
theorem parsersComplete_iff (board : HallBoard) (settings : UserSettings) :
    ParsersComplete board settings ↔
      SettingsReadable settings.OMNI_DEVICE_FEATURE_SETTINGS ∧
        CalibReadable (Handling.calibData board) := by
  constructor
  · intro hcomplete
    have hself := ObservingKeyHandler.blank board.toBoard
    exact ⟨(completes_updateDozeSettings_iff _ _ hself).mp (hcomplete.updateDozeSettings hself),
      (completes_initTriStateHallSensor_iff _ hself).mp (hcomplete.initTriStateHallSensor hself)⟩
  · rintro ⟨hsettings, hcalib⟩
    exact {
      updateDozeSettings := fun _ => (completes_updateDozeSettings_iff _ _ _).mpr hsettings
      initTriStateHallSensor := fun _ => (completes_initTriStateHallSensor_iff _ _).mpr hcalib
      create := (completes_create_iff _ _ _).mpr ⟨hsettings, fun _ => hcalib⟩
      onChange := fun _ _ => (completes_onChange_iff _ _ _ _).mpr fun _ => hsettings }

/-- A phone without a node that can be written, and with the line. -/
def calibratedBoard (line : Option String) : HallBoard where
  sIsOnePlus7pro := false
  sIsOnePlus7tpro := false
  isOPCameraAvail := false
  config_proxiSensorWakupCheck := false
  fileWritable := fun _ => false
  sIsOnePlus7t := true
  TRI_STATE_CALIB_DATA := line

/-- Settings of one part throw without any calibration file, and so does a pair of one value
    without any settings. -/
theorem parsers_throw :
    ¬ ParsersComplete (calibratedBoard none) ⟨none, some "true", none⟩ ∧
      ¬ ParsersComplete (calibratedBoard (some "1,2;3")) ⟨none, none, none⟩ := by
  refine ⟨fun hcomplete => ?_, fun hcomplete => ?_⟩
  · obtain ⟨value, after, hrun, -⟩ := hcomplete.create
    cases hrun
  · obtain ⟨value, after, hrun, -⟩ := hcomplete.create
    cases hrun

end device_parts
