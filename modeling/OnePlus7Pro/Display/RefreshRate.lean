import OnePlus7Pro.Runs.Taken
import Mathlib.Data.Rat.Defs

open runs

namespace device_parts

/-- The system settings of the refresh rate: a float that is not set, or cannot be parsed, is
    absent. -/
structure RefreshSettings where
  PEAK_REFRESH_RATE : Option Rat
  MIN_REFRESH_RATE : Option Rat
  autoRefreshRate : Option Int
  deriving DecidableEq

inductive TileState where
  | STATE_UNAVAILABLE
  | STATE_INACTIVE
  | STATE_ACTIVE
  deriving DecidableEq

inductive TileIcon where
  | ic_refresh_tile_60
  | ic_refresh_tile_90
  deriving DecidableEq

/-- The tile as it was updated last. -/
structure Tile where
  icon : TileIcon
  state : TileState
  deriving DecidableEq

namespace AutoRefreshRateSwitch

def isCurrentlyEnabled (settings : RefreshSettings) : Bool := settings.autoRefreshRate.getD 1 = 1

def onPreferenceChange (settings : RefreshSettings) (enabled : Bool) : RefreshSettings :=
  { settings with
    PEAK_REFRESH_RATE := some 90
    MIN_REFRESH_RATE := some 60
    autoRefreshRate := some (if enabled then 1 else 0) }

end AutoRefreshRateSwitch

namespace RefreshRateSwitch

def isCurrentlyEnabled (settings : RefreshSettings) : Bool := settings.PEAK_REFRESH_RATE.getD 90 = 90

def setPeakRefresh (settings : RefreshSettings) (enabled : Bool) : RefreshSettings :=
  { settings with
    PEAK_REFRESH_RATE := some (if enabled then 90 else 60)
    MIN_REFRESH_RATE := some (if enabled then 90 else 60) }

def onPreferenceChange (settings : RefreshSettings) (enabled : Bool) : RefreshSettings :=
  { settings with
    PEAK_REFRESH_RATE := some (if enabled then 90 else 60)
    MIN_REFRESH_RATE := some (if enabled then 90 else 60) }

end RefreshRateSwitch

/-- The fields of the tile service. -/
structure RefreshRateTileService where
  enabled : Bool
  autoRefreshEnabled : Bool
  deriving DecidableEq

/-- What the settings screen shows: the two switches, and whether the second can be clicked. -/
structure RefreshScreen where
  autoChecked : Bool
  checked : Bool
  enabled : Bool
  deriving DecidableEq

/-- The settings, the tile with its service, and the settings screen if it is open. -/
structure RefreshSystem where
  settings : RefreshSettings
  service : RefreshRateTileService
  tile : Tile
  listening : Bool
  screen : Option RefreshScreen
  deriving DecidableEq

/-- The service is bound anew, begins and stops listening and has its tile clicked, and the
    settings screen is opened and its two switches are clicked. -/
inductive RefreshEvent where
  | onCreate
  | onStartListening
  | onStopListening
  | onClick
  | onCreatePreferences
  | clickAuto
  | clickRate
  deriving DecidableEq

namespace RefreshSystem

def onStartListening (self : RefreshSystem) : RefreshSystem :=
  let autoRefreshEnabled : Bool := self.settings.autoRefreshRate.getD 1 = 1
  let self := { self with listening := true, service := { self.service with autoRefreshEnabled } }
  if autoRefreshEnabled then { self with tile := { self.tile with state := .STATE_UNAVAILABLE } }
  else
    let enabled := RefreshRateSwitch.isCurrentlyEnabled self.settings
    { self with
      service := { self.service with enabled }
      settings := RefreshRateSwitch.setPeakRefresh self.settings enabled
      tile := ⟨if enabled then .ic_refresh_tile_90 else .ic_refresh_tile_60,
        if enabled then .STATE_ACTIVE else .STATE_INACTIVE⟩ }

def onClick (self : RefreshSystem) : RefreshSystem :=
  if !self.service.autoRefreshEnabled then
    let enabled := RefreshRateSwitch.isCurrentlyEnabled self.settings
    let settings := RefreshRateSwitch.setPeakRefresh self.settings enabled
    { self with
      service := { self.service with enabled }
      settings := { settings with
        PEAK_REFRESH_RATE := some (if enabled then 60 else 90)
        MIN_REFRESH_RATE := some (if enabled then 60 else 90) }
      tile := ⟨if enabled then .ic_refresh_tile_60 else .ic_refresh_tile_90,
        if enabled then .STATE_INACTIVE else .STATE_ACTIVE⟩ }
  else self

def onCreatePreferences (self : RefreshSystem) : RefreshSystem :=
  { self with
    screen := some {
      autoChecked := AutoRefreshRateSwitch.isCurrentlyEnabled self.settings
      checked := RefreshRateSwitch.isCurrentlyEnabled self.settings
      enabled := !AutoRefreshRateSwitch.isCurrentlyEnabled self.settings } }

/-- A click on the first switch: the change of the preference, the switch itself, and
    `onPreferenceTreeClick`. -/
def clickAuto (self : RefreshSystem) : RefreshSystem :=
  match self.screen with
  | none => self
  | some screen =>
    let settings := AutoRefreshRateSwitch.onPreferenceChange self.settings (!screen.autoChecked)
    { self with
      settings
      screen := some { screen with
        autoChecked := !screen.autoChecked
        enabled := !AutoRefreshRateSwitch.isCurrentlyEnabled settings } }

/-- A click on the second switch, which does nothing when that is not enabled. -/
def clickRate (self : RefreshSystem) : RefreshSystem :=
  match self.screen with
  | none => self
  | some screen =>
    if screen.enabled then
      { self with
        settings := RefreshRateSwitch.onPreferenceChange self.settings (!screen.checked)
        screen := some { screen with checked := !screen.checked } }
    else self

def step (self : RefreshSystem) : RefreshEvent → RefreshSystem
  | .onCreate => { self with service := ⟨false, false⟩ }
  | .onStartListening => self.onStartListening
  | .onStopListening => { self with listening := false }
  | .onClick => self.onClick
  | .onCreatePreferences => self.onCreatePreferences
  | .clickAuto => self.clickAuto
  | .clickRate => self.clickRate

/-- The tile is clicked while its service listens, and the screen while it does not. -/
def Allowed (self : RefreshSystem) : RefreshEvent → Prop
  | .onCreate => self.listening = false
  | .onStartListening => self.listening = false
  | .onStopListening => self.listening = true
  | .onClick => self.listening = true
  | .onCreatePreferences => True
  | .clickAuto => self.listening = false
  | .clickRate => self.listening = false

instance (self : RefreshSystem) : (event : RefreshEvent) → Decidable (self.Allowed event)
  | .onCreate => inferInstanceAs (Decidable (_ = _))
  | .onStartListening => inferInstanceAs (Decidable (_ = _))
  | .onStopListening => inferInstanceAs (Decidable (_ = _))
  | .onClick => inferInstanceAs (Decidable (_ = _))
  | .onCreatePreferences => inferInstanceAs (Decidable True)
  | .clickAuto => inferInstanceAs (Decidable (_ = _))
  | .clickRate => inferInstanceAs (Decidable (_ = _))

end RefreshSystem

/-- How fast the display is refreshed: as was stored at first, anywhere from 60 to 90, or at one
    of the two. -/
inductive RateMode where
  | asStored
  | range
  | fixed (fast : Bool)
  deriving DecidableEq

namespace RateMode

/-- The least and the peak rate. -/
def rates (stored : RefreshSettings) : RateMode → Option Rat × Option Rat
  | asStored => (stored.MIN_REFRESH_RATE, stored.PEAK_REFRESH_RATE)
  | range => (some 60, some 90)
  | fixed fast => (some (if fast then 90 else 60), some (if fast then 90 else 60))

/-- Whether the peak is 90. -/
def isFast (stored : RefreshSettings) : RateMode → Bool
  | asStored => stored.PEAK_REFRESH_RATE.getD 90 = 90
  | range => true
  | fixed fast => fast

end RateMode

/-- What is chosen of the refresh rate, and the second switch as an open screen shows it. -/
structure RateChoice where
  auto : Bool
  mode : RateMode
  shown : Option Bool
  deriving DecidableEq

/-- The tile fixes the rate as soon as it listens, unless the rate is automatic. -/
def RateChoice.step (stored : RefreshSettings) (self : RateChoice) : RefreshEvent → RateChoice
  | .onCreate => self
  | .onStartListening => if self.auto then self else { self with mode := .fixed (self.mode.isFast stored) }
  | .onStopListening => self
  | .onClick => if self.auto then self else { self with mode := .fixed (!self.mode.isFast stored) }
  | .onCreatePreferences => { self with shown := some (self.mode.isFast stored) }
  | .clickAuto => if self.shown.isSome then { self with auto := !self.auto, mode := .range } else self
  | .clickRate =>
    match self.shown with
    | none => self
    | some checked => if self.auto then self else { self with mode := .fixed (!checked), shown := some (!checked) }

/-- What the tile shows while it listens. -/
def RateChoice.tileState (stored : RefreshSettings) (self : RateChoice) : TileState :=
  if self.auto then .STATE_UNAVAILABLE
  else if self.mode.isFast stored then .STATE_ACTIVE
  else .STATE_INACTIVE

/-- The settings, the screen and the tile are as was chosen. -/
structure RefreshSystem.Refines (stored : RefreshSettings) (choice : RateChoice) (system : RefreshSystem) :
    Prop where
  rates : (system.settings.MIN_REFRESH_RATE, system.settings.PEAK_REFRESH_RATE) = choice.mode.rates stored
  auto : AutoRefreshRateSwitch.isCurrentlyEnabled system.settings = choice.auto
  ranging : choice.auto = true → choice.mode = .asStored ∨ choice.mode = .range
  screen : system.screen = choice.shown.map fun checked => ⟨choice.auto, checked, !choice.auto⟩
  service : system.listening = true → system.service.autoRefreshEnabled = choice.auto
  tile : system.listening = true → system.tile.state = choice.tileState stored
  icon : system.listening = true → choice.auto = false → system.tile.icon =
    if choice.mode.isFast stored then .ic_refresh_tile_90 else .ic_refresh_tile_60

variable {stored : RefreshSettings} {choice : RateChoice} {system : RefreshSystem}

theorem fixed_rates (stored : RefreshSettings) (fast : Bool) :
    (some (if fast then 90 else 60), some (if fast then 90 else 60)) = (RateMode.fixed fast).rates stored := rfl

theorem isFast_rates (stored : RefreshSettings) (mode : RateMode) :
    decide ((mode.rates stored).2.getD 90 = 90) = mode.isFast stored := by
  cases mode with
  | asStored => rfl
  | range => rfl
  | fixed fast => cases fast <;> simp [RateMode.rates, RateMode.isFast]

namespace RefreshSystem.Refines

theorem isFast (hrefines : system.Refines stored choice) :
    RefreshRateSwitch.isCurrentlyEnabled system.settings = choice.mode.isFast stored := by
  have hpeak : system.settings.PEAK_REFRESH_RATE = (choice.mode.rates stored).2 :=
    congrArg Prod.snd hrefines.rates
  rw [RefreshRateSwitch.isCurrentlyEnabled, hpeak, isFast_rates]

theorem onStartListening (hrefines : system.Refines stored choice) :
    system.onStartListening.Refines stored (choice.step stored .onStartListening) := by
  have hfast := hrefines.isFast
  have hauto : decide (system.settings.autoRefreshRate.getD 1 = 1) = choice.auto := hrefines.auto
  rw [RefreshSystem.onStartListening, RateChoice.step]
  simp only [hauto, hfast]
  cases hchoice : choice.auto with
  | true =>
    simp only [if_true]
    exact {
      rates := hrefines.rates
      auto := hrefines.auto
      ranging := hrefines.ranging
      screen := hrefines.screen
      service := fun _ => hchoice.symm
      tile := fun _ => by simp [RateChoice.tileState, hchoice]
      icon := fun _ hmanual => by simp [hchoice] at hmanual }
  | false =>
    simp only [Bool.false_eq_true, if_false]
    exact {
      rates := fixed_rates stored (choice.mode.isFast stored)
      auto := hrefines.auto.trans hchoice
      ranging := nofun
      screen := by rw [hrefines.screen, hchoice]
      service := fun _ => rfl
      tile := fun _ => rfl
      icon := fun _ _ => rfl }

theorem onClick (hrefines : system.Refines stored choice) (hlistening : system.listening = true) :
    system.onClick.Refines stored (choice.step stored .onClick) := by
  have hfast := hrefines.isFast
  rw [RefreshSystem.onClick, RateChoice.step, hrefines.service hlistening]
  simp only [hfast]
  cases hchoice : choice.auto with
  | true => simpa [hchoice] using hrefines
  | false =>
    simp only [Bool.not_false, Bool.false_eq_true, if_true, if_false]
    exact {
      rates := by cases choice.mode.isFast stored <;> rfl
      auto := hrefines.auto.trans hchoice
      ranging := nofun
      screen := by rw [← hchoice]; exact hrefines.screen
      service := fun _ => (hrefines.service hlistening).trans hchoice
      tile := fun _ => by cases hmode : choice.mode.isFast stored <;> simp [RateChoice.tileState, RateMode.isFast]
      icon := fun _ _ => by cases hmode : choice.mode.isFast stored <;> simp [RateMode.isFast] }

theorem onCreatePreferences (hrefines : system.Refines stored choice) :
    system.onCreatePreferences.Refines stored (choice.step stored .onCreatePreferences) := by
  refine { hrefines with screen := ?_ }
  simp [RefreshSystem.onCreatePreferences, hrefines.auto, hrefines.isFast, RateChoice.step]

theorem clickAuto (hrefines : system.Refines stored choice) (hidle : system.listening = false) :
    system.clickAuto.Refines stored (choice.step stored .clickAuto) := by
  rw [RefreshSystem.clickAuto, hrefines.screen, RateChoice.step]
  cases choice.shown with
  | none => exact hrefines
  | some checked =>
    have hswitched : AutoRefreshRateSwitch.isCurrentlyEnabled
        (AutoRefreshRateSwitch.onPreferenceChange system.settings (!choice.auto)) = !choice.auto := by
      cases choice.auto <;> rfl
    exact {
      rates := rfl
      auto := hswitched
      ranging := fun _ => .inr rfl
      screen := by simp [hswitched]
      service := fun hlistening => by simp [hidle] at hlistening
      tile := fun hlistening => by simp [hidle] at hlistening
      icon := fun hlistening => by simp [hidle] at hlistening }

theorem clickRate (hrefines : system.Refines stored choice) (hidle : system.listening = false) :
    system.clickRate.Refines stored (choice.step stored .clickRate) := by
  rw [RefreshSystem.clickRate, hrefines.screen, RateChoice.step]
  cases hshown : choice.shown with
  | none => exact hrefines
  | some checked =>
    cases hchoice : choice.auto with
    | true => simpa [hchoice] using hrefines
    | false =>
      exact {
        rates := fixed_rates stored (!checked)
        auto := hrefines.auto.trans hchoice
        ranging := nofun
        screen := rfl
        service := fun hlistening => by simp [hidle] at hlistening
        tile := fun hlistening => by simp [hidle] at hlistening
        icon := fun hlistening => by simp [hidle] at hlistening }

theorem step (hrefines : system.Refines stored choice) {event : RefreshEvent} (hallowed : system.Allowed event) :
    (system.step event).Refines stored (choice.step stored event) := by
  cases event with
  | onCreate =>
    have hidle : system.listening = false := hallowed
    refine { hrefines with service := fun hlistening => ?_ }
    simp [RefreshSystem.step, hidle] at hlistening
  | onStartListening => exact hrefines.onStartListening
  | onStopListening => exact { hrefines with service := nofun, tile := nofun, icon := nofun }
  | onClick => exact hrefines.onClick hallowed
  | onCreatePreferences => exact hrefines.onCreatePreferences
  | clickAuto => exact hrefines.clickAuto hallowed
  | clickRate => exact hrefines.clickRate hallowed

end RefreshSystem.Refines

/-- Nothing is open, and nothing listens. -/
def RefreshSystem.start (stored : RefreshSettings) (tile : Tile) : RefreshSystem where
  settings := stored
  service := ⟨false, false⟩
  tile := tile
  listening := false
  screen := none

def RateChoice.start (stored : RefreshSettings) : RateChoice where
  auto := AutoRefreshRateSwitch.isCurrentlyEnabled stored
  mode := .asStored
  shown := none

theorem RefreshSystem.refines_start (stored : RefreshSettings) (tile : Tile) :
    (start stored tile).Refines stored (.start stored) where
  rates := rfl
  auto := rfl
  ranging := fun _ => .inl rfl
  screen := rfl
  service := nofun
  tile := nofun
  icon := nofun

/-- Whatever rates are stored at first, and however the tile and the settings screen are used: the
    rates are those of the last choice, automatic ones are never narrowed, and the tile shows them
    while it listens. -/
theorem refresh_rates_chosen (stored : RefreshSettings) (tile : Tile) {events : List RefreshEvent}
    (hrun : Taken RefreshSystem.step RefreshSystem.Allowed (.start stored tile) events) :
    (events.foldl RefreshSystem.step (.start stored tile)).Refines stored
      (events.foldl (RateChoice.step stored) (.start stored)) := by
  refine hrun.history_invariant
    (H := fun past system => system.Refines stored (past.foldl (RateChoice.step stored) (.start stored)))
    (fun past system event hrefines hallowed => ?_) (RefreshSystem.refines_start stored tile)
    (List.prefix_refl events)
  rw [List.foldl_append]
  exact hrefines.step hallowed

/-- The rate is made manual, fixed by the tile, and made automatic again. -/
def rateFixed : List RefreshEvent :=
  [.onStartListening, .onClick, .onStopListening, .onCreatePreferences, .clickAuto, .onCreate,
    .onStartListening, .onClick, .onStopListening, .clickRate, .clickAuto]

theorem refresh_rates_chosen_rateFixed :
    (rateFixed.foldl RefreshSystem.step (.start ⟨none, none, none⟩ ⟨.ic_refresh_tile_60, .STATE_INACTIVE⟩)).Refines
      ⟨none, none, none⟩ (rateFixed.foldl (RateChoice.step ⟨none, none, none⟩) (.start ⟨none, none, none⟩)) :=
  refresh_rates_chosen _ _ (by decide)

end device_parts
