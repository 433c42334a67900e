import OnePlus7Pro.Queues.Executor
import OnePlus7Pro.Runs.Taken

open queues runs

namespace device_parts

def CAMERA_MOTOR_ENABLE_PATH : String := "/sys/devices/platform/vendor/vendor:motor_pl/enable"
def CAMERA_MOTOR_DIRECTION_PATH : String := "/sys/devices/platform/vendor/vendor:motor_pl/direction"
def DIRECTION_DOWN : String := "0"
def ENABLED : String := "1"

structure Sensor where
  handle : Nat
  stringType : String
  deriving DecidableEq

/-- The sensor that the constructor of `FallSensor` finds among those of the phone. -/
def FallSensor.mSensor (sensors : List Sensor) : Option Sensor :=
  sensors.find? fun sensor => sensor.stringType = "oneplus.sensor.free_fall"

/-- The listeners that are registered, by the order of their creation, each with its sensor. -/
abbrev Registrations := List (Nat × Sensor)

/-- `SensorManager.registerListener`: nothing happens without a sensor. -/
def registerListener (registrations : Registrations) (listener : Nat) (sensor : Option Sensor) :
    Registrations :=
  match sensor with
  | none => registrations
  | some sensor =>
    if (listener, sensor) ∈ registrations then registrations else registrations ++ [(listener, sensor)]

/-- `SensorManager.unregisterListener`: nothing happens without a sensor. -/
def unregisterListener (registrations : Registrations) (listener : Nat) (sensor : Option Sensor) :
    Registrations :=
  match sensor with
  | none => registrations
  | some sensor => registrations.filter (· ≠ (listener, sensor))

/-- What `enable` and `disable` submit to the executor of a `FallSensor`. -/
inductive Task where
  | register
  | unregister
  deriving DecidableEq

def Task.perform (sensors : List Sensor) (listener : Nat) (registrations : Registrations) :
    Task → Registrations
  | .register => registerListener registrations listener (FallSensor.mSensor sensors)
  | .unregister => unregisterListener registrations listener (FallSensor.mSensor sensors)

/-- The process of the service: every `FallSensor` that it has created, whose executors
    are never shut down, and the one of the service while that exists. -/
structure FallSensorService where
  executors : Executors Nat Task Registrations
  created : Nat
  mFallSensor : Option Nat
  written : List (String × String)

namespace FallSensorService

def init : FallSensorService := ⟨⟨fun _ => [], []⟩, 0, none, []⟩

def registrations (self : FallSensorService) : Registrations := self.executors.state

def turn (sensors : List Sensor) (self : FallSensorService) (turn : Turn Nat Task) : FallSensorService :=
  { self with executors := self.executors.turn (Task.perform sensors) turn }

def writeValue (self : FallSensorService) (path value : String) : FallSensorService :=
  { self with written := self.written ++ [(path, value)] }

def ensureCameraClosed (self : FallSensorService) : FallSensorService :=
  (self.writeValue CAMERA_MOTOR_DIRECTION_PATH DIRECTION_DOWN).writeValue CAMERA_MOTOR_ENABLE_PATH ENABLED

def enable (sensors : List Sensor) (self : FallSensorService) (fallSensor : Nat) : FallSensorService :=
  self.turn sensors (.submit fallSensor .register)

def disable (sensors : List Sensor) (self : FallSensorService) (fallSensor : Nat) : FallSensorService :=
  self.turn sensors (.submit fallSensor .unregister)

end FallSensorService

/-- What happens in the process: calls and broadcasts on its main thread, a worker that takes
    its next task, and a value of the sensor for a listener. -/
inductive FallEvent where
  | onCreate
  | onStartCommand
  | ACTION_SCREEN_ON
  | ACTION_SCREEN_OFF
  | onDestroy
  | work (fallSensor : Nat)
  | onSensorChanged (fallSensor : Nat) (value : Rat)
  deriving DecidableEq

namespace FallSensorService

def step (sensors : List Sensor) (self : FallSensorService) : FallEvent → FallSensorService
  | .onCreate => { self with created := self.created + 1, mFallSensor := some self.created }
  -- the receiver of the broadcasts is registered while the service exists
  | .onStartCommand | .ACTION_SCREEN_ON =>
    match self.mFallSensor with
    | some fallSensor => self.enable sensors fallSensor
    | none => self
  | .ACTION_SCREEN_OFF =>
    match self.mFallSensor with
    | some fallSensor => self.disable sensors fallSensor
    | none => self
  | .onDestroy =>
    match self.mFallSensor with
    | some fallSensor => { self.disable sensors fallSensor with mFallSensor := none }
    | none => self
  | .work fallSensor => self.turn sensors (.work fallSensor)
  | .onSensorChanged _ value => if value > 0 then self.ensureCameraClosed else self

/-- The system creates the service when there is none, starts and destroys one that exists, and
    delivers values to registered listeners. -/
def Delivered (self : FallSensorService) : FallEvent → Prop
  | .onCreate => self.mFallSensor = none
  | .onStartCommand | .onDestroy => self.mFallSensor.isSome
  | .onSensorChanged fallSensor _ => fallSensor ∈ self.registrations.map Prod.fst
  | .ACTION_SCREEN_ON | .ACTION_SCREEN_OFF | .work _ => True

instance (self : FallSensorService) : (event : FallEvent) → Decidable (self.Delivered event)
  | .onCreate => inferInstanceAs (Decidable (_ = _))
  | .onStartCommand | .onDestroy => inferInstanceAs (Decidable (_ = true))
  | .onSensorChanged _ _ => inferInstanceAs (Decidable (_ ∈ _))
  | .ACTION_SCREEN_ON | .ACTION_SCREEN_OFF | .work _ => isTrue trivial

/-- The sensors that a listener is registered for. -/
def part (listener : Nat) (registrations : Registrations) : List Sensor :=
  (registrations.filter fun registration => registration.1 = listener).map Prod.snd

/-- What a task makes of the sensors of its own listener. -/
def act (sensors : List Sensor) (registered : List Sensor) (task : Task) : List Sensor :=
  match FallSensor.mSensor sensors, task with
  | none, _ => registered
  | some sensor, .register => if sensor ∈ registered then registered else registered ++ [sensor]
  | some sensor, .unregister => registered.filter (· ≠ sensor)

/-- What the main thread has asked for: `none` without a service, and otherwise whether its
    listener is to be registered. -/
def ask (asked : Option Bool) : FallEvent → Option Bool
  | .onCreate => some false
  | .onStartCommand | .ACTION_SCREEN_ON => asked.map fun _ => true
  | .ACTION_SCREEN_OFF => asked.map fun _ => false
  | .onDestroy => none
  | .work _ | .onSensorChanged _ _ => asked

/-- The registrations that the main thread has asked for. -/
def registrationsAsked (sensors : List Sensor) (self : FallSensorService) (events : List FallEvent) : Registrations :=
  match self.mFallSensor, events.foldl ask none with
  | some fallSensor, some true => (FallSensor.mSensor sensors).toList.map fun sensor => (fallSensor, sensor)
  | _, _ => []

variable {sensors : List Sensor}

@[simp] theorem mFallSensor_enable (self : FallSensorService) (fallSensor : Nat) :
    (self.enable sensors fallSensor).mFallSensor = self.mFallSensor := rfl

@[simp] theorem mFallSensor_disable (self : FallSensorService) (fallSensor : Nat) :
    (self.disable sensors fallSensor).mFallSensor = self.mFallSensor := rfl

theorem mem_part {listener : Nat} {registrations : Registrations} {sensor : Sensor} :
    sensor ∈ part listener registrations ↔ (listener, sensor) ∈ registrations := by
  simp [part]

theorem separate : Separate (Task.perform sensors) part (act sensors) where
  own := by
    intro listener registrations task
    cases hsensor : FallSensor.mSensor sensors with
    | none => cases task <;> simp only [Task.perform, hsensor, registerListener, unregisterListener, act]
    | some sensor =>
      cases task with
      | register =>
        simp only [Task.perform, hsensor, registerListener, act, mem_part]
        split
        · rfl
        · simp [part]
      | unregister =>
        simp only [Task.perform, hsensor, unregisterListener, act, part, List.filter_filter, List.filter_map]
        congr 1
        refine List.filter_congr fun registration _ => ?_
        by_cases h : registration.1 = listener
        · simp [h, Prod.ext_iff]
        · simp [h]
  other := by
    intro listener other registrations task hother
    cases hsensor : FallSensor.mSensor sensors with
    | none => cases task <;> simp only [Task.perform, hsensor, registerListener, unregisterListener]
    | some sensor =>
      cases task with
      | register =>
        simp only [Task.perform, hsensor, registerListener]
        split
        · rfl
        · simp [part, hother.symm]
      | unregister =>
        simp only [Task.perform, hsensor, unregisterListener, part, List.filter_filter]
        congr 1
        refine List.filter_congr fun registration _ => ?_
        by_cases h : registration.1 = other
        · simp [h, Prod.ext_iff, hother]
        · simp [h]

theorem act_ne_nil {registered : List Sensor} {task : Task} (hne : registered ≠ [])
    (htask : task ≠ .unregister) : act sensors registered task ≠ [] := by
  obtain rfl : task = .register := by
    cases task with
    | register => rfl
    | unregister => exact absurd rfl htask
  cases hsensor : FallSensor.mSensor sensors with
  | none => simpa only [act, hsensor] using hne
  | some sensor =>
    simp only [act, hsensor]
    split
    · exact hne
    · simp

/-- Only a task that unregisters ends a registration. -/
theorem unregister_mem {registered : List Sensor} (hne : registered ≠ []) {waiting : List Task}
    (hend : waiting.foldl (act sensors) registered = []) : Task.unregister ∈ waiting := by
  induction waiting generalizing registered with
  | nil => exact absurd hend hne
  | cons task waiting ih =>
    by_cases htask : task = .unregister
    · exact htask ▸ List.mem_cons_self
    · exact List.mem_cons_of_mem _ (ih (act_ne_nil hne htask) hend)

/-- The registrations of which each listener but one has no part. -/
theorem eq_map_part {registrations : Registrations} (listener : Nat)
    (hothers : ∀ other, other ≠ listener → part other registrations = []) :
    registrations = (part listener registrations).map fun sensor => (listener, sensor) := by
  have hown : ∀ registration ∈ registrations, registration.1 = listener := by
    intro registration hmem
    by_contra hother
    have hpart := mem_part.mpr hmem
    rw [hothers _ hother] at hpart
    exact List.not_mem_nil hpart
  rw [part, List.filter_eq_self.mpr (by simpa using hown), List.map_map]
  symm
  rw [List.map_congr_left (g := id)]
  · simp
  · intro registration hmem
    simp [← hown registration hmem]

/-- What the executors will come to agrees with what was asked for. -/
structure Kept (sensors : List Sensor) (asked : Option Bool) (process : FallSensorService) : Prop where
  service : process.mFallSensor.isSome = asked.isSome
  current : ∀ fallSensor, process.mFallSensor = some fallSensor →
    process.executors.outcome part (act sensors) fallSensor =
      if asked = some true then (FallSensor.mSensor sensors).toList else []
  others : ∀ fallSensor, process.mFallSensor ≠ some fallSensor →
    process.executors.outcome part (act sensors) fallSensor = []

theorem act_register {asked : Option Bool} :
    act sensors (if asked = some true then (FallSensor.mSensor sensors).toList else []) .register =
      (FallSensor.mSensor sensors).toList := by
  cases hsensor : FallSensor.mSensor sensors with
  | none => simp [act, hsensor]
  | some sensor => by_cases hasked : asked = some true <;> simp [act, hsensor, hasked]

theorem act_unregister {asked : Option Bool} :
    act sensors (if asked = some true then (FallSensor.mSensor sensors).toList else []) .unregister = [] := by
  cases hsensor : FallSensor.mSensor sensors with
  | none => simp [act, hsensor]
  | some sensor => by_cases hasked : asked = some true <;> simp [act, hsensor, hasked]

theorem kept_init : Kept sensors none init where
  service := rfl
  current := by simp [init]
  others := by simp [init, Executors.outcome, part]

variable {asked : Option Bool} {process : FallSensorService} {fallSensor : Nat}

/-- A command settles what the listener of the service comes to, and leaves the others. -/
theorem Kept.submit (hkept : Kept sensors asked process) (hservice : process.mFallSensor = some fallSensor)
    (task : Task) (other : Nat) :
    (process.turn sensors (.submit fallSensor task)).executors.outcome part (act sensors) other =
      if other = fallSensor then
        act sensors (if asked = some true then (FallSensor.mSensor sensors).toList else []) task
      else [] := by
  rw [turn]
  split
  next hsame => rw [hsame, Executors.outcome_submit_self, hkept.current _ hservice]
  next hother =>
    rw [Executors.outcome_submit_other _ _ hother]
    exact hkept.others other (by simp [hservice, Ne.symm hother])

theorem Kept.enable (hkept : Kept sensors asked process) (hservice : process.mFallSensor = some fallSensor) :
    Kept sensors (asked.map fun _ => true) (process.enable sensors fallSensor) where
  service := by simpa using hkept.service
  current := by
    intro other hother
    obtain rfl : fallSensor = other := Option.some.inj (hservice.symm.trans hother)
    have hasked := hkept.service
    rw [hservice, Option.isSome_some, eq_comm, Option.isSome_iff_exists] at hasked
    obtain ⟨wanted, rfl⟩ := hasked
    rw [FallSensorService.enable, hkept.submit hservice, if_pos rfl, act_register]
    rfl
  others := by
    intro other hother
    rw [FallSensorService.enable, hkept.submit hservice, if_neg]
    rintro rfl
    exact hother hservice

theorem Kept.disable (hkept : Kept sensors asked process) (hservice : process.mFallSensor = some fallSensor)
    (other : Nat) : (process.disable sensors fallSensor).executors.outcome part (act sensors) other = [] := by
  rw [FallSensorService.disable, hkept.submit hservice]
  split
  · exact act_unregister
  · rfl

/-- What a process without a service is asked for is nothing. -/
theorem Kept.asked_none (hkept : Kept sensors asked process) (hservice : process.mFallSensor = none) :
    asked = none := by
  have hasked := hkept.service
  rw [hservice] at hasked
  simpa using hasked.symm

theorem Kept.step (hkept : Kept sensors asked process) {event : FallEvent}
    (hdelivered : process.Delivered event) :
    Kept sensors (ask asked event) (process.step sensors event) := by
  cases event with
  | onCreate =>
    have hnone : process.mFallSensor = none := hdelivered
    refine ⟨rfl, fun fallSensor _ => ?_, fun fallSensor _ => ?_⟩
    · exact hkept.others fallSensor (by simp [hnone])
    · exact hkept.others fallSensor (by simp [hnone])
  | onStartCommand =>
    obtain ⟨fallSensor, hservice⟩ := Option.isSome_iff_exists.mp hdelivered
    simpa only [FallSensorService.step, hservice, ask] using hkept.enable hservice
  | ACTION_SCREEN_ON =>
    cases hservice : process.mFallSensor with
    | none =>
      obtain rfl := hkept.asked_none hservice
      simpa only [FallSensorService.step, hservice, ask, Option.map_none] using hkept
    | some fallSensor => simpa only [FallSensorService.step, hservice, ask] using hkept.enable hservice
  | ACTION_SCREEN_OFF =>
    cases hservice : process.mFallSensor with
    | none =>
      obtain rfl := hkept.asked_none hservice
      simpa only [FallSensorService.step, hservice, ask, Option.map_none] using hkept
    | some fallSensor =>
      simp only [FallSensorService.step, hservice, ask]
      refine ⟨?_, fun other _ => ?_, fun other _ => hkept.disable hservice other⟩
      · simpa using hkept.service
      · rw [hkept.disable hservice]
        cases asked <;> rfl
  | onDestroy =>
    obtain ⟨fallSensor, hservice⟩ := Option.isSome_iff_exists.mp hdelivered
    simp only [FallSensorService.step, hservice, ask]
    exact ⟨rfl, nofun, fun other _ => hkept.disable hservice other⟩
  | work worker =>
    refine ⟨hkept.service, fun other hother => ?_, fun other hother => ?_⟩
    · exact (Executors.outcome_work separate _ worker other).trans (hkept.current other hother)
    · exact (Executors.outcome_work separate _ worker other).trans (hkept.others other hother)
  | onSensorChanged listener value =>
    rw [FallSensorService.step]
    split
    · exact ⟨hkept.service, hkept.current, hkept.others⟩
    · exact hkept

theorem kept_run {events past : List FallEvent} (hrun : Taken (step sensors) Delivered init events)
    (hpast : past <+: events) :
    Kept sensors (past.foldl ask none) (past.foldl (step sensors) init) := by
  refine hrun.history_invariant (H := fun past process => Kept sensors (past.foldl ask none) process)
    (fun past process event hkept hdelivered => ?_) kept_init hpast
  rw [List.foldl_append]
  exact hkept.step hdelivered

/-- However the main thread and the workers take turns, and however often the service is
    destroyed and created: when the executors have nothing left to do, exactly the
    registrations are there that were asked for last. -/
theorem registrations_settle {events : List FallEvent} (hrun : Taken (step sensors) Delivered init events)
    (hdone : ∀ fallSensor, (events.foldl (step sensors) init).executors.waiting fallSensor = []) :
    (events.foldl (step sensors) init).registrations =
      registrationsAsked sensors (events.foldl (step sensors) init) events := by
  have hkept := kept_run hrun (List.prefix_refl events)
  generalize events.foldl (step sensors) init = process at hdone hkept ⊢
  have hpart : ∀ fallSensor, part fallSensor process.registrations =
      process.executors.outcome part (act sensors) fallSensor :=
    fun fallSensor => (Executors.outcome_of_waiting_nil (hdone fallSensor)).symm
  rw [registrationsAsked]
  cases hservice : process.mFallSensor with
  | none =>
    -- a process without a service has no registration of any listener
    rw [eq_map_part 0 fun other _ => (hpart other).trans (hkept.others other (by simp [hservice])),
      hpart, hkept.others 0 (by simp [hservice]), List.map_nil]
  | some fallSensor =>
    rw [eq_map_part fallSensor fun other hother =>
      (hpart other).trans (hkept.others other (by simp [hservice, hother.symm])), hpart,
      hkept.current fallSensor hservice]
    split
    next h => simp [h]
    next h =>
      cases hlast : events.foldl ask none with
      | none => rfl
      | some wanted =>
        cases wanted with
        | true => exact absurd hlast h
        | false => rfl

/-- A phone with a fall sensor among others. -/
def fallPhone : List Sensor := [⟨4, "oneplus.sensor.pocket"⟩, ⟨7, "oneplus.sensor.free_fall"⟩]

/-- The service is destroyed and created again while tasks wait. -/
def restarted : List FallEvent :=
  [.onCreate, .onStartCommand, .ACTION_SCREEN_OFF, .work 0, .onSensorChanged 0 1, .ACTION_SCREEN_ON,
    .onDestroy, .onCreate, .onStartCommand, .work 1, .work 0, .work 0, .work 0]

theorem taken_restarted : Taken (step fallPhone) Delivered init restarted := by decide

theorem registrations_settle_restarted :
    (restarted.foldl (step fallPhone) init).registrations = [(1, ⟨7, "oneplus.sensor.free_fall"⟩)] :=
  registrations_settle taken_restarted fun
    | 0 => rfl
    | 1 => rfl
    | _ + 2 => rfl

/-- A value that closes the camera. -/
def Falls : FallEvent → Prop
  | .onSensorChanged _ value => value > 0
  | _ => False

instance : DecidablePred Falls
  | .onSensorChanged _ value => inferInstanceAs (Decidable (value > 0))
  | .onCreate | .onStartCommand | .ACTION_SCREEN_ON | .ACTION_SCREEN_OFF | .onDestroy | .work _ => isFalse id

/-- The writes that close the camera once: the direction first. -/
def closing : List (String × String) :=
  [(CAMERA_MOTOR_DIRECTION_PATH, DIRECTION_DOWN), (CAMERA_MOTOR_ENABLE_PATH, ENABLED)]

/-- What holds at every moment: a listener is registered once, for the fall sensor, and with
    a task that will unregister it unless it is that of the service; and the motor has been
    given the writes of one closing after the other, one for each fall. -/
structure Orderly (sensors : List Sensor) (past : List FallEvent) (process : FallSensorService) : Prop where
  nodup : process.registrations.Nodup
  sensor : ∀ registration ∈ process.registrations, FallSensor.mSensor sensors = some registration.2
  leaving : ∀ registration ∈ process.registrations, process.mFallSensor ≠ some registration.1 →
    Task.unregister ∈ process.executors.waiting registration.1
  written : process.written = (List.replicate (past.countP fun event => decide (Falls event)) closing).flatten
  phone : process.written ≠ [] → (FallSensor.mSensor sensors).isSome

theorem registrations_turn (self : FallSensorService) (turn : Turn Nat Task) :
    (self.turn sensors turn).registrations = self.registrations ∨
      ∃ listener task, (self.turn sensors turn).registrations =
        Task.perform sensors listener self.registrations task := by
  cases turn with
  | submit fallSensor task => exact Or.inl rfl
  | work fallSensor =>
    cases hwaiting : self.executors.waiting fallSensor with
    | nil => exact Or.inl (by simp only [FallSensorService.turn, registrations, Executors.turn, hwaiting])
    | cons task rest =>
      exact Or.inr ⟨fallSensor, task, by
        simp only [FallSensorService.turn, registrations, Executors.turn, hwaiting]⟩

/-- The registrations change by a task that a worker takes. -/
theorem registrations_step (self : FallSensorService) (event : FallEvent) :
    (self.step sensors event).registrations = self.registrations ∨
      ∃ listener task, (self.step sensors event).registrations =
        Task.perform sensors listener self.registrations task := by
  cases event with
  | work fallSensor => exact self.registrations_turn (.work fallSensor)
  | onSensorChanged listener value =>
    rw [step]
    split <;> exact Or.inl rfl
  | onCreate => exact Or.inl rfl
  | onStartCommand | ACTION_SCREEN_ON | ACTION_SCREEN_OFF | onDestroy =>
    rw [step]
    split <;> exact Or.inl rfl

theorem nodup_perform {registrations : Registrations} (hnodup : registrations.Nodup) (listener : Nat)
    (task : Task) : (Task.perform sensors listener registrations task).Nodup := by
  cases hsensor : FallSensor.mSensor sensors with
  | none =>
    cases task <;> simpa only [Task.perform, hsensor, registerListener, unregisterListener] using hnodup
  | some sensor =>
    cases task with
    | register =>
      simp only [Task.perform, hsensor, registerListener]
      split
      · exact hnodup
      next hnew => simpa [List.nodup_append] using ⟨hnodup, fun l s hmem hl hs => hnew (hl ▸ hs ▸ hmem)⟩
    | unregister =>
      simp only [Task.perform, hsensor, unregisterListener]
      exact hnodup.filter _

theorem sensor_perform {registrations : Registrations}
    (hsensors : ∀ registration ∈ registrations, FallSensor.mSensor sensors = some registration.2)
    (listener : Nat) (task : Task) :
    ∀ registration ∈ Task.perform sensors listener registrations task,
      FallSensor.mSensor sensors = some registration.2 := by
  cases hsensor : FallSensor.mSensor sensors with
  | none =>
    cases task <;> simpa only [Task.perform, hsensor, registerListener, unregisterListener] using hsensors
  | some sensor =>
    rw [hsensor] at hsensors
    cases task with
    | register =>
      simp only [Task.perform, hsensor, registerListener]
      split
      · exact hsensors
      · intro registration hmem
        obtain hmem | hnew := List.mem_append.mp hmem
        · exact hsensors registration hmem
        · rw [List.mem_singleton.mp hnew]
    | unregister =>
      simp only [Task.perform, hsensor, unregisterListener]
      exact fun registration hmem => hsensors registration (List.mem_of_mem_filter hmem)

theorem written_step (self : FallSensorService) (event : FallEvent) :
    (self.step sensors event).written = self.written ++ if Falls event then closing else [] := by
  cases event with
  | onSensorChanged listener value =>
    rw [step]
    split
    next hfall =>
      rw [if_pos (show Falls (.onSensorChanged listener value) from hfall)]
      simp [ensureCameraClosed, writeValue, closing]
    next hfall => rw [if_neg (show ¬ Falls (.onSensorChanged listener value) from hfall), List.append_nil]
  | onCreate | work => simp [step, turn, Falls]
  | onStartCommand | ACTION_SCREEN_ON | ACTION_SCREEN_OFF | onDestroy =>
    rw [step]
    split <;> simp [enable, disable, turn, Falls]

/-- A listener that is registered and not that of the service will be unregistered. -/
theorem Kept.leaving (hkept : Kept sensors asked process) :
    ∀ registration ∈ process.registrations, process.mFallSensor ≠ some registration.1 →
      Task.unregister ∈ process.executors.waiting registration.1 := by
  intro registration hmem hother
  have hpart : part registration.1 process.registrations ≠ [] := List.ne_nil_of_mem (mem_part.mpr hmem)
  exact unregister_mem hpart (hkept.others registration.1 hother)

theorem orderly_init : Orderly sensors [] init := by
  constructor <;> simp [init, registrations]

theorem Orderly.step {past : List FallEvent} (horderly : Orderly sensors past process) {event : FallEvent}
    (hdelivered : process.Delivered event) (hkept : Kept sensors asked (process.step sensors event)) :
    Orderly sensors (past ++ [event]) (process.step sensors event) where
  nodup := by
    obtain hsame | ⟨listener, task, htask⟩ := process.registrations_step event
    · rw [hsame]
      exact horderly.nodup
    · rw [htask]
      exact nodup_perform horderly.nodup listener task
  sensor := by
    obtain hsame | ⟨listener, task, htask⟩ := process.registrations_step event
    · rw [hsame]
      exact horderly.sensor
    · rw [htask]
      exact sensor_perform horderly.sensor listener task
  leaving := hkept.leaving
  written := by
    rw [written_step, horderly.written, List.countP_append, List.countP_singleton]
    by_cases hfall : Falls event
    · simp [hfall, List.replicate_succ']
    · simp [hfall]
  phone := by
    intro hwritten
    rw [written_step] at hwritten
    by_cases hfall : Falls event
    · -- the listener that is told of a fall is registered for the fall sensor
      cases event with
      | onSensorChanged listener value =>
        obtain ⟨registration, hmem, -⟩ := List.mem_map.mp hdelivered
        rw [horderly.sensor registration hmem]
        rfl
      | _ => exact hfall.elim
    · rw [if_neg hfall, List.append_nil] at hwritten
      exact horderly.phone hwritten

/-- At every moment of every run, however the main thread and the workers take turns. -/
theorem orderly_run {events past : List FallEvent} (hrun : Taken (step sensors) Delivered init events)
    (hpast : past <+: events) : Orderly sensors past (past.foldl (step sensors) init) := by
  refine (hrun.history_invariant
    (H := fun past process => Kept sensors (past.foldl ask none) process ∧ Orderly sensors past process)
    (fun past process event hinv hdelivered => ?_) ⟨kept_init, orderly_init⟩ hpast).2
  have hkept := hinv.1.step hdelivered
  rw [List.foldl_append]
  exact ⟨hkept, hinv.2.step hdelivered hkept⟩

theorem orderly_run_restarted : Orderly fallPhone restarted (restarted.foldl (step fallPhone) init) :=
  orderly_run taken_restarted (List.prefix_refl _)

end FallSensorService

end device_parts
