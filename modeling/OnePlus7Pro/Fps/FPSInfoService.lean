import OnePlus7Pro.Runs.Taken
import Mathlib.Data.List.Count

open effects runs

namespace fps_info

/-- A sampler thread that was started. It runs until it finds itself interrupted. -/
structure CurFPSThread where
  mInterrupt : Bool
  deriving DecidableEq, Repr

def CurFPSThread.interrupt (_self : CurFPSThread) : CurFPSThread := ⟨true⟩

def CurFPSThread.isAlive (self : CurFPSThread) : Bool := !self.mInterrupt

/-- What the dream manager says when it is asked whether the device is dozing. -/
inductive Dreaming where
  | no_manager
  | isDozing (answer : Bool)
  | RemoteException
  deriving DecidableEq, Repr

def isDozeMode : Dreaming → Bool
  | .no_manager => false
  | .isDozing answer => answer
  | .RemoteException => false

/-- The service with all threads that it has started, in the order of their start. -/
structure FPSInfoService where
  threads : List CurFPSThread
  /-- The place of the thread that the service refers to. -/
  mCurFPSThread : Option Nat
  /-- Whether the view is visible, `none` while there is no view. -/
  mView : Option Bool
  mScreenStateReceiver : Bool
  deriving DecidableEq, Repr

/-- The service before it is created. -/
def FPSInfoService.init : FPSInfoService := ⟨[], none, none, false⟩

def FPSInfoService.startThread (self : FPSInfoService) : FPSInfoService :=
  { self with threads := self.threads ++ [⟨false⟩], mCurFPSThread := some self.threads.length }

def FPSInfoService.stopThread (self : FPSInfoService) : FPSInfoService :=
  let self :=
    match self.mCurFPSThread with
    | some thread =>
      if (self.threads[thread]?).any CurFPSThread.isAlive then
        { self with threads := self.threads.modify thread CurFPSThread.interrupt }
      else self
    | none => self
  { self with mCurFPSThread := none }

def FPSInfoService.onCreate (self : FPSInfoService) : FPSInfoService :=
  let self := { self with mView := some true }
  let self := self.startThread
  { self with mScreenStateReceiver := true }

def FPSInfoService.onDestroy (self : FPSInfoService) : FPSInfoService :=
  let self := self.stopThread
  { self with mView := none, mScreenStateReceiver := false }

/-- A broadcast on the state of the screen, with what the dream manager says meanwhile. -/
inductive Broadcast where
  | ACTION_SCREEN_ON (dreaming : Dreaming)
  | ACTION_SCREEN_OFF
  deriving DecidableEq, Repr

/-- `mScreenStateReceiver.onReceive`. -/
def FPSInfoService.onReceive (self : FPSInfoService) : Broadcast → FPSInfoService
  | .ACTION_SCREEN_ON dreaming =>
    if !isDozeMode dreaming then
      let self := self.startThread
      { self with mView := some true }
    else self
  | .ACTION_SCREEN_OFF =>
    let self := { self with mView := some false }
    self.stopThread

/-- What happens to the service. -/
inductive Event where
  | onCreate
  | broadcast (intent : Broadcast)
  | onDestroy
  deriving DecidableEq, Repr

/-- A broadcast reaches the service only while its receiver is registered. -/
def FPSInfoService.handle (self : FPSInfoService) : Event → FPSInfoService
  | .onCreate => self.onCreate
  | .broadcast intent => if self.mScreenStateReceiver then self.onReceive intent else self
  | .onDestroy => self.onDestroy

/-- The threads that were started and not interrupted yet. -/
def FPSInfoService.sampling (self : FPSInfoService) : Nat := self.threads.countP CurFPSThread.isAlive

/-- The life of a service: it is created, receives broadcasts, and is destroyed. -/
def life (intents : List Broadcast) : List Event :=
  [.onCreate] ++ intents.map .broadcast ++ [.onDestroy]

/-- One thread at most samples at every moment, and none once the service is destroyed. -/
def SamplesOnce (intents : List Broadcast) : Prop :=
  (∀ moment ∈ moments FPSInfoService.handle .init (life intents), moment.sampling ≤ 1) ∧
  ((life intents).foldl FPSInfoService.handle .init).sampling = 0

instance (intents : List Broadcast) : Decidable (SamplesOnce intents) :=
  inferInstanceAs (Decidable (_ ∧ _))

/-- Whether a thread samples after a broadcast, if none is started over another. -/
def switched (on : Bool) : Broadcast → Bool
  | .ACTION_SCREEN_ON dreaming => on || !isDozeMode dreaming
  | .ACTION_SCREEN_OFF => false

/-- The screen does not come on, outside doze, while a thread samples. -/
def Apart (on : Bool) : Broadcast → Prop
  | .ACTION_SCREEN_ON dreaming => on = true → isDozeMode dreaming = true
  | .ACTION_SCREEN_OFF => True

instance (on : Bool) : (intent : Broadcast) → Decidable (Apart on intent)
  | .ACTION_SCREEN_ON _ => inferInstanceAs (Decidable (_ → _))
  | .ACTION_SCREEN_OFF => isTrue trivial

/-- The service is created, and refers to the one thread that samples, if one does: the thread
    that was started last. -/
def Tracks (self : FPSInfoService) (on : Bool) : Prop :=
  self.mScreenStateReceiver = true ∧
  if on then
    ∃ threads, self.threads = threads ++ [⟨false⟩] ∧ threads.countP CurFPSThread.isAlive = 0 ∧
      self.mCurFPSThread = some threads.length
  else self.mCurFPSThread = none ∧ self.sampling = 0

theorem Tracks.sampling_eq {self : FPSInfoService} {on : Bool} (h : Tracks self on) :
    self.sampling = if on then 1 else 0 := by
  obtain ⟨_, hrefers⟩ := h
  cases on with
  | false => exact hrefers.2
  | true =>
    obtain ⟨threads, hthreads, hdead, _⟩ := hrefers
    rw [FPSInfoService.sampling, hthreads, List.countP_append, hdead]
    rfl

theorem startThread_sampling (self : FPSInfoService) :
    self.startThread.sampling = self.sampling + 1 := by
  simp [FPSInfoService.startThread, FPSInfoService.sampling, CurFPSThread.isAlive]

theorem Tracks.startThread {self : FPSInfoService} (h : Tracks self false) :
    Tracks self.startThread true :=
  ⟨h.1, self.threads, rfl, h.2.2, rfl⟩

/-- Stopping reaches the thread that samples, since the service refers to it. -/
theorem Tracks.stopThread {self : FPSInfoService} {on : Bool} (h : Tracks self on) :
    Tracks self.stopThread false := by
  obtain ⟨hregistered, hrefers⟩ := h
  cases on with
  | false =>
    obtain ⟨hnone, hdead⟩ := hrefers
    unfold FPSInfoService.stopThread
    rw [hnone]
    exact ⟨hregistered, rfl, hdead⟩
  | true =>
    obtain ⟨threads, hthreads, hdead, hcurrent⟩ := hrefers
    have hlast : self.threads[threads.length]? = some ⟨false⟩ := by
      rw [hthreads, List.getElem?_concat_length]
    have hstopped : self.threads.modify threads.length CurFPSThread.interrupt = threads ++ [⟨true⟩] := by
      rw [hthreads, List.modify_eq_take_drop]
      simp [CurFPSThread.interrupt]
    unfold FPSInfoService.stopThread
    rw [hcurrent]
    simp only [hlast, Option.any_some, CurFPSThread.isAlive, Bool.not_false, if_true]
    refine ⟨hregistered, rfl, ?_⟩
    rw [FPSInfoService.sampling, hstopped, List.countP_append, hdead]
    rfl

/-- A broadcast keeps one thread at most sampling exactly if it does not start one over another. -/
theorem onReceive_sampling_iff {self : FPSInfoService} {on : Bool} (h : Tracks self on)
    (intent : Broadcast) : (self.onReceive intent).sampling ≤ 1 ↔ Apart on intent := by
  have hsampling := h.sampling_eq
  cases intent with
  | ACTION_SCREEN_OFF =>
    have hhidden : Tracks { self with mView := some false } on := h
    have hstopped := hhidden.stopThread.sampling_eq
    exact iff_of_true (by rw [FPSInfoService.onReceive, hstopped]; decide) trivial
  | ACTION_SCREEN_ON dreaming =>
    cases hdoze : isDozeMode dreaming with
    | true =>
      have hkept : self.onReceive (.ACTION_SCREEN_ON dreaming) = self := by
        simp [FPSInfoService.onReceive, hdoze]
      rw [hkept, hsampling]
      cases on <;> simp [Apart, hdoze]
    | false =>
      have hstarted : (self.onReceive (.ACTION_SCREEN_ON dreaming)).sampling = self.sampling + 1 := by
        rw [← startThread_sampling]
        simp [FPSInfoService.onReceive, hdoze, FPSInfoService.sampling]
      rw [hstarted, hsampling]
      cases on <;> simp [Apart, hdoze]

theorem Tracks.onReceive {self : FPSInfoService} {on : Bool} (h : Tracks self on) {intent : Broadcast}
    (hapart : Apart on intent) : Tracks (self.onReceive intent) (switched on intent) := by
  cases intent with
  | ACTION_SCREEN_OFF =>
    have hhidden : Tracks { self with mView := some false } on := h
    exact hhidden.stopThread
  | ACTION_SCREEN_ON dreaming =>
    cases hdoze : isDozeMode dreaming with
    | true => simpa [FPSInfoService.onReceive, switched, hdoze] using h
    | false =>
      cases on with
      | true => simp [Apart, hdoze] at hapart
      | false =>
        have hstarted := h.startThread
        simp only [FPSInfoService.onReceive, switched, hdoze, Bool.not_false, Bool.or_true, if_true]
        exact hstarted

/-- While the service is created every broadcast reaches it. -/
theorem Tracks.handle {self : FPSInfoService} {on : Bool} (h : Tracks self on) (intent : Broadcast) :
    self.handle (.broadcast intent) = self.onReceive intent := by
  rw [FPSInfoService.handle, h.1, if_pos rfl]

/-- The service together with whether a thread should sample. -/
def watch (state : FPSInfoService × Bool) (intent : Broadcast) : FPSInfoService × Bool :=
  (state.1.handle (.broadcast intent), switched state.2 intent)

/-- The service when it has been created. -/
def created : FPSInfoService := FPSInfoService.init.handle .onCreate

theorem tracks_created : Tracks created true := ⟨rfl, [], rfl, rfl, rfl⟩

theorem Tracks.watch {state : FPSInfoService × Bool} {intent : Broadcast} (h : Tracks state.1 state.2)
    (hapart : Apart state.2 intent) : Tracks (watch state intent).1 (watch state intent).2 := by
  rw [fps_info.watch, h.handle]
  exact h.onReceive hapart

theorem taken_watch_iff (intents : List Broadcast) :
    Taken watch (fun state intent => Apart state.2 intent) (created, true) intents ↔
      Taken switched Apart true intents :=
  taken_map Prod.snd fun _ _ => rfl

/-- While the service is created, one thread at most samples exactly if none is started over another. -/
theorem watch_sampling_iff (intents : List Broadcast) :
    (∀ moment ∈ moments watch (created, true) intents, moment.1.sampling ≤ 1) ↔
      Taken switched Apart true intents := by
  have hlegal : Taken watch (fun _ _ => True) (created, true) intents :=
    taken_of_forall fun _ _ => trivial
  rw [← taken_watch_iff]
  refine always_iff_taken (I := fun state => Tracks state.1 state.2)
    (P := fun state => state.1.sampling ≤ 1) ?_ ?_ hlegal tracks_created (by decide)
  · intro state intent htracks _ _
    rw [watch, htracks.handle]
    exact onReceive_sampling_iff htracks intent
  · intro state intent htracks _ _ hapart
    exact htracks.watch hapart

/-- The service that is watched is the one that handles the broadcasts. -/
theorem foldl_watch (intents : List Broadcast) :
    intents.foldl (fun self intent => FPSInfoService.handle self (.broadcast intent)) created =
      (intents.foldl watch (created, true)).1 :=
  @List.foldl_hom _ _ _ Prod.fst watch _ intents (created, true) fun _ _ => rfl

/-- The moments of a service are those while it is created, and one before and one after them. -/
theorem moments_life (intents : List Broadcast) :
    moments FPSInfoService.handle .init (life intents) =
      .init :: ((moments watch (created, true) intents).map Prod.fst ++
        [(life intents).foldl FPSInfoService.handle .init]) := by
  have hmoments := moments_map (fun self intent => FPSInfoService.handle self (.broadcast intent)) watch Prod.fst
    (fun _ _ => rfl) (created, true) intents
  rw [hmoments, ← moments_map_log FPSInfoService.handle Event.broadcast, life, List.append_assoc,
    List.singleton_append, moments_cons, moments_concat, List.foldl_cons]
  rfl

/-- Destroying the service stops the one thread that samples. -/
theorem sampling_life {intents : List Broadcast} (hapart : Taken switched Apart true intents) :
    ((life intents).foldl FPSInfoService.handle .init).sampling = 0 := by
  have hlast : intents.foldl watch (created, true) ∈ moments watch (created, true) intents :=
    (mem_moments_iff _ _ _ _).mpr ⟨intents, List.prefix_refl intents, rfl⟩
  have htracks : Tracks (intents.foldl watch (created, true)).1 (intents.foldl watch (created, true)).2 := by
    have hrun := (taken_watch_iff intents).mpr hapart
    refine hrun.invariant (I := fun state => Tracks state.1 state.2) ?_ tracks_created _ hlast
    intro state intent htracks hapart
    exact htracks.watch hapart
  have hfinal : (life intents).foldl FPSInfoService.handle .init =
      (intents.foldl watch (created, true)).1.onDestroy := by
    rw [life, List.append_assoc, List.singleton_append, List.foldl_cons, List.foldl_append, List.foldl_map,
      ← foldl_watch]
    rfl
  rw [hfinal]
  exact htracks.stopThread.2.2

/-- One thread at most samples, and none in the end, exactly if the screen never comes on,
    outside doze, since a thread was started and not stopped. -/
theorem samples_once_iff (intents : List Broadcast) :
    SamplesOnce intents ↔ Taken switched Apart true intents := by
  unfold SamplesOnce
  rw [moments_life, ← watch_sampling_iff]
  constructor
  · rintro ⟨halways, _⟩ moment hmoment
    apply halways
    exact List.mem_cons_of_mem _ (List.mem_append_left _ (List.mem_map_of_mem hmoment))
  · intro halways
    have hend := sampling_life ((watch_sampling_iff intents).mp halways)
    refine ⟨?_, hend⟩
    simp only [List.forall_mem_cons, List.forall_mem_append, List.forall_mem_map]
    exact ⟨by decide, halways, by rw [hend]; decide⟩

/-- When the screen comes on after the service was created while it was off, the service
    forgets its first thread: two sample, and one still does when the service is destroyed. -/
theorem samples_twice :
    ¬ SamplesOnce [.ACTION_SCREEN_ON (.isDozing false)] ∧
    ((life [.ACTION_SCREEN_ON (.isDozing false)]).foldl FPSInfoService.handle .init).sampling = 1 := by
  decide

end fps_info
