import OnePlus7Pro.Vibrator.InputFFDevice
import Mathlib.Data.List.Infix
import Mathlib.Tactic.Ring

open effects runs

namespace vibrator

/-- At most one effect is uploaded, and `mCurrAppId` is its id, or invalid when there is none. -/
def Tracked (self : InputFFDevice) : Prop :=
  self.driver.ids = if self.mCurrAppId = INVALID_VALUE then [] else [self.mCurrAppId]

/-- What no failure disturbs: only what is uploaded plays, and nothing is uploaded through a
    device that has not been found. -/
structure Sound (device : InputFFDevice) : Prop where
  playing : ∀ id ∈ device.driver.playing, id ∈ device.driver.ids
  absent : device.mVibraFd = INVALID_VALUE → device.driver.ids = []

/-- The driver refuses an `EVIOCRMFF` that `play` issues. -/
def InputFFDevice.eraseRefused (self : InputFFDevice) (timeoutMs : BitVec 32) (answers : Answers) :
    Bool :=
  if self.mVibraFd = INVALID_VALUE then false
  else if self.mCurrAppId ≠ INVALID_VALUE ∧ !answers.erase then true
  else timeoutMs ≠ 0#32 && answers.upload.isSome && !answers.write && !answers.cleanup

/-- The driver refuses an `EVIOCRMFF` that the call issues. -/
def EraseRefused (self : InputFFDevice) (call : Call) : Prop :=
  (match call.request with
    | .on timeoutMs => self.eraseRefused timeoutMs call.answers
    | .off => self.eraseRefused 0#32 call.answers
    | .playEffect _ es =>
      es.magnitude.isSome && self.eraseRefused (BitVec.ofInt 32 INVALID_VALUE) call.answers
    | .setAmplitude _ => false) = true

instance (self : InputFFDevice) (call : Call) : Decidable (EraseRefused self call) :=
  inferInstanceAs (Decidable (_ = true))

theorem ids_upload (driver : Driver) (id : Int) (effect : ff_effect) :
    (driver.upload id effect).ids = driver.ids ++ [id] := by
  simp [Driver.upload, Driver.ids]

theorem ids_erase (driver : Driver) (id : Int) :
    (driver.erase id).ids = driver.ids.filter fun other => other ≠ id := by
  simp [Driver.erase, Driver.ids, List.filter_map, Function.comp_def]

@[simp] theorem ids_play (driver : Driver) (id : Int) : (driver.play id).ids = driver.ids := rfl

theorem Tracked.nothing_uploaded {self : InputFFDevice} (htracked : Tracked self)
    (hid : self.mCurrAppId = INVALID_VALUE) : self.driver.ids = [] := by
  rw [htracked, if_pos hid]

theorem Tracked.one_uploaded {self : InputFFDevice} (htracked : Tracked self)
    (hid : self.mCurrAppId ≠ INVALID_VALUE) : self.driver.ids = [self.mCurrAppId] := by
  rw [htracked, if_neg hid]

/-- Once the current effect is erased nothing is uploaded. -/
theorem Tracked.erased {self : InputFFDevice} (htracked : Tracked self)
    (hid : self.mCurrAppId ≠ INVALID_VALUE) : (self.driver.erase self.mCurrAppId).ids = [] := by
  rw [ids_erase, htracked.one_uploaded hid]
  simp

theorem tracked_init (mVibraFd : Int) : Tracked (.init mVibraFd) := by
  simp [Tracked, InputFFDevice.init, Driver.ids]

theorem sound_init (mVibraFd : Int) : Sound (.init mVibraFd) := by
  constructor <;> simp [InputFFDevice.init, Driver.ids]

/-- Giving up an effect without erasing it loses track of it. -/
theorem not_tracked_errout {self : InputFFDevice} (hids : self.driver.ids ≠ []) (ret : Int)
    (playLengthMs : Option Int) : ¬ Tracked (self.errout ret playLengthMs).self := by
  simpa [Tracked, InputFFDevice.errout] using hids

theorem tracked_errout {self : InputFFDevice} (hids : self.driver.ids = []) (ret : Int)
    (playLengthMs : Option Int) : Tracked (self.errout ret playLengthMs).self := by
  simpa [Tracked, InputFFDevice.errout] using hids

/-- Starting an effect while none is uploaded keeps track unless the erasure that follows a
    failed write fails too. -/
theorem tracked_start_iff {self : InputFFDevice} {answers : Answers}
    (hnone : self.driver.ids = [])
    (hvalid : ∀ upload, answers.upload = some upload → upload.id ≠ INVALID_VALUE)
    (effectId : Int) (timeoutMs : BitVec 32) (wantsLength : Bool) :
    Tracked (self.start effectId timeoutMs wantsLength answers).self ↔
      ¬ (answers.upload.isSome = true ∧ answers.write = false ∧ answers.cleanup = false) := by
  rw [InputFFDevice.start]
  cases hupload : answers.upload with
  | none => simp [tracked_errout hnone]
  | some upload =>
    have hnew := hvalid upload hupload
    cases hwrite : answers.write with
    | true => simp [Tracked, hnew, ids_upload, hnone]
    | false =>
      cases hcleanup : answers.cleanup with
      | true =>
        -- the only effect is the one that has just been uploaded
        simpa using tracked_errout (by simp [ids_erase, ids_upload, hnone]) 0 _
      | false =>
        simpa using not_tracked_errout (by simp [ids_upload]) (-1) _

/-- A call of `play` keeps track of the uploaded effect exactly when the driver refuses none
    of the erasures that it issues. -/
theorem tracked_play_iff {self : InputFFDevice} {answers : Answers} (htracked : Tracked self)
    (hvalid : ∀ upload, answers.upload = some upload → upload.id ≠ INVALID_VALUE)
    (effectId : Int) (timeoutMs : BitVec 32) (wantsLength : Bool) :
    Tracked (self.play effectId timeoutMs wantsLength answers).self ↔
      self.eraseRefused timeoutMs answers = false := by
  rw [InputFFDevice.play, InputFFDevice.eraseRefused]
  by_cases hfd : self.mVibraFd = INVALID_VALUE
  · simp [hfd, htracked]
  by_cases hid : self.mCurrAppId = INVALID_VALUE
  · -- no effect has to be erased first
    have hnone := htracked.nothing_uploaded hid
    by_cases htimeout : timeoutMs = 0#32
    · simp [hfd, hid, htimeout, htracked]
    · rw [if_neg hfd, if_neg hfd, if_pos htimeout, if_neg (not_not.mpr hid),
        tracked_start_iff hnone hvalid]
      simp [hid, htimeout]
  · cases herase : answers.erase with
    | false =>
      have hkept : self.driver.ids ≠ [] := by simp [htracked.one_uploaded hid]
      have hlost := not_tracked_errout hkept (-1) none
      by_cases htimeout : timeoutMs = 0#32 <;> simp [hfd, hid, htimeout, hlost]
    | true =>
      have hnone := htracked.erased hid
      by_cases htimeout : timeoutMs = 0#32
      · simp [hfd, hid, htimeout, Tracked, hnone]
      · rw [if_neg hfd, if_neg hfd, if_pos htimeout, if_pos hid, if_pos rfl,
          tracked_start_iff hnone hvalid]
        simp [htimeout]

theorem FreshIds.valid {self : InputFFDevice} {call : Call} (hfresh : FreshIds self call) :
    ∀ upload, call.answers.upload = some upload → upload.id ≠ INVALID_VALUE := by
  intro upload hupload
  have hnonneg := (hfresh upload hupload).1
  simp only [INVALID_VALUE]
  omega

/-- One call keeps track of the uploaded effect exactly when the driver refuses none of the
    erasures that the call issues. -/
theorem tracked_call_iff {self : InputFFDevice} {call : Call} (htracked : Tracked self)
    (hfresh : FreshIds self call) : Tracked (self.call call) ↔ ¬ EraseRefused self call := by
  obtain ⟨request, answers⟩ := call
  cases request with
  | on timeoutMs =>
    simpa [InputFFDevice.call, InputFFDevice.perform, InputFFDevice.on, EraseRefused] using
      tracked_play_iff htracked hfresh.valid INVALID_VALUE timeoutMs false
  | off =>
    simpa [InputFFDevice.call, InputFFDevice.perform, InputFFDevice.off, EraseRefused] using
      tracked_play_iff htracked hfresh.valid INVALID_VALUE 0#32 false
  | playEffect effectId es =>
    cases hstrength : es.magnitude with
    | none => simp [InputFFDevice.call, InputFFDevice.perform, InputFFDevice.playEffect,
        EraseRefused, hstrength, htracked]
    | some magnitude =>
      have hchanged : Tracked { self with mCurrMagnitude := magnitude } := htracked
      have hplay :=
        tracked_play_iff hchanged hfresh.valid effectId (BitVec.ofInt 32 INVALID_VALUE) true
      simpa [InputFFDevice.call, InputFFDevice.perform, InputFFDevice.playEffect, EraseRefused,
        hstrength, InputFFDevice.eraseRefused] using hplay
  | setAmplitude amplitude =>
    have hsame : Tracked (self.setAmplitude amplitude answers).self := by
      rw [InputFFDevice.setAmplitude]
      split_ifs <;> exact htracked
    simpa [InputFFDevice.call, InputFFDevice.perform, EraseRefused] using hsame

theorem Sound.errout {self : InputFFDevice} (hsound : Sound self) (ret : Int)
    (playLengthMs : Option Int) : Sound (self.errout ret playLengthMs).self :=
  ⟨hsound.playing, hsound.absent⟩

theorem Sound.erase {self : InputFFDevice} (hsound : Sound self) (id mCurrAppId : Int) :
    Sound { self with driver := self.driver.erase id, mCurrAppId := mCurrAppId } := by
  constructor
  · intro other hother
    simp only [Driver.erase, List.mem_filter] at hother
    rw [ids_erase, List.mem_filter]
    exact ⟨hsound.playing other hother.1, hother.2⟩
  · intro habsent
    rw [ids_erase, hsound.absent habsent, List.filter_nil]

theorem Sound.start {self : InputFFDevice} (hsound : Sound self)
    (hfd : self.mVibraFd ≠ INVALID_VALUE) (effectId : Int) (timeoutMs : BitVec 32)
    (wantsLength : Bool) (answers : Answers) :
    Sound (self.start effectId timeoutMs wantsLength answers).self := by
  rw [InputFFDevice.start]
  cases answers.upload with
  | none => exact hsound.errout _ _
  | some upload =>
    have huploaded : Sound { self with
        driver := self.driver.upload upload.id (self.effect effectId timeoutMs)
        mCurrAppId := upload.id } := by
      refine ⟨fun id hid => ?_, fun habsent => absurd habsent hfd⟩
      rw [ids_upload]
      exact List.mem_append_left _ (hsound.playing id hid)
    cases answers.write with
    | true =>
      refine ⟨fun id hid => ?_, fun habsent => absurd habsent hfd⟩
      obtain hold | hnew := List.mem_append.mp hid
      · exact huploaded.playing id hold
      · simp [List.mem_singleton.mp hnew, ids_upload]
    | false =>
      cases answers.cleanup with
      | true => exact (huploaded.erase _ _).errout _ _
      | false => exact huploaded.errout _ _

theorem Sound.play {self : InputFFDevice} (hsound : Sound self) (effectId : Int)
    (timeoutMs : BitVec 32) (wantsLength : Bool) (answers : Answers) :
    Sound (self.play effectId timeoutMs wantsLength answers).self := by
  rw [InputFFDevice.play]
  by_cases hfd : self.mVibraFd = INVALID_VALUE
  · simpa [hfd] using hsound
  by_cases hid : self.mCurrAppId = INVALID_VALUE
  · by_cases htimeout : timeoutMs = 0#32
    · simpa [hfd, hid, htimeout] using hsound
    · simpa [hfd, hid, htimeout] using hsound.start hfd _ _ _ _
  cases herase : answers.erase with
  | true =>
    have herased := hsound.erase self.mCurrAppId INVALID_VALUE
    by_cases htimeout : timeoutMs = 0#32
    · simpa [hfd, hid, htimeout] using herased
    · simpa [hfd, hid, htimeout] using herased.start hfd _ _ _ _
  | false =>
    have hgiven := hsound.errout (-1) none
    by_cases htimeout : timeoutMs = 0#32 <;> simpa [hfd, hid, htimeout] using hgiven

theorem Sound.call {self : InputFFDevice} (hsound : Sound self) (call : Call) :
    Sound (self.call call) := by
  obtain ⟨request, answers⟩ := call
  cases request with
  | on timeoutMs => exact hsound.play _ _ _ _
  | off => exact hsound.play _ _ _ _
  | playEffect effectId es =>
    simp only [InputFFDevice.call, InputFFDevice.perform, InputFFDevice.playEffect]
    cases es.magnitude with
    | none => exact hsound
    | some magnitude =>
      have hset : Sound { self with mCurrMagnitude := magnitude } := ⟨hsound.playing, hsound.absent⟩
      exact hset.play _ _ _ _
  | setAmplitude amplitude =>
    simp only [InputFFDevice.call, InputFFDevice.perform, InputFFDevice.setAmplitude]
    split_ifs
    · exact hsound
    · exact ⟨hsound.playing, hsound.absent⟩
    · exact hsound

/-- Nothing is uploaded, and nothing plays. -/
def InputFFDevice.Silent (self : InputFFDevice) : Prop :=
  self.driver.uploaded = [] ∧ self.driver.playing = []

theorem Sound.silent {self : InputFFDevice} (hsound : Sound self) (hids : self.driver.ids = []) :
    self.Silent := by
  refine ⟨List.map_eq_nil_iff.mp hids, List.eq_nil_iff_forall_not_mem.mpr fun id hid => ?_⟩
  have hmem := hsound.playing id hid
  rw [hids] at hmem
  cases hmem

/-- Switching off with success leaves nothing, while the uploaded effect is tracked. -/
theorem silent_of_off {self : InputFFDevice} (htracked : Tracked self) (hsound : Sound self)
    {answers : Answers} (hret : (self.off answers).ret = 0) : (self.off answers).self.Silent := by
  have hafter : Sound (self.off answers).self := hsound.play _ _ _ _
  refine hafter.silent ?_
  rw [InputFFDevice.off, InputFFDevice.play] at hret ⊢
  by_cases hfd : self.mVibraFd = INVALID_VALUE
  · simpa [hfd] using hsound.absent hfd
  by_cases hid : self.mCurrAppId = INVALID_VALUE
  · simpa [hfd, hid] using htracked.nothing_uploaded hid
  cases herase : answers.erase with
  | true => simpa [hfd, hid, herase] using htracked.erased hid
  | false => simp [hfd, hid, herase, InputFFDevice.errout] at hret

/-- Every call that switches off with success leaves nothing uploaded or playing. -/
def OffSilences (self : InputFFDevice) (calls : List Call) : Prop :=
  ∀ past answers, past ++ [⟨.off, answers⟩] <+: calls →
    ((past.foldl InputFFDevice.call self).off answers).ret = 0 →
    ((past.foldl InputFFDevice.call self).off answers).self.Silent

/-- Over any run of calls with any failures of the driver, the device tracks the uploaded
    effect in every state, and silences it whenever switching off succeeds, exactly when
    the driver refuses none of the erasures that the run issues. -/
theorem effect_tracked_iff (mVibraFd : Int) (calls : List Call)
    (hfresh : Taken InputFFDevice.call FreshIds (.init mVibraFd) calls) :
    ((∀ moment ∈ moments InputFFDevice.call (.init mVibraFd) calls, Tracked moment) ∧
      OffSilences (.init mVibraFd) calls) ↔
    Taken InputFFDevice.call (fun self call => ¬ EraseRefused self call) (.init mVibraFd)
      calls := by
  have hexact := always_iff_taken (I := Sound) (P := Tracked)
    (fun self call _ htracked hids => tracked_call_iff htracked hids)
    (fun self call hsound _ _ _ => hsound.call call) hfresh (sound_init mVibraFd)
    (tracked_init mVibraFd)
  rw [hexact, and_iff_left_iff_imp]
  intro hrun past answers hoff hret
  have hpast := (List.prefix_append past [Call.mk .off answers]).trans hoff
  have htracked : Tracked (past.foldl InputFFDevice.call (.init mVibraFd)) :=
    hexact.mpr hrun _ ((mem_moments_iff _ _ _ _).mpr ⟨past, hpast, rfl⟩)
  have hsound : Sound (past.foldl InputFFDevice.call (.init mVibraFd)) :=
    hrun.history_invariant (H := fun _ => Sound) (fun _ _ call hsound _ => hsound.call call)
      (sound_init mVibraFd) hpast
  exact silent_of_off htracked hsound hret

/-- The driver grants everything and gives the effect the id 0. -/
def grantingAnswers : Answers where
  erase := true
  upload := some ⟨0, 0, 0⟩
  write := true
  cleanup := true

theorem effect_tracked_on_off :
    (∀ moment ∈ moments InputFFDevice.call (.init 3)
        [⟨.on 100, grantingAnswers⟩, ⟨.off, grantingAnswers⟩], Tracked moment) ∧
      OffSilences (.init 3) [⟨.on 100, grantingAnswers⟩, ⟨.off, grantingAnswers⟩] :=
  (effect_tracked_iff 3 [⟨.on 100, grantingAnswers⟩, ⟨.off, grantingAnswers⟩] (by decide)).mpr
    (by decide)

/-- A vibration is started, the driver refuses to erase it, and it is switched off again. -/
def refusedCalls : List Call :=
  [⟨.on 10000, grantingAnswers⟩, ⟨.off, { grantingAnswers with erase := false }⟩,
    ⟨.off, { grantingAnswers with upload := none }⟩]

/-- After one refused erasure the vibration goes on, and switching off succeeds without
    stopping it. -/
theorem off_leaves_vibration :
    ¬ ∀ (mVibraFd : Int) (calls : List Call),
      Taken InputFFDevice.call FreshIds (.init mVibraFd) calls →
      (∀ moment ∈ moments InputFFDevice.call (.init mVibraFd) calls, Tracked moment) ∧
        OffSilences (.init mVibraFd) calls := by
  intro htracks
  have hsilences := (htracks 3 refusedCalls (by decide)).2
  have hsilent := hsilences (refusedCalls.take 2) { grantingAnswers with upload := none }
    (by decide) (by decide)
  exact absurd hsilent.2 (by decide)

end vibrator
