import OnePlus7Pro.Policy.CompleteClosing
import OnePlus7Pro.Policy.Sources
import OnePlus7Pro.Runs.Taken
import Mathlib.Data.Finset.Card

open effects loops runs

namespace policy_hal

variable {configs : APMConfigHelper} {self : AudioPolicyManagerCustom}
  {output : audio_io_handle_t} {outputDesc : SwAudioOutputDescriptor}
  {client : TrackClientDescriptor}

/-- What may be asked of the manager about sources. -/
inductive SourceEvent where
  | startSource (output : audio_io_handle_t) (client : TrackClientDescriptor)
      (answers : SourceAnswers)
  | stopSource (output : audio_io_handle_t) (client : TrackClientDescriptor)
      (answers : SourceAnswers)
  | setForceUse (usage : audio_policy_force_use_t) (config : audio_policy_forced_cfg_t)
      (accepted : Bool)

def AudioPolicyManagerCustom.onSource (configs : APMConfigHelper)
    (self : AudioPolicyManagerCustom) : SourceEvent → AudioPolicyManagerCustom
  | .startSource output client answers => (self.startSource configs output client answers).2
  | .stopSource output client answers => (self.stopSource configs output client answers).2
  | .setForceUse usage config accepted => self.setForceUse usage config accepted

/-- The alarm strategy is not muted on an output without an active client whose sound is
    enforced. -/
def AlarmBalanced (output : audio_io_handle_t) (self : AudioPolicyManagerCustom) : Prop :=
  ∀ outputDesc, self.mOutputs.valueFor output = some outputDesc →
    (∀ client ∈ outputDesc.mActiveClients, client.stream ≠ AUDIO_STREAM_ENFORCED_AUDIBLE) →
    outputDesc.alarmMuteCount = 0

/-- The client whose start on the output comes while the system is enforced. -/
def mutedClient (output : audio_io_handle_t) (self : AudioPolicyManagerCustom) :
    SourceEvent → Option TrackClientDescriptor
  | .startSource other client _ =>
    if other = output ∧ (self.mOutputs.valueFor output).isSome ∧ self.mutesAlarm client then
      some client
    else none
  | _ => none

/-- The client whose sound is enforced and that is stopped on the output. -/
def stoppedClient (output : audio_io_handle_t) (self : AudioPolicyManagerCustom) :
    SourceEvent → Option TrackClientDescriptor
  | .stopSource other client _ =>
    if other = output ∧ client.stream = AUDIO_STREAM_ENFORCED_AUDIBLE ∧
        (self.mOutputs.valueFor output).any (fun outputDesc =>
          outputDesc.getActivityCount client.volumeSource ≠ 0) then
      some client
    else none
  | _ => none

/-- The manager, and the clients that were started on the output while the system was enforced
    and have not been stopped since. -/
structure AlarmWatched where
  manager : AudioPolicyManagerCustom
  owing : Finset TrackClientDescriptor

def AlarmWatched.receive (configs : APMConfigHelper) (output : audio_io_handle_t)
    (watched : AlarmWatched) (event : SourceEvent) : AlarmWatched where
  manager := watched.manager.onSource configs event
  owing :=
    match mutedClient output watched.manager event with
    | some client => insert client watched.owing
    | none =>
      match stoppedClient output watched.manager event with
      | some client => watched.owing.erase client
      | none => watched.owing

/-- A client that was started while the system was enforced is not started so again before it
    is stopped, and is stopped while the system is enforced. -/
structure AlarmMatched (output : audio_io_handle_t) (watched : AlarmWatched)
    (event : SourceEvent) : Prop where
  started_once : ∀ client, mutedClient output watched.manager event = some client →
    client ∉ watched.owing
  stopped_enforced : ∀ client, stoppedClient output watched.manager event = some client →
    client ∈ watched.owing →
    watched.manager.mEngine.forceUseForSystem = .AUDIO_POLICY_FORCE_SYSTEM_ENFORCED

/-- The alarm strategy is muted at most once for each client that owes its unmuting. -/
structure Owed (output : audio_io_handle_t) (watched : AlarmWatched) : Prop where
  counted : ∀ outputDesc, watched.manager.mOutputs.valueFor output = some outputDesc →
    outputDesc.alarmMuteCount ≤ watched.owing.card
  active : ∀ outputDesc, watched.manager.mOutputs.valueFor output = some outputDesc →
    ∀ client ∈ watched.owing,
      client ∈ outputDesc.mActiveClients ∧ client.stream = AUDIO_STREAM_ENFORCED_AUDIBLE

theorem alarmBalanced_of_owed {watched : AlarmWatched} (howed : Owed output watched) :
    AlarmBalanced output watched.manager := by
  intro outputDesc hopen hnone
  have hempty : watched.owing = ∅ := by
    rw [Finset.eq_empty_iff_forall_notMem]
    intro client howing
    obtain ⟨hactive, hstream⟩ := howed.active outputDesc hopen client howing
    exact hnone client hactive hstream
  have hcount := howed.counted outputDesc hopen
  rw [hempty, Finset.card_empty] at hcount
  omega

theorem owed_of_same {watched next : AlarmWatched} (howed : Owed output watched)
    (houtput : next.manager.mOutputs.valueFor output = watched.manager.mOutputs.valueFor output)
    (howing : next.owing = watched.owing) : Owed output next := by
  constructor
  · intro outputDesc hopen
    rw [howing]
    exact howed.counted outputDesc (houtput ▸ hopen)
  · intro outputDesc hopen
    rw [howing]
    exact howed.active outputDesc (houtput ▸ hopen)

theorem owed_of_output {next : AlarmWatched}
    (hopen : next.manager.mOutputs.valueFor output = some outputDesc)
    (hcount : outputDesc.alarmMuteCount ≤ next.owing.card)
    (hactive : ∀ client ∈ next.owing, client ∈ outputDesc.mActiveClients ∧
      client.stream = AUDIO_STREAM_ENFORCED_AUDIBLE) : Owed output next := by
  constructor <;> intro other hother <;> obtain rfl := Option.some.inj (hopen.symm.trans hother)
  · exact hcount
  · exact hactive

theorem stream_of_mutesAlarm (hmutes : self.mutesAlarm client = true) :
    client.stream = AUDIO_STREAM_ENFORCED_AUDIBLE ∧
      self.mEngine.forceUseForSystem = .AUDIO_POLICY_FORCE_SYSTEM_ENFORCED := by
  simpa [AudioPolicyManagerCustom.mutesAlarm] using hmutes

/-- The output after a start or a stop on some output has changed that output. -/
theorem valueFor_changed (output : audio_io_handle_t) {next : AudioPolicyManagerCustom}
    {other : audio_io_handle_t} {changed : SwAudioOutputDescriptor} {mEngine : Engine}
    (hfields : next.outputFields = (self.mOutputs.modify other fun _ => changed, mEngine))
    (hopen : self.mOutputs.valueFor other = some outputDesc) :
    next.mOutputs.valueFor output =
      if output = other then some changed else self.mOutputs.valueFor output := by
  rw [AudioPolicyManagerCustom.outputFields, Prod.mk.injEq] at hfields
  rw [hfields.1, KeyedVector.valueFor_modify, hopen]
  rfl

/-- An event that mutes for no client and stops none leaves what is owed. -/
theorem owing_kept {watched : AlarmWatched} {event : SourceEvent}
    (hunmuted : mutedClient output watched.manager event = none)
    (hunstopped : stoppedClient output watched.manager event = none) :
    (watched.receive configs output event).owing = watched.owing := by
  simp only [AlarmWatched.receive, hunmuted, hunstopped]

/-- A start on the output mutes once for the client that then owes the unmuting. -/
theorem owed_startedOutput {watched : AlarmWatched} {answers : SourceAnswers}
    (howed : Owed output watched)
    (hopen : watched.manager.mOutputs.valueFor output = some outputDesc)
    (hmatched : AlarmMatched output watched (.startSource output client answers))
    (hstarted : (watched.receive configs output
      (.startSource output client answers)).manager.mOutputs.valueFor output =
        some (watched.manager.startedOutput outputDesc client answers)) :
    Owed output (watched.receive configs output (.startSource output client answers)) := by
  have hbefore (owes : TrackClientDescriptor) (howes : owes ∈ watched.owing) :
      owes ∈ (watched.manager.startedOutput outputDesc client answers).mActiveClients ∧
        owes.stream = AUDIO_STREAM_ENFORCED_AUDIBLE := by
    obtain ⟨hactive, hstream⟩ := howed.active outputDesc hopen owes howes
    rw [startedOutput_mActiveClients, mem_activated]
    exact ⟨Or.inl hactive, hstream⟩
  have hcount := howed.counted outputDesc hopen
  by_cases hmutes : watched.manager.mutesAlarm client = true
  · have hmuted : mutedClient output watched.manager (.startSource output client answers) =
        some client := if_pos ⟨rfl, by simp [hopen], hmutes⟩
    have howing : (watched.receive configs output (.startSource output client answers)).owing =
        insert client watched.owing := by
      simp only [AlarmWatched.receive, hmuted]
    refine owed_of_output hstarted ?_ ?_
    · rw [howing, Finset.card_insert_of_notMem (hmatched.started_once client hmuted),
        startedOutput_alarmMuteCount, if_pos hmutes]
      omega
    · rw [howing, Finset.forall_mem_insert]
      refine ⟨⟨?_, (stream_of_mutesAlarm hmutes).1⟩, hbefore⟩
      rw [startedOutput_mActiveClients, mem_activated]
      exact Or.inr rfl
  · have hunmuted : mutedClient output watched.manager (.startSource output client answers) =
        none := if_neg fun h => hmutes h.2.2
    refine owed_of_output hstarted ?_ ?_
    · rw [owing_kept hunmuted rfl, startedOutput_alarmMuteCount, if_neg hmutes]
      exact hcount
    · rw [owing_kept hunmuted rfl]
      exact hbefore

theorem owed_startSource {watched : AlarmWatched} {other : audio_io_handle_t}
    {answers : SourceAnswers} (howed : Owed output watched)
    (hmatched : AlarmMatched output watched (.startSource other client answers)) :
    Owed output (watched.receive configs output (.startSource other client answers)) := by
  obtain ⟨hsame, hclosed⟩ | ⟨outputDesc, hopen, hfields, _⟩ :=
    startSource_cases configs watched.manager other client answers
  -- nothing has been started: then no client has been muted for
  · have hunmuted :
        mutedClient output watched.manager (.startSource other client answers) = none := by
      refine if_neg ?_
      rintro ⟨rfl, hopen, hmutes⟩
      rw [hclosed (stream_of_mutesAlarm hmutes).1] at hopen
      simp at hopen
    refine owed_of_same howed ?_ (owing_kept hunmuted rfl)
    exact congrArg (fun manager => manager.mOutputs.valueFor output) hsame
  · have hchanged := valueFor_changed output hfields hopen
    by_cases hother : output = other
    · subst hother
      rw [if_pos rfl] at hchanged
      exact owed_startedOutput howed hopen hmatched hchanged
    · have hunmuted : mutedClient output watched.manager (.startSource other client answers) =
          none := if_neg fun h => hother h.1.symm
      rw [if_neg hother] at hchanged
      exact owed_of_same howed hchanged (owing_kept hunmuted rfl)

/-- A stop on the output unmutes for the client if that owes it. -/
theorem owed_stoppedOutput {watched : AlarmWatched} {answers : SourceAnswers}
    (howed : Owed output watched)
    (hopen : watched.manager.mOutputs.valueFor output = some outputDesc)
    (hactive : outputDesc.getActivityCount client.volumeSource ≠ 0)
    (hmatched : AlarmMatched output watched (.stopSource output client answers))
    (hleft : (watched.receive configs output
      (.stopSource output client answers)).manager.mOutputs.valueFor output =
        some (watched.manager.stoppedOutput outputDesc client answers)) :
    Owed output (watched.receive configs output (.stopSource output client answers)) := by
  have hcount := howed.counted outputDesc hopen
  have hkept (owes : TrackClientDescriptor) (howes : owes ∈ watched.owing)
      (hne : owes ≠ client) :
      owes ∈ (watched.manager.stoppedOutput outputDesc client answers).mActiveClients ∧
        owes.stream = AUDIO_STREAM_ENFORCED_AUDIBLE := by
    obtain ⟨hactive, hstream⟩ := howed.active outputDesc hopen owes howes
    rw [stoppedOutput_mActiveClients, List.mem_erase_of_ne hne]
    exact ⟨hactive, hstream⟩
  by_cases hstream : client.stream = AUDIO_STREAM_ENFORCED_AUDIBLE
  · have hstopped : stoppedClient output watched.manager (.stopSource output client answers) =
        some client := if_pos ⟨rfl, hstream, by simpa [hopen] using hactive⟩
    have howing : (watched.receive configs output (.stopSource output client answers)).owing =
        watched.owing.erase client := by
      simp only [AlarmWatched.receive, mutedClient, hstopped]
    refine owed_of_output hleft ?_ ?_
    · rw [howing, stoppedOutput_alarmMuteCount]
      by_cases howes : client ∈ watched.owing
      · have hmutes : watched.manager.mutesAlarm client = true := by
          simp [AudioPolicyManagerCustom.mutesAlarm, hstream,
            hmatched.stopped_enforced client hstopped howes]
        rw [Finset.card_erase_of_mem howes, if_pos hmutes]
        omega
      · rw [Finset.erase_eq_of_notMem howes]
        omega
    · rw [howing]
      intro owes howes
      obtain ⟨hne, howes⟩ := Finset.mem_erase.mp howes
      exact hkept owes howes hne
  · have hunstopped : stoppedClient output watched.manager (.stopSource output client answers) =
        none := if_neg fun h => hstream h.2.1
    refine owed_of_output hleft ?_ ?_
    · rw [owing_kept rfl hunstopped, stoppedOutput_alarmMuteCount]
      omega
    · rw [owing_kept rfl hunstopped]
      intro owes howes
      refine hkept owes howes fun heq => hstream ?_
      rw [← heq]
      exact (howed.active outputDesc hopen owes howes).2

theorem owed_stopSource {watched : AlarmWatched} {other : audio_io_handle_t}
    {answers : SourceAnswers} (howed : Owed output watched)
    (hmatched : AlarmMatched output watched (.stopSource other client answers)) :
    Owed output (watched.receive configs output (.stopSource other client answers)) := by
  obtain ⟨hsame, hidle⟩ | ⟨outputDesc, hopen, hvalid, hactive, hfields, _⟩ :=
    stopSource_cases configs watched.manager other client answers
  · have hunstopped : stoppedClient output watched.manager (.stopSource other client answers) =
        none := by
      refine if_neg ?_
      rintro ⟨rfl, hstream, hcounted⟩
      have hvalid : isValidStream client.stream = true := by
        rw [hstream]
        decide
      cases hopen : watched.manager.mOutputs.valueFor other with
      | none => simp [hopen] at hcounted
      | some outputDesc => simp [hopen, hidle hvalid outputDesc hopen] at hcounted
    refine owed_of_same howed ?_ (owing_kept rfl hunstopped)
    exact congrArg (fun manager => manager.mOutputs.valueFor output) hsame
  · have hchanged := valueFor_changed output hfields hopen
    by_cases hother : output = other
    · subst hother
      rw [if_pos rfl] at hchanged
      exact owed_stoppedOutput howed hopen hactive hmatched hchanged
    · have hunstopped : stoppedClient output watched.manager (.stopSource other client answers) =
          none := if_neg fun h => hother h.1.symm
      rw [if_neg hother] at hchanged
      exact owed_of_same howed hchanged (owing_kept rfl hunstopped)

theorem owed_setForceUse {watched : AlarmWatched} {usage : audio_policy_force_use_t}
    {config : audio_policy_forced_cfg_t} {accepted : Bool} (howed : Owed output watched) :
    Owed output (watched.receive configs output (.setForceUse usage config accepted)) := by
  refine owed_of_same howed ?_ rfl
  exact congrArg (fun mOutputs => mOutputs.valueFor output) setForceUse_mOutputs

/-- Over any run of starts, stops and changes of the force use in which every client that was
    started while the system was enforced is stopped so before it is started so again, the
    alarm strategy is balanced on the output at every moment. -/
theorem alarm_balanced (configs : APMConfigHelper) (output : audio_io_handle_t)
    (start : AudioPolicyManagerCustom) (events : List SourceEvent)
    (hunmuted : ∀ outputDesc, start.mOutputs.valueFor output = some outputDesc →
      outputDesc.alarmMuteCount = 0)
    (hmatched : Taken (AlarmWatched.receive configs output) (AlarmMatched output) ⟨start, ∅⟩
      events) :
    ∀ moment ∈ moments (AudioPolicyManagerCustom.onSource configs) start events,
      AlarmBalanced output moment := by
  have hstart : Owed output ⟨start, ∅⟩ :=
    ⟨fun outputDesc hopen => (hunmuted outputDesc hopen).le,
      fun _ _ client howing => absurd howing (Finset.notMem_empty client)⟩
  have howed := hmatched.invariant (I := Owed output) (fun watched event howed hmatched => by
    cases event with
    | startSource other client answers => exact owed_startSource howed hmatched
    | stopSource other client answers => exact owed_stopSource howed hmatched
    | setForceUse usage config accepted => exact owed_setForceUse howed) hstart
  have hmoments := moments_map (AudioPolicyManagerCustom.onSource configs)
    (AlarmWatched.receive configs output) AlarmWatched.manager (fun _ _ => rfl) ⟨start, ∅⟩ events
  rw [← hmoments, List.forall_mem_map]
  exact fun watched hwatched => alarmBalanced_of_owed (howed watched hwatched)

/-- A manager with one output open. -/
def oneOutput (outputDesc : SwAudioOutputDescriptor) : AudioPolicyManagerCustom :=
  { AudioPolicyManagerCustom.init .default 0 with
    mOutputs := ⟨[(13, outputDesc)], List.pairwise_singleton _ _⟩ }

/-- A client for the sound of the camera's shutter. -/
def shutter : TrackClientDescriptor := ⟨5, AUDIO_STREAM_ENFORCED_AUDIBLE, 7⟩

def enforce (config : audio_policy_forced_cfg_t) : SourceEvent :=
  .setForceUse .AUDIO_POLICY_FORCE_FOR_SYSTEM config true

/-- The calls for a shutter that sounds while the system is enforced. -/
def shutterSounds : List SourceEvent :=
  [enforce .AUDIO_POLICY_FORCE_SYSTEM_ENFORCED, .startSource 13 shutter (.quiet []),
    .stopSource 13 shutter (.quiet [])]

theorem alarm_balanced_shutter :
    Taken (AlarmWatched.receive .default 13) (AlarmMatched 13) ⟨oneOutput offloadOutput, ∅⟩
        shutterSounds ∧
      ∀ moment ∈ moments (AudioPolicyManagerCustom.onSource .default) (oneOutput offloadOutput)
        shutterSounds, AlarmBalanced 13 moment := by
  have hunmuted (outputDesc : SwAudioOutputDescriptor)
      (hopen : (oneOutput offloadOutput).mOutputs.valueFor 13 = some outputDesc) :
      outputDesc.alarmMuteCount = 0 := by
    rw [← Option.some.inj hopen]
    rfl
  have hmatched : Taken (AlarmWatched.receive .default 13) (AlarmMatched 13)
      ⟨oneOutput offloadOutput, ∅⟩ shutterSounds := by
    refine ⟨⟨fun _ h => by simp [mutedClient, enforce] at h, fun _ h => by
      simp [stoppedClient, enforce] at h⟩, ⟨fun _ _ => Finset.notMem_empty _, fun _ h => by
      simp [stoppedClient] at h⟩, ⟨fun _ h => by simp [mutedClient] at h, fun _ _ _ => ?_⟩, trivial⟩
    decide
  exact ⟨hmatched, alarm_balanced .default 13 (oneOutput offloadOutput) _ hunmuted hmatched⟩

/-- The system is no longer enforced when the shutter has sounded. -/
def enforcementEnds : List SourceEvent :=
  [enforce .AUDIO_POLICY_FORCE_SYSTEM_ENFORCED, .startSource 13 shutter (.quiet []),
    enforce .AUDIO_POLICY_FORCE_NONE, .stopSource 13 shutter (.quiet [])]

/-- The alarm strategy then stays muted. -/
theorem alarm_stays_muted :
    ¬ ∀ (configs : APMConfigHelper) (output : audio_io_handle_t) (start : AudioPolicyManagerCustom)
        (events : List SourceEvent),
      (∀ outputDesc, start.mOutputs.valueFor output = some outputDesc →
        outputDesc.alarmMuteCount = 0) →
      ∀ moment ∈ moments (AudioPolicyManagerCustom.onSource configs) start events,
        AlarmBalanced output moment := by
  intro hbalanced
  let last := enforcementEnds.foldl (AudioPolicyManagerCustom.onSource .default)
    (oneOutput offloadOutput)
  have hlast := hbalanced .default 13 (oneOutput offloadOutput) enforcementEnds
    (fun outputDesc hopen => by rw [← Option.some.inj hopen]; rfl) last
    (by simp [moments, enforcementEnds, last])
  have hidle :
      (last.mOutputs.valueFor 13).map SwAudioOutputDescriptor.mActiveClients = some [] := by
    decide
  have hmuted :
      (last.mOutputs.valueFor 13).map SwAudioOutputDescriptor.alarmMuteCount = some 1 := by
    decide
  obtain ⟨outputDesc, hopen, hclients⟩ := Option.map_eq_some_iff.mp hidle
  have hzero := hlast outputDesc hopen (by simp [hclients])
  rw [hopen, Option.map_some, hzero] at hmuted
  exact absurd hmuted (by decide)

end policy_hal
