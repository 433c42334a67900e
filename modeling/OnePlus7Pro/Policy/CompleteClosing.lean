import OnePlus7Pro.Policy.ClosingLoops

open loops

namespace policy_hal

/-- What the body of a loop does at one output. -/
abbrev OutputVisit := audio_io_handle_t → SwAudioOutputDescriptor → Visit ClientCall

/-- Among the outputs left open there is none that the loop with this body closes. -/
def NoneLeft (visit : OutputVisit) (left : SwAudioOutputCollection) : Prop :=
  ∀ entry ∈ left.entries, (visit entry.1 entry.2).removed = false

/-- No two neighbouring outputs are outputs that the loop with this body closes. -/
def NoneAdjacent (visit : OutputVisit) (mOutputs : SwAudioOutputCollection) : Prop :=
  Scattered (fun entry => (visit entry.1 entry.2).removed) mOutputs.entries

instance (visit : OutputVisit) (mOutputs : SwAudioOutputCollection) :
    Decidable (NoneAdjacent visit mOutputs) :=
  inferInstanceAs (Decidable (Scattered _ _))

/-- The handle is that of an open output for VoIP. -/
def isVoipHandle (mOutputs : SwAudioOutputCollection) (output : audio_io_handle_t) : Bool :=
  (mOutputs.valueFor output).any isVoipOutput

theorem isVoipHandle_of_mem {mOutputs : SwAudioOutputCollection} {output : audio_io_handle_t}
    {desc : SwAudioOutputDescriptor} (hmem : (output, desc) ∈ mOutputs.entries) :
    isVoipHandle mOutputs output = isVoipOutput desc := by
  rw [isVoipHandle, KeyedVector.valueFor_eq_some_iff.mpr hmem, Option.any_some]

theorem isVoipHandle_removeItem {mOutputs : SwAudioOutputCollection}
    {output other : audio_io_handle_t} (hne : other ≠ output) :
    isVoipHandle (mOutputs.removeItem output) other = isVoipHandle mOutputs other := by
  rw [isVoipHandle, isVoipHandle, KeyedVector.valueFor_removeItem_of_ne hne]

/-- The loop walks over the handles, judging each by the outputs that were open before it. -/
theorem voip_loop_handles (outputs : KeyedVector audio_io_handle_t Unit)
    (mOutputs : SwAudioOutputCollection) (i : Nat) (voip : audio_io_handle_t → Bool)
    (hvoip : ∀ output ∈ outputs.keys, isVoipHandle mOutputs output = voip output) :
    (voip_loop outputs mOutputs i).1 =
      (outputs.walk (fun output _ => (⟨voip output, []⟩ : Visit ClientCall)) i).1 := by
  induction outputs, mOutputs, i using voip_loop.induct with
  | case1 outputs mOutputs i h output hmatch ih =>
    have hremoved : voip output = true := by
      rw [← hvoip output (List.mem_map_of_mem (List.getElem_mem h))]
      exact hmatch
    rw [voip_loop, dif_pos h, if_pos hmatch, KeyedVector.walk, dif_pos h]
    simp only [hremoved, output, if_true]
    refine ih fun other hother => ?_
    obtain ⟨hother, hne⟩ := KeyedVector.mem_keys_removeItem.mp hother
    rw [isVoipHandle_removeItem hne, hvoip other hother]
  | case2 outputs mOutputs i h output hmatch ih =>
    have hkept : voip output = false := by
      rw [← hvoip output (List.mem_map_of_mem (List.getElem_mem h))]
      exact Bool.not_eq_true _ ▸ hmatch
    rw [voip_loop, dif_pos h, if_neg hmatch, KeyedVector.walk, dif_pos h]
    simp only [hkept, output, Bool.false_eq_true, if_false]
    exact ih hvoip
  | case3 outputs mOutputs i h =>
    rw [voip_loop, dif_neg h, KeyedVector.walk, dif_neg h]

theorem voip_loop_keys (outputs : KeyedVector audio_io_handle_t Unit)
    (mOutputs : SwAudioOutputCollection) (i : Nat) {output : audio_io_handle_t}
    (hmem : output ∈ (voip_loop outputs mOutputs i).1.keys) : output ∈ outputs.keys := by
  induction outputs, mOutputs, i using voip_loop.induct with
  | case1 outputs mOutputs i h first hmatch ih =>
    rw [voip_loop, dif_pos h, if_pos hmatch] at hmem
    exact (KeyedVector.mem_keys_removeItem.mp (ih hmem)).1
  | case2 outputs mOutputs i h first hmatch ih =>
    rw [voip_loop, dif_pos h, if_neg hmatch] at hmem
    exact ih hmem
  | case3 outputs mOutputs i h =>
    rw [voip_loop, dif_neg h] at hmem
    exact hmem

/-- The loop closes exactly the outputs whose handles it takes out. -/
theorem voip_loop_outputs (outputs : KeyedVector audio_io_handle_t Unit)
    (mOutputs : SwAudioOutputCollection) (i : Nat)
    (entry : audio_io_handle_t × SwAudioOutputDescriptor) :
    entry ∈ (voip_loop outputs mOutputs i).2.1.entries ↔ entry ∈ mOutputs.entries ∧
      (entry.1 ∈ outputs.keys → entry.1 ∈ (voip_loop outputs mOutputs i).1.keys) := by
  induction outputs, mOutputs, i using voip_loop.induct with
  | case1 outputs mOutputs i h output hmatch ih =>
    have hmem : output ∈ outputs.keys := List.mem_map_of_mem (List.getElem_mem h)
    have hgone : output ∉ (voip_loop (outputs.removeItem output) (mOutputs.removeItem output)
        (i + 1)).1.keys := fun hstill =>
      (KeyedVector.mem_keys_removeItem.mp (voip_loop_keys _ _ _ hstill)).2 rfl
    rw [KeyedVector.mem_removeItem, KeyedVector.mem_keys_removeItem] at ih
    rw [voip_loop, dif_pos h, if_pos hmatch]
    refine ih.trans ?_
    by_cases hentry : entry.1 = output
    · simp [hentry, hmem, hgone, output]
    · simp [hentry, output]
  | case2 outputs mOutputs i h output hmatch ih =>
    rw [voip_loop, dif_pos h, if_neg hmatch]
    exact ih
  | case3 outputs mOutputs i h =>
    rw [voip_loop, dif_neg h]
    simp

/-- After the loop of `setDeviceConnectionStateInt` no output for VoIP is open among those
    it was to look at. -/
def ClosesVoip (outputs : KeyedVector audio_io_handle_t Unit)
    (mOutputs : SwAudioOutputCollection) : Prop :=
  ∀ entry ∈ (voip_loop outputs mOutputs 0).2.1.entries, entry.1 ∈ outputs.keys →
    isVoipOutput entry.2 = false

/-- No two neighbours among the handles are those of outputs for VoIP. -/
def NoneAdjacentVoip (outputs : KeyedVector audio_io_handle_t Unit)
    (mOutputs : SwAudioOutputCollection) : Prop :=
  Scattered (fun entry => isVoipHandle mOutputs entry.1) outputs.entries

theorem closesVoip_iff (outputs : KeyedVector audio_io_handle_t Unit)
    (mOutputs : SwAudioOutputCollection) :
    ClosesVoip outputs mOutputs ↔ NoneAdjacentVoip outputs mOutputs := by
  have hhandles := voip_loop_handles outputs mOutputs 0 (isVoipHandle mOutputs)
    fun output _ => rfl
  have hclean := outputs.walk_clean_iff
    (fun output _ => (⟨isVoipHandle mOutputs output, []⟩ : Visit ClientCall))
  rw [← hhandles] at hclean
  rw [NoneAdjacentVoip, ← hclean]
  constructor
  · intro hcloses left hleft
    rw [isVoipHandle, Option.any_eq_false_iff_get]
    intro hopen
    have hentry : (left.1, (mOutputs.valueFor left.1).get hopen) ∈ mOutputs.entries :=
      KeyedVector.valueFor_eq_some_iff.mp (Option.some_get hopen).symm
    have hkept : left.1 ∈ (voip_loop outputs mOutputs 0).1.keys := List.mem_map_of_mem hleft
    exact hcloses _ ((voip_loop_outputs outputs mOutputs 0 _).mpr ⟨hentry, fun _ => hkept⟩)
      (voip_loop_keys _ _ _ hkept)
  · intro hleft entry hentry hmem
    obtain ⟨hopen, hkept⟩ := (voip_loop_outputs outputs mOutputs 0 entry).mp hentry
    obtain ⟨left, hmemleft, heq⟩ := List.mem_map.mp (hkept hmem)
    rw [← isVoipHandle_of_mem hopen, ← heq]
    exact hleft left hmemleft

/-- Each of the five closing loops leaves no output open that it closes exactly when no two
    such outputs are neighbours in the vector that it walks over. -/
theorem complete_closing_iff (configs : APMConfigHelper) (mFallBackflag : audio_output_flags_t)
    (mOutputs : SwAudioOutputCollection) (outputs : KeyedVector audio_io_handle_t Unit) :
    (NoneLeft (voice_call_visit configs mFallBackflag)
        (voice_call_loop configs mFallBackflag mOutputs).1 ↔
      NoneAdjacent (voice_call_visit configs mFallBackflag) mOutputs) ∧
    (NoneLeft (dsd_visit configs) (dsd_loop configs mOutputs).1 ↔
      NoneAdjacent (dsd_visit configs) mOutputs) ∧
    (NoneLeft compress_visit (record_play_loop mOutputs).1 ↔
      NoneAdjacent compress_visit mOutputs) ∧
    (NoneLeft compress_visit (start_input_loop mOutputs).1 ↔
      NoneAdjacent compress_visit mOutputs) ∧
    (ClosesVoip outputs mOutputs ↔ NoneAdjacentVoip outputs mOutputs) :=
  ⟨mOutputs.walk_clean_iff _, mOutputs.walk_clean_iff _, mOutputs.walk_clean_iff _,
    mOutputs.walk_clean_iff _, closesVoip_iff outputs mOutputs⟩

/-- An output for compressed offload. -/
def offloadOutput : SwAudioOutputDescriptor where
  mProfile := some ⟨"compress_offload", AUDIO_OUTPUT_FLAG_DIRECT |||
    AUDIO_OUTPUT_FLAG_COMPRESS_OFFLOAD⟩
  mFlags := AUDIO_OUTPUT_FLAG_DIRECT ||| AUDIO_OUTPUT_FLAG_COMPRESS_OFFLOAD
  samplingRate := 48000
  format := 0x01000000
  channelMask := 3
  isDuplicated := false
  mDirectOpenCount := 1
  mDirectClientSession := 9
  mPolicyMix := none
  devices := []
  mActiveClients := []
  alarmMuteCount := 0

def twoOffloads : SwAudioOutputCollection where
  entries := [(13, offloadOutput), (21, offloadOutput)]
  sorted := by simp

/-- Of two neighbouring compress outputs the loop of `startInput` closes only the first. -/
theorem closing_loop_passes_over :
    ¬ ∀ (configs : APMConfigHelper) (mFallBackflag : audio_output_flags_t)
        (mOutputs : SwAudioOutputCollection) (outputs : KeyedVector audio_io_handle_t Unit),
      NoneLeft (voice_call_visit configs mFallBackflag)
        (voice_call_loop configs mFallBackflag mOutputs).1 ∧
      NoneLeft (dsd_visit configs) (dsd_loop configs mOutputs).1 ∧
      NoneLeft compress_visit (record_play_loop mOutputs).1 ∧
      NoneLeft compress_visit (start_input_loop mOutputs).1 ∧
      ClosesVoip outputs mOutputs := by
  intro hcloses
  have hleft := (hcloses .default AUDIO_OUTPUT_FLAG_NONE twoOffloads .empty).2.2.2.1
  have hadjacent : ¬ NoneAdjacent compress_visit twoOffloads := by decide
  exact hadjacent ((twoOffloads.walk_clean_iff compress_visit).mp hleft)

end policy_hal
