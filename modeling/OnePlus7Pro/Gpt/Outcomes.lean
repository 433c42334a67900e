import OnePlus7Pro.Gpt.Progress

open regions effects

namespace gpt_utils

/-- The number of fallible calls, other than transfers, that a step makes. -/
def Step.calls : Step → Nat
  | .call => 1
  | .boot_lun _ => 1
  | .read _ => 0
  | .write .. => 0

/-- The number of transfers that a step makes. -/
def Step.transfers : Step → Nat
  | .call => 0
  | .boot_lun _ => 0
  | .read _ => 1
  | .write .. => 1

def callCount (script : List Step) : Nat := (script.map Step.calls).sum

def transferCount (script : List Step) : Nat := (script.map Step.transfers).sum

/-- The next calls and transfers succeed, as many as given. -/
def Env.Grants (env : Env) (w : World) (calls transfers : Nat) : Prop :=
  (∀ n < calls, env.call (w.calls + n) = true) ∧
  ∀ n < transfers, env.transfer (w.transfers + n) = .full

variable {env : Env} {w w' : World} {script script' : List Step}

@[simp] theorem callCount_append (script script' : List Step) :
    callCount (script ++ script') = callCount script + callCount script' := by
  simp [callCount]

@[simp] theorem transferCount_append (script script' : List Step) :
    transferCount (script ++ script') = transferCount script + transferCount script' := by
  simp [transferCount]

theorem done_calls (w : World) (step : Step) : (step.done w).calls = w.calls + step.calls := by
  cases step <;> rfl

theorem done_transfers (w : World) (step : Step) :
    (step.done w).transfers = w.transfers + step.transfers := by
  cases step <;> rfl

theorem granted_iff (env : Env) (w : World) (step : Step) :
    env.steps.granted w step = true ↔ env.Grants w step.calls step.transfers := by
  cases step <;> simp [Env.steps, Env.granted, Env.Grants, Step.calls, Step.transfers]

/-- The calls and transfers of a sequence are those of its parts. -/
theorem grants_add (env : Env) {w w' : World} {calls transfers : Nat} (calls' transfers' : Nat)
    (hcalls : w'.calls = w.calls + calls) (htransfers : w'.transfers = w.transfers + transfers) :
    env.Grants w (calls + calls') (transfers + transfers') ↔
      env.Grants w calls transfers ∧ env.Grants w' calls' transfers' := by
  unfold Env.Grants
  rw [hcalls, htransfers]
  constructor
  · rintro ⟨hcall, htransfer⟩
    refine ⟨⟨fun n hn => hcall n (by omega), fun n hn => htransfer n (by omega)⟩,
      fun n hn => ?_, fun n hn => ?_⟩
    · rw [Nat.add_assoc]
      exact hcall _ (by omega)
    · rw [Nat.add_assoc]
      exact htransfer _ (by omega)
  · rintro ⟨⟨hcall, htransfer⟩, hcall', htransfer'⟩
    constructor
    · intro n hn
      by_cases h : n < calls
      · exact hcall n h
      · have h' := hcall' (n - calls) (by omega)
        rwa [Nat.add_assoc, Nat.add_sub_cancel' (Nat.le_of_not_lt h)] at h'
    · intro n hn
      by_cases h : n < transfers
      · exact htransfer n h
      · have h' := htransfer' (n - transfers) (by omega)
        rwa [Nat.add_assoc, Nat.add_sub_cancel' (Nat.le_of_not_lt h)] at h'

/-- A script is carried out when as many calls and transfers succeed as it makes. -/
theorem exec_iff (env : Env) (script : List Step) (w : World) :
    (env.steps.exec script w).2 = true ↔
    env.Grants w (callCount script) (transferCount script) := by
  induction script generalizing w with
  | nil => simp [Steps.exec, callCount, transferCount, Env.Grants]
  | cons step script ih =>
    have hsplit := grants_add env (callCount script) (transferCount script) (done_calls w step)
      (done_transfers w step)
    have hcounts : callCount (step :: script) = step.calls + callCount script ∧
        transferCount (step :: script) = step.transfers + transferCount script := by
      simp [callCount, transferCount]
    rw [hcounts.1, hcounts.2, hsplit, ← granted_iff, Steps.exec]
    split
    · next hgranted =>
      rw [hgranted, eq_self, true_and]
      exact ih _
    · next hrefused => simp [hrefused]

theorem exec_calls (hexec : env.steps.exec script w = (w', true)) :
    w'.calls = w.calls + callCount script ∧ w'.transfers = w.transfers + transferCount script := by
  induction script generalizing w with
  | nil =>
    cases hexec
    exact ⟨rfl, rfl⟩
  | cons step script ih =>
    rw [Steps.exec] at hexec
    split at hexec
    · obtain ⟨hcalls, htransfers⟩ := ih hexec
      change _ = (step.done w).calls + _ at hcalls
      change _ = (step.done w).transfers + _ at htransfers
      rw [hcalls, htransfers, done_calls, done_transfers]
      simp [callCount, transferCount, Nat.add_assoc]
    · cases hexec

/-- The effect of a sequence is that of its first part, followed by that of the second
    one when the first part is carried out. -/
theorem effect_append (env : Env) (script script' : List Step) (w : World) :
    env.effect (script ++ script') w =
      if (env.steps.exec script w).2 then
        script.flatMap Step.events ++ env.effect script' (env.steps.exec script w).1
      else env.effect script w := by
  rw [Env.effect, Steps.carried_append]
  split
  · rw [List.flatMap_append]
    rfl
  · rfl

/-- When a script is not carried out, its last step has no effect. -/
theorem effect_of_refused {step : Step} (h : (env.steps.exec (script ++ [step]) w).2 = false) :
    env.effect (script ++ [step]) w <+: script.flatMap Step.events := by
  obtain ⟨rest, hrest⟩ := Steps.carried_of_refused h
  exact ⟨rest.flatMap Step.events, by rw [Env.effect, ← List.flatMap_append, hrest]⟩

/-- The effect of a script, by whether one of its steps is reached and granted. -/
theorem effect_cases (env : Env) (init rest : List Step) (step : Step) (w : World) :
    ((env.steps.exec (init ++ [step]) w).2 = true ∧ ∃ done, done <+: rest.flatMap Step.events ∧
      env.effect ((init ++ [step]) ++ rest) w = (init ++ [step]).flatMap Step.events ++ done) ∨
    ((env.steps.exec (init ++ [step]) w).2 = false ∧
      env.effect ((init ++ [step]) ++ rest) w <+: init.flatMap Step.events) := by
  rw [effect_append]
  cases hexec : (env.steps.exec (init ++ [step]) w).2 with
  | true => exact .inl ⟨rfl, _, effect_isPrefix env rest _, if_pos rfl⟩
  | false =>
    refine .inr ⟨rfl, ?_⟩
    rw [if_neg (by simp)]
    exact effect_of_refused hexec

end gpt_utils
