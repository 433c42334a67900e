import OnePlus7Pro.Effects.Moments
import Mathlib.Data.List.Induction
import Mathlib.Data.List.Infix

open effects

namespace runs

/-- Every call of a run is made in a state in which `guard` holds of it. -/
def Taken {S A : Type} (step : S → A → S) (guard : S → A → Prop) : S → List A → Prop
  | _, [] => True
  | s, a :: calls => guard s a ∧ Taken step guard (step s a) calls

variable {S A : Type} {step : S → A → S} {guard legal : S → A → Prop} {I P : S → Prop}

@[simp] theorem taken_nil (s : S) : Taken step guard s [] := trivial

@[simp] theorem taken_cons (s : S) (a : A) (calls : List A) :
    Taken step guard s (a :: calls) ↔ guard s a ∧ Taken step guard (step s a) calls := Iff.rfl

instance Taken.decidable [∀ s a, Decidable (guard s a)] (s : S) (calls : List A) :
    Decidable (Taken step guard s calls) :=
  match calls with
  | [] => isTrue trivial
  | a :: calls =>
    have : Decidable (Taken step guard (step s a) calls) := Taken.decidable (step s a) calls
    inferInstanceAs (Decidable (guard s a ∧ Taken step guard (step s a) calls))

theorem Taken.mono {guard' : S → A → Prop} (hguard : ∀ s a, guard s a → guard' s a) {s : S}
    {calls : List A} (hrun : Taken step guard s calls) : Taken step guard' s calls := by
  induction calls generalizing s with
  | nil => trivial
  | cons a calls ih => exact ⟨hguard s a hrun.1, ih hrun.2⟩

/-- A guard that looks at the calls alone holds of a run when it holds of each. -/
theorem taken_of_forall {legalCall : A → Prop} {s : S} {calls : List A}
    (hcalls : ∀ a ∈ calls, legalCall a) : Taken step (fun _ a => legalCall a) s calls := by
  induction calls generalizing s with
  | nil => trivial
  | cons a calls ih =>
    rw [List.forall_mem_cons] at hcalls
    exact ⟨hcalls.1, ih hcalls.2⟩

/-- Where a state is a part of another and takes the calls alike, a run of the one is guarded
    when the run of the other is. -/
theorem taken_map {T : Type} {stepWider : T → A → T} (part : T → S)
    (halike : ∀ t a, part (stepWider t a) = step (part t) a) {t : T} {calls : List A} :
    Taken stepWider (fun t a => guard (part t) a) t calls ↔ Taken step guard (part t) calls := by
  induction calls generalizing t with
  | nil => exact Iff.rfl
  | cons a calls ih => rw [taken_cons, taken_cons, ih, halike]

/-- What every guarded call preserves holds in all the states of a run. -/
theorem Taken.invariant (hkeep : ∀ s a, I s → guard s a → I (step s a)) {s : S} {calls : List A}
    (hrun : Taken step guard s calls) (hstart : I s) :
    ∀ moment ∈ moments step s calls, I moment := by
  induction calls generalizing s with
  | nil => simpa using hstart
  | cons a calls ih =>
    rw [moments_cons, List.forall_mem_cons]
    exact ⟨hstart, ih hrun.2 (hkeep s a hstart hrun.1)⟩

/-- A guarded run is guarded at each of its calls. -/
theorem Taken.at_call {s : S} {calls : List A} (hrun : Taken step guard s calls) {past : List A}
    {a : A} (hpast : past ++ [a] <+: calls) : guard (past.foldl step s) a := by
  induction past generalizing s calls with
  | nil =>
    obtain ⟨rest, rfl⟩ := hpast
    exact hrun.1
  | cons b past ih =>
    obtain ⟨rest, rfl⟩ := hpast
    exact ih hrun.2 (List.prefix_append (past ++ [a]) rest)

/-- What every guarded call preserves of a state and the calls that led to it holds
    after every first part of a run. -/
theorem Taken.history_invariant {H : List A → S → Prop}
    (hkeep : ∀ past s a, H past s → guard s a → H (past ++ [a]) (step s a)) {s : S}
    {calls : List A} (hrun : Taken step guard s calls) (hstart : H [] s) {past : List A}
    (hpast : past <+: calls) : H past (past.foldl step s) := by
  induction past using List.reverseRecOn with
  | nil => exact hstart
  | append_singleton past a ih =>
    rw [List.foldl_append, List.foldl_cons, List.foldl_nil]
    exact hkeep past _ a (ih ((List.prefix_append past [a]).trans hpast)) (hrun.at_call hpast)

/-- Two guards that agree wherever an invariant holds, which the calls that meet them keep, hold
    of the same runs. -/
theorem taken_iff_taken {guard' : S → A → Prop} (hagree : ∀ s a, I s → (guard s a ↔ guard' s a))
    (hkeep : ∀ s a, I s → guard' s a → I (step s a)) {s : S} (hstart : I s) {calls : List A} :
    Taken step guard s calls ↔ Taken step guard' s calls := by
  induction calls generalizing s with
  | nil => exact Iff.rfl
  | cons a calls ih =>
    rw [taken_cons, taken_cons, hagree s a hstart]
    exact and_congr_right fun hguard => ih (hkeep s a hstart hguard)

/-- A property that one call keeps exactly when the call is guarded holds throughout a
    run exactly when all the calls of the run are. -/
theorem always_iff_taken (hexact : ∀ s a, I s → P s → legal s a → (P (step s a) ↔ guard s a))
    (hkeep : ∀ s a, I s → P s → legal s a → guard s a → I (step s a)) {s : S} {calls : List A}
    (hlegal : Taken step legal s calls) (hinv : I s) (hstart : P s) :
    (∀ moment ∈ moments step s calls, P moment) ↔ Taken step guard s calls := by
  induction calls generalizing s with
  | nil => simpa using hstart
  | cons a calls ih =>
    have hcall := hexact s a hinv hstart hlegal.1
    rw [moments_cons, List.forall_mem_cons, taken_cons]
    constructor
    · intro halways
      have hnext : P (step s a) := by
        cases calls with
        | nil => exact halways.2 _ (by simp)
        | cons b calls => exact halways.2 _ (by simp)
      have hguard := hcall.mp hnext
      exact ⟨hguard, (ih hlegal.2 (hkeep s a hinv hstart hlegal.1 hguard) hnext).mp halways.2⟩
    · intro hrun
      have hnext := hcall.mpr hrun.1
      have hkept := hkeep s a hinv hstart hlegal.1 hrun.1
      exact ⟨hstart, (ih hlegal.2 hkept hnext).mpr hrun.2⟩

end runs
