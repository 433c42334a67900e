import Mathlib.Logic.Basic

namespace effects

/-- The program returns from `s`, without stopping early, with a result and a state
    that satisfy `Q`. -/
def Returns {E S A : Type} (m : EStateM E S A) (s : S) (Q : A → S → Prop) : Prop :=
  ∃ a s', m s = .ok a s' ∧ Q a s'

theorem Returns.pure {E S A : Type} {Q : A → S → Prop} {a : A} {s : S} (h : Q a s) :
    Returns (Pure.pure a : EStateM E S A) s Q :=
  ⟨a, s, rfl, h⟩

theorem run_bind_ok {E S A B : Type} {m : EStateM E S A} {f : A → EStateM E S B} {s s' : S} {a : A}
    (hm : m s = .ok a s') : (m >>= f) s = f a s' := by
  change (match m s with | .ok a s => f a s | .error e s => .error e s) = f a s'
  rw [hm]

theorem run_bind_error {E S A B : Type} {m : EStateM E S A} {f : A → EStateM E S B} {s s' : S}
    {e : E} (hm : m s = .error e s') : (m >>= f) s = .error e s' := by
  change (match m s with | .ok a s => f a s | .error e s => .error e s) = _
  rw [hm]

/-- The state in which a run ends, early or not. -/
def endState {E S A : Type} : EStateM.Result E S A → S
  | .ok _ s => s
  | .error _ s => s

/-- The state after a sequence, by whether its first part stops early. -/
theorem endState_bind {E S A B : Type} (m : EStateM E S A) (f : A → EStateM E S B) (s : S) :
    (∃ a s', m s = .ok a s' ∧ endState ((m >>= f) s) = endState (f a s')) ∨
      ∃ e s', m s = .error e s' ∧ endState ((m >>= f) s) = s' := by
  cases hm : m s with
  | ok a s' => exact .inl ⟨a, s', rfl, by rw [run_bind_ok hm]⟩
  | error e s' => exact .inr ⟨e, s', rfl, by rw [run_bind_error hm]; rfl⟩

/-- A sequence returns when its first part does and the rest returns from there. -/
theorem Returns.bind {E S A B : Type} {m : EStateM E S A} {f : A → EStateM E S B} {s : S}
    {P : A → S → Prop} {Q : B → S → Prop} (hm : Returns m s P)
    (hf : ∀ a s', P a s' → Returns (f a) s' Q) : Returns (m >>= f) s Q := by
  obtain ⟨a, s', hrun, hP⟩ := hm
  obtain ⟨b, s'', hrest, hQ⟩ := hf a s' hP
  exact ⟨b, s'', (run_bind_ok hrun).trans hrest, hQ⟩

theorem Returns.mono {E S A : Type} {m : EStateM E S A} {s : S} {P Q : A → S → Prop}
    (hm : Returns m s P) (h : ∀ a s', P a s' → Q a s') : Returns m s Q := by
  obtain ⟨a, s', hrun, hP⟩ := hm
  exact ⟨a, s', hrun, h a s' hP⟩

/-- What is known of the result of a run is known of every result it is seen to have. -/
theorem Returns.of_run {E S A : Type} {m : EStateM E S A} {s s' : S} {Q : A → S → Prop} {a : A}
    (hm : Returns m s Q) (hrun : m s = .ok a s') : Q a s' := by
  obtain ⟨b, s'', hrun', hQ⟩ := hm
  rw [hrun'] at hrun
  cases hrun
  exact hQ

/-- Whenever the program returns from `s`, it is with a result and a state that satisfy `Q`. -/
def Ends {E S A : Type} (m : EStateM E S A) (s : S) (Q : A → S → Prop) : Prop :=
  ∀ a s', m s = .ok a s' → Q a s'

theorem Ends.pure {E S A : Type} {Q : A → S → Prop} {a : A} {s : S} (h : Q a s) :
    Ends (Pure.pure a : EStateM E S A) s Q := by
  intro b s' hrun
  cases hrun
  exact h

/-- A sequence ends as its second part does from every end of the first. -/
theorem Ends.bind {E S A B : Type} {m : EStateM E S A} {f : A → EStateM E S B} {s : S}
    {Q : B → S → Prop} (hf : ∀ a s', Ends (f a) s' Q) : Ends (m >>= f) s Q := by
  intro b s'' hrun
  cases hm : m s with
  | ok a s' => exact hf a s' b s'' ((run_bind_ok hm).symm.trans hrun)
  | error e s' =>
    rw [run_bind_error hm] at hrun
    cases hrun

/-- A sequence returns on the conditions of both parts, where that of the second is one for all that
    it can start from. -/
theorem returns_bind_iff {E S A B : Type} {m : EStateM E S A} {f : A → EStateM E S B} {s : S}
    {first second : Prop} (hfirst : Returns m s (fun _ _ => True) ↔ first)
    (hsecond : ∀ a s', Returns (f a) s' (fun _ _ => True) ↔ second) :
    Returns (m >>= f) s (fun _ _ => True) ↔ first ∧ second := by
  rw [← hfirst]
  constructor
  · rintro ⟨b, s'', hrun, -⟩
    cases hm : m s with
    | ok a s' =>
      rw [run_bind_ok hm] at hrun
      exact ⟨⟨a, s', hm, trivial⟩, (hsecond a s').mp ⟨b, s'', hrun, trivial⟩⟩
    | error e s' =>
      rw [run_bind_error hm] at hrun
      cases hrun
  · rintro ⟨hm, hrest⟩
    exact hm.bind fun a s' _ => (hsecond a s').mpr hrest

/-- A program returns exactly on a condition that every end meets and every early stop breaks. -/
theorem returns_iff {E S A : Type} {m : EStateM E S A} {s : S} {allowed : Prop}
    (hok : Ends m s fun _ _ => allowed) (herror : ∀ e s', m s = .error e s' → ¬ allowed) :
    Returns m s (fun _ _ => True) ↔ allowed := by
  constructor
  · rintro ⟨a, s', hrun, -⟩
    exact hok a s' hrun
  · intro hallowed
    cases hrun : m s with
    | ok a s' => exact ⟨a, s', hrun, trivial⟩
    | error e s' => exact absurd hallowed (herror e s' hrun)

/-- If the computation has a value, it satisfies `P`. -/
def Yields {E A : Type} (x : Except E A) (P : A → Prop) : Prop := ∀ a, x = .ok a → P a

theorem Yields.pure {E A : Type} {P : A → Prop} {a : A} (h : P a) : Yields (Pure.pure a : Except E A) P := by
  intro b hb
  cases hb
  exact h

/-- What the first part may yield is all that the second part has to begin with. -/
theorem Yields.bind {E A B : Type} {x : Except E A} {f : A → Except E B} {P : A → Prop} {Q : B → Prop}
    (hx : Yields x P) (hf : ∀ a, P a → Yields (f a) Q) : Yields (x >>= f) Q := by
  intro b hb
  cases x with
  | error e => cases hb
  | ok a => exact hf a (hx a rfl) b hb

theorem Yields.trivial {E A : Type} (x : Except E A) : Yields x fun _ => True := fun _ _ => True.intro

/-- What every turn of a loop keeps is kept by the loop. -/
theorem Yields.foldlM {E A S : Type} {turn : S → A → Except E S} {I : S → Prop}
    (hturn : ∀ s a, I s → Yields (turn s a) I) (as : List A) {s : S} (hstart : I s) :
    Yields (as.foldlM turn s) I := by
  induction as generalizing s with
  | nil => exact .pure hstart
  | cons a as ih =>
    rw [List.foldlM_cons]
    exact (hturn s a hstart).bind fun s' h => ih h

/-- Wherever the program starts, the state in which it ends, early or not, is related to the start. -/
def Leaves {E S A : Type} (m : EStateM E S A) (R : S → S → Prop) : Prop := ∀ s, R s (endState (m s))

theorem Leaves.pure {E S A : Type} {R : S → S → Prop} {a : A} (hrefl : ∀ s, R s s) :
    Leaves (Pure.pure a : EStateM E S A) R :=
  hrefl

theorem Leaves.bind {E S A B : Type} {R : S → S → Prop} {m : EStateM E S A} {f : A → EStateM E S B}
    (htrans : ∀ s s' s'', R s s' → R s' s'' → R s s'') (hm : Leaves m R) (hf : ∀ a, Leaves (f a) R) :
    Leaves (m >>= f) R := by
  intro s
  have hfirst := hm s
  rcases endState_bind m f s with ⟨a, s', hrun, hend⟩ | ⟨e, s', hrun, hend⟩
  · rw [hrun] at hfirst
    rw [hend]
    exact htrans s s' _ hfirst (hf a s')
  · rw [hrun] at hfirst
    rw [hend]
    exact hfirst

theorem Leaves.ite {E S A : Type} {R : S → S → Prop} {c : Prop} [Decidable c] {m n : EStateM E S A}
    (hm : Leaves m R) (hn : Leaves n R) : Leaves (if c then m else n) R := by
  split
  · exact hm
  · exact hn

/-- A run of `step` over a list of calls, each of which finds its state and its call
    satisfying `guard` and returns. -/
inductive Run {E S A B : Type} (step : A → EStateM E S B) (guard : S → A → Prop) :
    S → List A → S → Prop where
  | nil (s : S) : Run step guard s [] s
  | cons {s s' s'' : S} {a : A} {b : B} {as : List A} (hguard : guard s a)
      (hstep : step a s = .ok b s') (htail : Run step guard s' as s'') :
      Run step guard s (a :: as) s''

/-- What every guarded call preserves holds at the end of every run. -/
theorem Run.invariant {E S A B : Type} {step : A → EStateM E S B} {guard : S → A → Prop}
    {I : S → Prop} (hpreserved : ∀ s a b s', I s → guard s a → step a s = .ok b s' → I s')
    {s s' : S} {as : List A} (hrun : Run step guard s as s') (hstart : I s) : I s' := by
  induction hrun with
  | nil => exact hstart
  | cons hguard hstep _ ih => exact ih (hpreserved _ _ _ _ hstart hguard hstep)

/-- When every call returns from the states of an invariant to such states, so does
    every sequence of calls. -/
theorem Returns.mapM {E S A B : Type} {step : A → EStateM E S B} {I : S → Prop}
    (hstep : ∀ a s, I s → Returns (step a) s fun _ => I) (as : List A) {s : S} (hstart : I s) :
    Returns (as.mapM step) s fun _ => I := by
  induction as generalizing s with
  | nil => exact .pure hstart
  | cons a as ih =>
    rw [List.mapM_cons]
    refine (hstep a s hstart).bind fun b s' hinv => ?_
    exact (ih hinv).bind fun bs s'' hend => .pure hend

/-- When every call from the states of an invariant returns a result of one kind to such
    states, so does every sequence of calls. -/
theorem Returns.mapM_all {E S A B : Type} {step : A → EStateM E S B} {I : S → Prop} {Q : B → Prop}
    (hstep : ∀ a s, I s → Returns (step a) s fun b s' => Q b ∧ I s') (as : List A) {s : S} (hstart : I s) :
    Returns (as.mapM step) s fun bs s' => (∀ b ∈ bs, Q b) ∧ I s' := by
  induction as generalizing s with
  | nil => exact .pure ⟨fun b hb => (List.not_mem_nil hb).elim, hstart⟩
  | cons a as ih =>
    rw [List.mapM_cons]
    refine (hstep a s hstart).bind fun b s' ⟨hb, hinv⟩ => ?_
    refine (ih hinv).bind fun bs s'' ⟨hbs, hend⟩ => .pure ⟨?_, hend⟩
    exact List.forall_mem_cons.mpr ⟨hb, hbs⟩

end effects
