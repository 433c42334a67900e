import OnePlus7Pro.Effects.Run
import Mathlib.Data.List.Infix

namespace effects

/-- The steps of a machine, each of which is granted or refused, and what becomes of
    the state in either case. -/
structure Steps (S T : Type) where
  granted : S → T → Bool
  done : S → T → S
  refused : S → T → S

namespace Steps

variable {E S T A B : Type} (M : Steps S T)

/-- Carry out a script up to the first step refused: the state then, and whether every
    step was granted. -/
def exec : List T → S → S × Bool
  | [], s => (s, true)
  | t :: script, s => if M.granted s t then exec script (M.done s t) else (M.refused s t, false)

/-- The first part of a script, that is granted. -/
def carried : List T → S → List T
  | [], _ => []
  | t :: script, s => if M.granted s t then t :: carried script (M.done s t) else []

/-- The program returns `value` after carrying out the script, unless a step of it is
    refused: then the program does nothing more and returns a result that satisfies `failed`. -/
def Follows (m : EStateM E S A) (s : S) (script : List T) (value : A) (failed : A → Prop) : Prop :=
  Returns m s fun a s' =>
    (M.exec script s = (s', true) ∧ a = value) ∨ (M.exec script s = (s', false) ∧ failed a)

variable {M} {s s' : S} {script script' : List T}

theorem exec_append (script script' : List T) (s : S) :
    M.exec (script ++ script') s =
      if (M.exec script s).2 then M.exec script' (M.exec script s).1 else M.exec script s := by
  induction script generalizing s with
  | nil => rfl
  | cons t script ih =>
    rw [List.cons_append, exec, exec]
    split
    · exact ih (M.done s t)
    · rfl

theorem carried_append (script script' : List T) (s : S) :
    M.carried (script ++ script') s =
      if (M.exec script s).2 then script ++ M.carried script' (M.exec script s).1 else M.carried script s := by
  induction script generalizing s with
  | nil => rfl
  | cons t script ih =>
    rw [List.cons_append, carried, carried, exec]
    split
    · rw [ih]
      split <;> rfl
    · rfl

/-- What is granted is a first part of the script. -/
theorem carried_isPrefix (script : List T) (s : S) : M.carried script s <+: script := by
  induction script generalizing s with
  | nil => exact List.prefix_refl []
  | cons t script ih =>
    rw [carried]
    split
    · exact (List.prefix_cons_inj t).mpr (ih _)
    · exact List.nil_prefix

theorem carried_of_done (h : M.exec script s = (s', true)) : M.carried script s = script := by
  induction script generalizing s with
  | nil => rfl
  | cons t script ih =>
    rw [exec] at h
    rw [carried]
    split at h
    · next hgranted => rw [if_pos hgranted, ih h]
    · cases h

/-- When a script is not carried out, its last step is not either. -/
theorem carried_of_refused {t : T} (h : (M.exec (script ++ [t]) s).2 = false) :
    M.carried (script ++ [t]) s <+: script := by
  rw [exec_append] at h
  rw [carried_append]
  split at h
  · next hdone =>
    rw [exec] at h
    split at h
    · cases h
    · next hrefused =>
      rw [if_pos hdone, carried, if_neg hrefused, List.append_nil]
  · next hdone =>
    rw [if_neg hdone]
    exact carried_isPrefix script s

/-- When every step is granted in every state, so is every script. -/
theorem exec_of_granted (h : ∀ s t, M.granted s t = true) (script : List T) (s : S) :
    (M.exec script s).2 = true := by
  induction script generalizing s with
  | nil => rfl
  | cons t script ih =>
    rw [exec, if_pos (h s t)]
    exact ih _

theorem Follows.pure {value : A} {failed : A → Prop} :
    M.Follows (Pure.pure value : EStateM E S A) s [] value failed :=
  Returns.pure (.inl ⟨rfl, rfl⟩)

/-- A call that takes one step returns `value` when the step is granted. -/
theorem Follows.step {m : EStateM E S A} {t : T} {value : A} {failed : A → Prop} (bad : A)
    (hbad : failed bad) (hgranted : M.granted s t = true → m s = .ok value (M.done s t))
    (hrefused : M.granted s t = false → m s = .ok bad (M.refused s t)) :
    M.Follows m s [t] value failed := by
  cases h : M.granted s t with
  | true => exact ⟨value, M.done s t, hgranted h, .inl ⟨by simp [exec, h], rfl⟩⟩
  | false => exact ⟨bad, M.refused s t, hrefused h, .inr ⟨by simp [exec, h], hbad⟩⟩

/-- A sequence follows one script after the other, when its second part does nothing
    but report a failure of the first. -/
theorem Follows.bind {m : EStateM E S A} {f : A → EStateM E S B} {value : A} {failed : A → Prop}
    {value' : B} {failed' : B → Prop} (hm : M.Follows m s script value failed)
    (hfailed : ∀ a, failed a → ∃ b, f a = Pure.pure b ∧ failed' b)
    (hf : ∀ s', M.exec script s = (s', true) → M.Follows (f value) s' script' value' failed') :
    M.Follows (m >>= f) s (script ++ script') value' failed' := by
  refine Returns.bind hm fun a s' h => ?_
  rcases h with ⟨hexec, rfl⟩ | ⟨hexec, hfail⟩
  · refine (hf s' hexec).mono fun b s'' h => ?_
    rw [exec_append, hexec, if_pos rfl]
    exact h
  · obtain ⟨b, hb, hfail'⟩ := hfailed a hfail
    rw [hb]
    refine .pure (.inr ⟨?_, hfail'⟩)
    rw [exec_append, hexec]
    rfl

theorem Follows.mono {m : EStateM E S A} {value : A} {failed failed' : A → Prop}
    (hm : M.Follows m s script value failed) (h : ∀ a, failed a → failed' a) :
    M.Follows m s script value failed' :=
  Returns.mono hm fun a _ h' => h'.imp_right fun hfail => ⟨hfail.1, h a hfail.2⟩

theorem Follows.congr (script : List T) {m : EStateM E S A} {value : A} {failed : A → Prop}
    (hm : M.Follows m s script value failed) (hscript : script = script') :
    M.Follows m s script' value failed := by
  rwa [← hscript]

/-- Where every step is granted, the program returns its value. -/
theorem Follows.done {m : EStateM E S A} {value : A} {failed : A → Prop}
    (hm : M.Follows m s script value failed) (hgranted : (M.exec script s).2 = true) :
    m s = .ok value (M.exec script s).1 := by
  obtain ⟨a, s', hrun, ⟨hexec, rfl⟩ | ⟨hexec, _⟩⟩ := hm
  · rw [hrun, hexec]
  · rw [hexec] at hgranted
    cases hgranted

/-- The program returns in the state that the script leads to. -/
theorem Follows.state {m : EStateM E S A} {value : A} {failed : A → Prop}
    (hm : M.Follows m s script value failed) :
    Returns m s fun _ s' => s' = (M.exec script s).1 := by
  refine Returns.mono hm fun a s' h => ?_
  rcases h with ⟨hexec, _⟩ | ⟨hexec, _⟩ <;> rw [hexec]

/-- What is known of a run that was seen to return. -/
theorem Follows.of_run {m : EStateM E S A} {value a : A} {failed : A → Prop}
    (hm : M.Follows m s script value failed) (hrun : m s = .ok a s') :
    (M.exec script s = (s', true) ∧ a = value) ∨ (M.exec script s = (s', false) ∧ failed a) :=
  Returns.of_run (m := m) hm hrun

/-- The program carries out the script and goes on as `rest`, unless a step of it is refused: then
    it does nothing more and returns a result that satisfies `failed`. -/
def Reaches (M : Steps S T) (m : EStateM E S A) (s : S) (script : List T) (rest : EStateM E S A)
    (failed : A → Prop) : Prop :=
  (∃ s', M.exec script s = (s', true) ∧ m s = rest s') ∨
    ∃ a s', M.exec script s = (s', false) ∧ m s = .ok a s' ∧ failed a

theorem Reaches.refl {m : EStateM E S A} {failed : A → Prop} : M.Reaches m s [] m failed :=
  .inl ⟨s, rfl, rfl⟩

/-- After a part that follows a script, the program reaches what the rest of it does. -/
theorem Follows.reaches {m : EStateM E S A} {f : A → EStateM E S B} {value : A} {failed : A → Prop}
    {rest : EStateM E S B} {failed' : B → Prop} (hm : M.Follows m s script value failed)
    (hfailed : ∀ a, failed a → ∃ b, f a = Pure.pure b ∧ failed' b)
    (hf : ∀ s', M.exec script s = (s', true) → M.Reaches (f value) s' script' rest failed') :
    M.Reaches (m >>= f) s (script ++ script') rest failed' := by
  obtain ⟨a, s', hrun, ⟨hexec, rfl⟩ | ⟨hexec, hfail⟩⟩ := hm
  · unfold Reaches
    rw [run_bind_ok hrun, exec_append, hexec, if_pos rfl]
    exact hf s' hexec
  · obtain ⟨b, hb, hfail'⟩ := hfailed a hfail
    refine .inr ⟨b, s', ?_, ?_, hfail'⟩
    · rw [exec_append, hexec]
      rfl
    · rw [run_bind_ok hrun, hb]
      rfl

theorem Reaches.follows {m rest : EStateM E S A} {value : A} {failed : A → Prop}
    (hm : M.Reaches m s script rest failed) (hrest : ∀ s', rest s' = .ok value s') :
    M.Follows m s script value failed := by
  rcases hm with ⟨s', hexec, hrun⟩ | ⟨a, s', hexec, hrun, hfail⟩
  · exact ⟨value, s', hrun.trans (hrest s'), .inl ⟨hexec, rfl⟩⟩
  · exact ⟨a, s', hrun, .inr ⟨hexec, hfail⟩⟩

end Steps

end effects
