import OnePlus7Pro.Effects.Run

namespace effects

variable {E S A B : Type}

/-- Two programs whose runs are the same from every state from which the first one does
    not pass a moment at which they may differ. The moments that a run passes are those
    of a clock, which the first program never sets back. -/
def Agree (clock : S → Nat) (differs : Nat → Prop) (m m' : EStateM E S A) : Prop :=
  ∀ s, clock s ≤ clock (endState (m s)) ∧
    (m' s = m s ∨ ∃ n, clock s ≤ n ∧ n < clock (endState (m s)) ∧ differs n)

variable {clock : S → Nat} {differs : Nat → Prop}

/-- A program that leaves the clock alone agrees with itself. -/
theorem Agree.still {m m' : EStateM E S A} (hsame : m' = m)
    (hclock : ∀ s, clock (endState (m s)) = clock s) :
    Agree clock differs m m' :=
  fun s => ⟨Nat.le_of_eq (hclock s).symm, .inl (congrFun hsame s)⟩

theorem Agree.pure (a : A) : Agree clock differs (Pure.pure a : EStateM E S A) (Pure.pure a) :=
  .still rfl fun _ => rfl

theorem Agree.bind {m m' : EStateM E S A} {f f' : A → EStateM E S B} (hm : Agree clock differs m m')
    (hf : ∀ a, Agree clock differs (f a) (f' a)) : Agree clock differs (m >>= f) (m' >>= f') := by
  intro s
  obtain ⟨hclock, hsame⟩ := hm s
  rcases endState_bind m f s with ⟨a, s', hrun, hend⟩ | ⟨e, s', hrun, hend⟩
  · obtain ⟨hclock', hsame'⟩ := hf a s'
    rw [hrun] at hclock hsame
    rw [hend]
    change clock s ≤ clock s' at hclock
    change m' s = .ok a s' ∨ ∃ n, clock s ≤ n ∧ n < clock s' ∧ differs n at hsame
    refine ⟨Nat.le_trans hclock hclock', ?_⟩
    rcases hsame with hsame | ⟨n, hstart, hbefore, hdiffers⟩
    · rw [run_bind_ok hsame, run_bind_ok hrun]
      exact hsame'.imp_right fun ⟨n, hstart, hbefore, hdiffers⟩ =>
        ⟨n, Nat.le_trans hclock hstart, hbefore, hdiffers⟩
    · exact .inr ⟨n, hstart, Nat.lt_of_lt_of_le hbefore hclock', hdiffers⟩
  · rw [hrun] at hclock hsame
    rw [hend]
    refine ⟨hclock, hsame.imp_left fun hsame => ?_⟩
    rw [run_bind_error hsame, run_bind_error hrun]

theorem Agree.ite {c : Prop} [Decidable c] {m m' n n' : EStateM E S A}
    (hm : Agree clock differs m m') (hn : Agree clock differs n n') :
    Agree clock differs (if c then m else n) (if c then m' else n') := by
  split
  · exact hm
  · exact hn

/-- A run that passes no moment at which the programs may differ is a run of both. -/
theorem Agree.run_eq {m m' : EStateM E S A} (h : Agree clock differs m m') {s : S}
    (hsame : ∀ n, clock s ≤ n → n < clock (endState (m s)) → ¬ differs n) : m' s = m s :=
  (h s).2.resolve_right fun ⟨n, hstart, hbefore, hdiffers⟩ => hsame n hstart hbefore hdiffers

end effects
