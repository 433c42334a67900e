import Mathlib.Data.List.Basic
import Mathlib.Logic.Function.Basic

namespace queues

/-- Executors of one worker each over a state that they share, with the tasks that wait in
    the order in which they were submitted. -/
structure Executors (I T S : Type) where
  waiting : I → List T
  state : S

inductive Turn (I T : Type) where
  | submit (executor : I) (task : T)
  | work (executor : I)

variable {I T S P : Type}

/-- A worker takes the task that has waited longest. -/
def Executors.turn [DecidableEq I] (perform : I → S → T → S) (self : Executors I T S) :
    Turn I T → Executors I T S
  | .submit i task => { self with waiting := Function.update self.waiting i (self.waiting i ++ [task]) }
  | .work i =>
    match self.waiting i with
    | [] => self
    | task :: rest => ⟨Function.update self.waiting i rest, perform i self.state task⟩

/-- The tasks of one executor change its own part of the state, and no other. -/
structure Separate (perform : I → S → T → S) (part : I → S → P) (act : P → T → P) : Prop where
  own : ∀ i s task, part i (perform i s task) = act (part i s) task
  other : ∀ i j s task, j ≠ i → part j (perform i s task) = part j s

/-- The part of an executor once the tasks that wait are performed. -/
def Executors.outcome (part : I → S → P) (act : P → T → P) (self : Executors I T S) (i : I) : P :=
  (self.waiting i).foldl act (part i self.state)

variable {perform : I → S → T → S} {part : I → S → P} {act : P → T → P}

theorem Executors.outcome_of_waiting_nil {self : Executors I T S} {i : I} (hempty : self.waiting i = []) :
    self.outcome part act i = part i self.state := by
  rw [outcome, hempty, List.foldl_nil]

variable [DecidableEq I]

@[simp] theorem Executors.outcome_submit_self (self : Executors I T S) (i : I) (task : T) :
    (self.turn perform (.submit i task)).outcome part act i = act (self.outcome part act i) task := by
  simp [outcome, turn]

theorem Executors.outcome_submit_other (self : Executors I T S) {i j : I} (task : T) (hother : j ≠ i) :
    (self.turn perform (.submit i task)).outcome part act j = self.outcome part act j := by
  simp [outcome, turn, hother]

/-- Whichever worker is next, what the executors come to is settled by the submissions. -/
@[simp] theorem Executors.outcome_work (hseparate : Separate perform part act) (self : Executors I T S)
    (i j : I) : (self.turn perform (.work i)).outcome part act j = self.outcome part act j := by
  cases hwaiting : self.waiting i with
  | nil => simp only [turn, hwaiting]
  | cons task rest =>
    simp only [outcome, turn, hwaiting]
    by_cases hself : j = i
    · subst hself
      rw [Function.update_self, hseparate.own, hwaiting, List.foldl_cons]
    · rw [Function.update_of_ne hself, hseparate.other i j _ _ hself]

end queues
