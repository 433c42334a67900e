import OnePlus7Pro.Effects.Moments
import OnePlus7Pro.Effects.Script
import OnePlus7Pro.Gpt.Machine

open regions effects

namespace gpt_utils

/-- The contents of a device after a log of events. -/
def replay (fd : String) (disk : Disk) (log : List Event) : Disk :=
  log.foldl (fun disk event => event.onDisk fd disk) disk

/-- The boot LUN after a log of events. -/
def replayLun (lun : Nat) (log : List Event) : Nat := log.foldl Event.onLun lun

@[simp] theorem replay_nil (fd : String) (disk : Disk) : replay fd disk [] = disk := rfl

@[simp] theorem replay_cons (fd : String) (disk : Disk) (event : Event) (log : List Event) :
    replay fd disk (event :: log) = replay fd (event.onDisk fd disk) log := rfl

theorem replay_append (fd : String) (disk : Disk) (log log' : List Event) :
    replay fd disk (log ++ log') = replay fd (replay fd disk log) log' := List.foldl_append

/-- Writing does not change the size of a device. -/
@[simp] theorem length_replay (fd : String) (disk : Disk) (log : List Event) :
    (replay fd disk log).bytes.length = disk.bytes.length := by
  induction log generalizing disk with
  | nil => rfl
  | cons event log ih =>
    rw [replay_cons, ih]
    cases event with
    | write fd' offset len data =>
      rw [Event.onDisk]
      split
      · rw [Disk.write_bytes, length_patch]
      · rfl
    | boot_lun id => rfl

theorem replayLun_append (lun : Nat) (log log' : List Event) :
    replayLun lun (log ++ log') = replayLun (replayLun lun log) log' := List.foldl_append

@[simp] theorem onDisk_write_self (fd : String) (disk : Disk) (offset len : Nat) (data : Buffer) :
    (Event.write fd offset len data).onDisk fd disk = disk.write offset data := if_pos rfl

/-- Between two states of the machine exactly the given events took effect. -/
structure World.After (w : World) (events : List Event) (w' : World) : Prop where
  disks : ∀ fd, w'.disks fd = (w.disks fd).map fun disk => replay fd disk events
  boot_lun : w'.boot_lun = replayLun w.boot_lun events
  log : w'.log = w.log ++ events

theorem World.After.refl (w : World) : w.After [] w := by
  refine ⟨fun fd => ?_, rfl, by simp⟩
  cases w.disks fd <;> rfl

theorem World.After.trans {w w' w'' : World} {events events' : List Event}
    (h : w.After events w') (h' : w'.After events' w'') : w.After (events ++ events') w'' := by
  refine ⟨fun fd => ?_, ?_, ?_⟩
  · rw [h'.disks, h.disks, Option.map_map]
    congr 1
    funext disk
    exact (replay_append fd disk events events').symm
  · rw [h'.boot_lun, h.boot_lun, replayLun_append]
  · rw [h'.log, h.log, List.append_assoc]

theorem World.After.disk {w w' : World} {fd : String} {events : List Event} {disk : Disk}
    (h : w.After events w') (hdisk : w.disks fd = some disk) :
    w'.disks fd = some (replay fd disk events) := by
  rw [h.disks, hdisk]
  rfl

theorem World.After.called (w : World) : w.After [] w.called := by
  refine ⟨fun fd => ?_, rfl, (List.append_nil _).symm⟩
  change w.disks fd = _
  cases w.disks fd <;> rfl

theorem World.After.transferred (w : World) (len : Nat) (moved : Option Nat) :
    w.After [] (w.transferred len moved) := by
  refine ⟨fun fd => ?_, rfl, (List.append_nil _).symm⟩
  change w.disks fd = _
  cases w.disks fd <;> rfl

theorem World.After.record (w : World) (event : Event) : w.After [event] (w.record event) :=
  ⟨fun _ => rfl, rfl, rfl⟩

/-- The steps by which a run is observed: a call that can fail, the switch of the boot
    LUN, a `read` of `len` bytes, and a `write` of `data`. -/
inductive Step where
  | call
  | boot_lun (id : Nat)
  | read (len : Nat)
  | write (fd : String) (offset : Nat) (data : Buffer)
  deriving DecidableEq

/-- The lasting effect of a step that is granted. -/
def Step.events : Step → List Event
  | .call => []
  | .boot_lun id => [.boot_lun id]
  | .read _ => []
  | .write fd offset data => [.write fd offset data.length data]

/-- The state after a step that is granted. -/
def Step.done (w : World) : Step → World
  | .call => w.called
  | .boot_lun id => w.called.record (.boot_lun id)
  | .read len => w.transferred len (some len)
  | .write fd offset data =>
    (w.transferred data.length (some data.length)).record (.write fd offset data.length data)

/-- The state after a step that is refused. -/
def Step.refused (w : World) : Step → World
  | .call => w.called
  | .boot_lun _ => w.called
  | .read len => w.transferred len none
  | .write _ _ data => w.transferred data.length none

def Env.granted (env : Env) (w : World) : Step → Bool
  | .call => env.call w.calls
  | .boot_lun _ => env.call w.calls
  | .read _ => decide (env.transfer w.transfers = .full)
  | .write .. => decide (env.transfer w.transfers = .full)

/-- The surroundings as the ones that grant or refuse the steps of a program. -/
def Env.steps (env : Env) : Steps World Step where
  granted := env.granted
  done := Step.done
  refused := Step.refused

/-- The lasting effects of a script in the surroundings `env`, which may cut it short. -/
def Env.effect (env : Env) (script : List Step) (w : World) : List Event :=
  (env.steps.carried script w).flatMap Step.events

theorem Step.after_done (w : World) (step : Step) : w.After step.events (step.done w) := by
  cases step with
  | call => exact World.After.called w
  | boot_lun id => exact (World.After.called w).trans (World.After.record w.called _)
  | read len => exact World.After.transferred w len _
  | write fd offset data =>
    exact (World.After.transferred w _ _).trans (World.After.record _ _)

theorem Step.after_refused (w : World) (step : Step) : w.After [] (step.refused w) := by
  cases step with
  | call => exact World.After.called w
  | boot_lun id => exact World.After.called w
  | read len => exact World.After.transferred w len _
  | write fd offset data => exact World.After.transferred w _ _

/-- A script has its effect on the machine, up to the step that is refused. -/
theorem exec_after (env : Env) (script : List Step) (w : World) :
    w.After (env.effect script w) (env.steps.exec script w).1 := by
  induction script generalizing w with
  | nil => exact World.After.refl w
  | cons step script ih =>
    rw [Env.effect, Steps.carried, Steps.exec]
    split
    · exact (Step.after_done w step).trans (ih _)
    · exact Step.after_refused w step

/-- The effect of a script is a first part of the events it lists. -/
theorem effect_isPrefix (env : Env) (script : List Step) (w : World) :
    env.effect script w <+: script.flatMap Step.events := by
  obtain ⟨rest, hrest⟩ := Steps.carried_isPrefix (M := env.steps) script w
  exact ⟨rest.flatMap Step.events, by rw [Env.effect, ← List.flatMap_append, hrest]⟩

theorem effect_of_done {env : Env} {script : List Step} {w w' : World}
    (h : env.steps.exec script w = (w', true)) : env.effect script w = script.flatMap Step.events :=
  by
  rw [Env.effect, Steps.carried_of_done h]

/-- Where nothing fails every script is carried out. -/
theorem Env.Working.exec {env : Env} (hworking : env.Working) (script : List Step) (w : World) :
    (env.steps.exec script w).2 = true := by
  refine Steps.exec_of_granted (fun w step => ?_) script w
  cases step with
  | call => exact hworking.call _
  | boot_lun id => exact hworking.call _
  | read len => exact decide_eq_true (hworking.transfer _)
  | write fd offset data => exact decide_eq_true (hworking.transfer _)

end gpt_utils
