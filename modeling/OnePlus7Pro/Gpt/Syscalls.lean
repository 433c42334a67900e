import OnePlus7Pro.Gpt.Fields
import OnePlus7Pro.Gpt.Progress

open regions effects

namespace gpt_utils

@[simp] theorem mem_ok_bind {A B : Type} (a : A) (f : A → Sys B) : (mem (.ok a) >>= f) = f a := rfl

@[simp] theorem mem_error_bind {A B : Type} (fault : Fault) (f : A → Sys B) (w : World) :
    (mem (.error fault) >>= f) w = .error fault w := rfl

/-- A fallible call without lasting effect returns one result when it is granted
    and another when it is refused. -/
theorem follows_call (env : Env) {A : Type} {m : Sys A} {w : World} {value bad : A}
    (hm : m w = .ok (if env.call w.calls then value else bad) w.called) :
    env.steps.Follows m w [.call] value (· = bad) := by
  refine Steps.Follows.step bad rfl (fun hgranted => ?_) (fun hrefused => ?_)
  · have hcall : env.call w.calls = true := hgranted
    rw [hm, if_pos hcall]
    rfl
  · have hcall : ¬ env.call w.calls = true := ne_true_of_eq_false hrefused
    rw [hm, if_neg hcall]
    rfl

theorem attempt_follows (env : Env) (w : World) :
    env.steps.Follows (attempt env) w [.call] true (· = false) :=
  follows_call env (by cases h : env.call w.calls <;> simp [attempt, h])

/-- What `malloc` returns at `w` when it does not return `NULL`. -/
def fresh (env : Env) (w : World) (size : Nat) : Buffer := (List.range size).map (env.heap w.calls)

@[simp] theorem length_fresh (env : Env) (w : World) (size : Nat) :
    (fresh env w size).length = size := by
  simp [fresh]

theorem malloc_follows (env : Env) (w : World) (size : Nat) :
    env.steps.Follows (malloc env size) w [.call] (some (fresh env w size)) (· = none) :=
  follows_call env rfl

theorem calloc_follows (env : Env) (w : World) (size : Nat) :
    env.steps.Follows (calloc env size) w [.call] (some (List.replicate size 0)) (· = none) :=
  follows_call env rfl

section device

variable {w : World} {fd : String} {disk : Disk}

theorem open_device_follows (env : Env) (hdisk : w.disks fd = some disk) :
    env.steps.Follows (open_device env fd) w [.call] (some fd) (· = none) :=
  follows_call env (by simp [open_device, hdisk])

theorem ioctl_BLKSSZGET_follows (env : Env) (hdisk : w.disks fd = some disk) :
    env.steps.Follows (ioctl_BLKSSZGET env fd) w [.call] (some disk.blk_size) (· = none) :=
  follows_call env (by simp [ioctl_BLKSSZGET, hdisk])

theorem lseek64_end_follows (env : Env) (hdisk : w.disks fd = some disk) :
    env.steps.Follows (lseek64_end env fd) w [.call] (disk.bytes.length : Int) (· = -1) :=
  follows_call env (by simp [lseek64_end, hdisk])

theorem lseek64_set_eq (hdisk : w.disks fd = some disk) {offset : Nat}
    (hroom : offset ≤ disk.bytes.length) :
    lseek64_set fd offset w = .ok (offset : Int) w := by
  simp [lseek64_set, hdisk, hroom]

theorem lseek64_set_returns (fd : String) (offset : Nat) (w : World) :
    Returns (lseek64_set fd offset) w fun _ w' => w' = w := by
  cases h : w.disks fd with
  | none => exact ⟨-1, w, by simp only [lseek64_set, h], rfl⟩
  | some disk => exact ⟨if offset ≤ disk.bytes.length then offset else -1, w, by simp only [lseek64_set, h], rfl⟩

/-- Past a successful `lseek64`, `blk_rw` reports what `read` returns, or 0. -/
theorem blk_rw_of_read {env : Env} (hdisk : w.disks fd = some disk) {offset len : Nat}
    {buf buf' : Buffer} (hroom : offset ≤ disk.bytes.length) {r : Int} {w' : World}
    (hread : read env fd offset buf len w = .ok (r, buf') w') :
    blk_rw env fd false offset buf len w = .ok (if r < 0 then r else 0, buf') w' := by
  unfold blk_rw
  rw [run_bind_ok (lseek64_set_eq hdisk hroom), if_neg (by omega)]
  simp only [Bool.false_eq_true, if_false]
  rw [run_bind_ok hread]
  split <;> rfl

/-- Past a successful `lseek64`, `blk_rw` reports what `write` returns, or 0. -/
theorem blk_rw_of_write {env : Env} (hdisk : w.disks fd = some disk) {offset len : Nat}
    {buf : Buffer} (hroom : offset ≤ disk.bytes.length) {r : Int} {w' : World}
    (hwrite : write env fd offset buf len w = .ok r w') :
    blk_rw env fd true offset buf len w = .ok (if r < 0 then r else 0, buf) w' := by
  unfold blk_rw
  rw [run_bind_ok (lseek64_set_eq hdisk hroom), if_neg (by omega)]
  simp only [if_true]
  rw [run_bind_ok hwrite]
  split <;> rfl

/-- A read of a region of the device fills the buffer with it, or fails. -/
theorem blk_rw_read_follows {env : Env} (hio : env.FullOrFail) (hdisk : w.disks fd = some disk)
    {offset len : Nat} {buf : Buffer} (hroom : offset + len ≤ disk.bytes.length)
    (hbuf : buf.length = len) :
    env.steps.Follows (blk_rw env fd false offset buf len) w [.read len] (0, disk.read offset len) (·.1 = -1) := by
  have hread : (disk.read offset len).length = len := length_slice_of_le hroom
  have hfill : patch buf 0 (disk.read offset len) = disk.read offset len :=
    patch_all (hread.trans hbuf.symm)
  have havailable : min len (disk.bytes.length - offset) = len := by omega
  refine Steps.Follows.step (-1, buf) rfl (fun hgranted => ?_) (fun hrefused => ?_)
  · have htransfer : env.transfer w.transfers = .full := of_decide_eq_true hgranted
    have hrw : read env fd offset buf len w =
        .ok ((len : Int), disk.read offset len) (w.transferred len (some len)) := by
      simp [read, hdisk, htransfer, Transfer.moved, hbuf, havailable, hfill]
    rw [blk_rw_of_read hdisk (by omega) hrw, if_neg (by omega)]
    rfl
  · have htransfer : env.transfer w.transfers = .error :=
      (hio w.transfers).resolve_right (of_decide_eq_false hrefused)
    have hrw : read env fd offset buf len w = .ok (-1, buf) (w.transferred len none) := by
      simp [read, hdisk, htransfer, Transfer.moved, hbuf]
    rw [blk_rw_of_read hdisk (by omega) hrw]
    rfl

/-- A write to a region of the device takes effect in full, or fails. -/
theorem blk_rw_write_follows {env : Env} (hio : env.FullOrFail) (hdisk : w.disks fd = some disk)
    {offset len : Nat} {buf : Buffer} (hroom : offset + len ≤ disk.bytes.length)
    (hbuf : buf.length = len) :
    env.steps.Follows (blk_rw env fd true offset buf len) w [.write fd offset buf] (0, buf) (·.1 = -1) := by
  subst hbuf
  have havailable : min buf.length (disk.bytes.length - offset) = buf.length := by omega
  refine Steps.Follows.step (-1, buf) rfl (fun hgranted => ?_) (fun hrefused => ?_)
  · have htransfer : env.transfer w.transfers = .full := of_decide_eq_true hgranted
    have hrw : write env fd offset buf buf.length w =
        .ok (buf.length : Int) (Step.done w (.write fd offset buf)) := by
      simp [write, hdisk, htransfer, Transfer.moved, havailable, Step.done]
    rw [blk_rw_of_write hdisk (by omega) hrw, if_neg (by omega)]
    rfl
  · have htransfer : env.transfer w.transfers = .error :=
      (hio w.transfers).resolve_right (of_decide_eq_false hrefused)
    have hrw : write env fd offset buf buf.length w = .ok (-1) (w.transferred buf.length none) := by
      simp [write, hdisk, htransfer, Transfer.moved]
    rw [blk_rw_of_write hdisk (by omega) hrw]
    rfl

end device

end gpt_utils
