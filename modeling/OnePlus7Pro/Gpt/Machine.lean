import OnePlus7Pro.Effects.Run
import OnePlus7Pro.Regions.LittleEndian

open regions effects

namespace gpt_utils

abbrev Buffer := List UInt8

/-- What the C program must not do: an access outside a buffer, or a loop that never ends. -/
inductive Fault where
  | out_of_bounds
  | endless_loop
  deriving DecidableEq, Repr

/-- What one `read` or `write` system call does: it fails without effect, or stops short
    after at most `count` bytes, or moves everything there is. The kernel moves less than
    `2 ^ 31` bytes at a time, so there a longer transfer fails or is short, and never full. -/
inductive Transfer where
  | error
  | short (count : Nat)
  | full
  deriving DecidableEq, Repr

/-- The number of bytes moved when `available` of them can be, `none` on failure. -/
def Transfer.moved : Transfer → Nat → Option Nat
  | .error, _ => none
  | .short count, available => some (min count (available - 1))
  | .full, available => some available

/-- A block device: a size as `BLKSSZGET` reports it (32 bits) and contents whose
    length a signed 64-bit offset can express. -/
structure Disk where
  blk_size : Nat
  bytes : Buffer
  blk_size_lt : blk_size < 2 ^ 32
  bytes_lt : bytes.length < 2 ^ 63

def Disk.read (disk : Disk) (offset count : Nat) : Buffer := slice disk.bytes offset count

def Disk.write (disk : Disk) (offset : Nat) (data : Buffer) : Disk :=
  { disk with
    bytes := patch disk.bytes offset data
    bytes_lt := by rw [length_patch]; exact disk.bytes_lt }

@[simp] theorem Disk.write_blk_size (disk : Disk) (offset : Nat) (data : Buffer) :
    (disk.write offset data).blk_size = disk.blk_size := rfl

@[simp] theorem Disk.write_bytes (disk : Disk) (offset : Nat) (data : Buffer) :
    (disk.write offset data).bytes = patch disk.bytes offset data := rfl

theorem Disk.ext {disk disk' : Disk} (hblk : disk.blk_size = disk'.blk_size)
    (hbytes : disk.bytes = disk'.bytes) : disk = disk' := by
  cases disk
  cases disk'
  cases hblk
  cases hbytes
  rfl

/-- A lasting effect: `data` written to a device at `offset`, out of `len` bytes that
    were to be written, or the boot LUN attribute set. -/
inductive Event where
  | write (fd : String) (offset len : Nat) (data : Buffer)
  | boot_lun (id : Nat)
  deriving DecidableEq, Repr

/-- The effect of an event on the device behind `fd`. -/
def Event.onDisk (fd : String) (disk : Disk) : Event → Disk
  | .write fd' offset _ data => if fd' = fd then disk.write offset data else disk
  | .boot_lun _ => disk

/-- The effect of an event on the boot LUN attribute. -/
def Event.onLun (lun : Nat) : Event → Nat
  | .write .. => lun
  | .boot_lun id => id

/-- The surroundings of the program, fixed for a run: zlib's `crc32`, the outcome of
    every `read` and `write` and of every other call that can fail, by the number of
    such calls made before it, the contents of fresh memory, and the file system. -/
structure Env where
  crc32 : Buffer → UInt32
  transfer : Nat → Transfer
  call : Nat → Bool
  heap : Nat → Nat → UInt8
  ro_boot_bootdevice : String
  stat : String → Bool
  readlink : String → Option String
  readdir : String → Option (List String)

/-- Reads and writes transfer everything or fail. -/
def Env.FullOrFail (env : Env) : Prop :=
  ∀ n, env.transfer n = .error ∨ env.transfer n = .full

/-- Nothing fails and reads and writes transfer everything. -/
structure Env.Working (env : Env) : Prop where
  transfer : ∀ n, env.transfer n = .full
  call : ∀ n, env.call n = true

theorem Env.Working.fullOrFail {env : Env} (h : env.Working) : env.FullOrFail :=
  fun n => .inr (h.transfer n)

/-- The state of the machine: the block devices by path, the boot LUN attribute, the
    numbers of transfers and of other fallible calls made so far, the lasting effects in
    program order, and for every transfer made how many bytes it was to move and how
    many it moved. -/
structure World where
  disks : String → Option Disk
  boot_lun : Nat
  transfers : Nat
  calls : Nat
  log : List Event
  moves : List (Nat × Option Nat)

/-- One more `read` or `write` has been made. -/
def World.transferred (w : World) (len : Nat) (moved : Option Nat) : World :=
  { w with transfers := w.transfers + 1, moves := w.moves ++ [(len, moved)] }

/-- One more of the other calls that can fail has been made. -/
def World.called (w : World) : World := { w with calls := w.calls + 1 }

/-- The event takes effect. -/
def World.record (w : World) (event : Event) : World :=
  { w with
    disks := fun fd => (w.disks fd).map fun disk => event.onDisk fd disk
    boot_lun := event.onLun w.boot_lun
    log := w.log ++ [event] }

/-- A function of the program: a fault, or a result and the machine after it. -/
abbrev Sys (A : Type) := EStateM Fault World A

/-- Memory accesses do not touch the machine. -/
def mem {A : Type} (access : Except Fault A) : Sys A := fun w =>
  match access with
  | .ok a => .ok a w
  | .error fault => .error fault w

/-- A call that can fail, of which nothing but its success matters. -/
def attempt (env : Env) : Sys Bool := fun w =>
  .ok (env.call w.calls) w.called

/-- `malloc`: memory with arbitrary contents, `none` for `NULL`. -/
def malloc (env : Env) (size : Nat) : Sys (Option Buffer) := fun w =>
  .ok (if env.call w.calls then some ((List.range size).map (env.heap w.calls)) else none) w.called

def calloc (env : Env) (size : Nat) : Sys (Option Buffer) := fun w =>
  .ok (if env.call w.calls then some (List.replicate size 0) else none) w.called

/-- `open` for reading and writing. A descriptor is the path it was opened on. -/
def open_device (env : Env) (path : String) : Sys (Option String) := fun w =>
  .ok (if env.call w.calls ∧ (w.disks path).isSome then some path else none) w.called

/-- `ioctl(fd, BLKSSZGET, &blk_size)`, `none` when it does not return 0. -/
def ioctl_BLKSSZGET (env : Env) (fd : String) : Sys (Option Nat) := fun w =>
  .ok (if env.call w.calls then (w.disks fd).map Disk.blk_size else none) w.called

/-- `lseek64(fd, 0, SEEK_END)`. -/
def lseek64_end (env : Env) (fd : String) : Sys Int := fun w =>
  .ok (if env.call w.calls then ((w.disks fd).map fun disk => (disk.bytes.length : Int)).getD (-1) else -1)
    w.called

/-- `lseek64(fd, offset, SEEK_SET)`, which a block device refuses beyond its end.
    An offset from `2 ^ 63` on is a negative one, and lies beyond it too. -/
def lseek64_set (fd : String) (offset : Nat) : Sys Int := fun w =>
  match w.disks fd with
  | some disk => .ok (if offset ≤ disk.bytes.length then (offset : Int) else -1) w
  | none => .ok (-1) w

/-- `read(fd, buf, len)` at the position `offset` that `lseek64` has set. -/
def read (env : Env) (fd : String) (offset : Nat) (buf : Buffer) (len : Nat) : Sys (Int × Buffer) :=
  fun w =>
    if buf.length < len then .error .out_of_bounds w
    else
      match w.disks fd with
      | none => .ok (-1, buf) (w.transferred len none)
      | some disk =>
        match (env.transfer w.transfers).moved (min len (disk.bytes.length - offset)) with
        | none => .ok (-1, buf) (w.transferred len none)
        | some count => .ok (count, patch buf 0 (disk.read offset count)) (w.transferred len (some count))

/-- `write(fd, buf, len)` at the position `offset` that `lseek64` has set. -/
def write (env : Env) (fd : String) (offset : Nat) (buf : Buffer) (len : Nat) : Sys Int := fun w =>
  if buf.length < len then .error .out_of_bounds w
  else
    match w.disks fd with
    | none => .ok (-1) (w.transferred len none)
    | some disk =>
      match (env.transfer w.transfers).moved (min len (disk.bytes.length - offset)) with
      | none => .ok (-1) (w.transferred len none)
      | some count =>
        .ok count ((w.transferred len (some count)).record (.write fd offset len (buf.take count)))

/-- Read or write `len` bytes from or to a block device: the result and the buffer
    afterwards. A count that is not negative is reported as 0, whatever it is. -/
def blk_rw (env : Env) (fd : String) (rw : Bool) (offset : Nat) (buf : Buffer) (len : Nat) :
    Sys (Int × Buffer) := do
  if (← lseek64_set fd offset) < 0 then
    return (-1, buf)
  -- an `int` holds every count that the kernel returns
  let mut r : Int := 0
  let mut buf := buf
  if rw then
    r ← write env fd offset buf len
  else
    (r, buf) ← read env fd offset buf len
  if r < 0 then
    return (r, buf)
  return (0, buf)

end gpt_utils
