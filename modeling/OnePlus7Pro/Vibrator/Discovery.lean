import OnePlus7Pro.Vibrator.Durations

namespace vibrator

def FF_PERIODIC : Nat := 0x51
def FF_CONSTANT : Nat := 0x52
def FF_CUSTOM : Nat := 0x5d
def FF_GAIN : Nat := 0x60

def INPUT_DIR : String := "/dev/input/"

/-- What `EVIOCGBIT` writes over the whole bit mask of the constructor. -/
abbrev FFBitmask := BitVec 128

def test_bit (bit : Nat) (array : FFBitmask) : Bool := array.getLsbD bit

/-- The input devices: the names that `readdir` lists, the descriptor that `open` returns for a
    path, and the force-feedback bits that `EVIOCGBIT` reads of it, where they succeed. -/
structure InputDevices where
  readdir : List String
  opens : String → Option Nat
  EVIOCGBIT : String → Option FFBitmask

/-- The device that the constructor leaves, with the descriptors that it has opened and
    closed, in order. -/
structure Discovered where
  mVibraFd : Int
  mSupportGain : Bool
  mSupportEffects : Bool
  mSupportExternalControl : Bool
  opened : List Nat
  closed : List Nat
  deriving DecidableEq

/-- The fields as the constructor sets them first. -/
def Discovered.nothing : Discovered where
  mVibraFd := INVALID_VALUE
  mSupportGain := false
  mSupportEffects := false
  mSupportExternalControl := false
  opened := []
  closed := []

/-- The loop over the directory. -/
def InputFFDevice.scan (devices : InputDevices) : List String → Discovered → Discovered
  | [], self => self
  | d_name :: names, self =>
    if d_name = "." ∨ d_name = ".." then scan devices names self
    else
      let devicename := INPUT_DIR ++ d_name
      match devices.opens devicename with
      | none => scan devices names self
      | some fd =>
        let self := { self with opened := self.opened ++ [fd] }
        match devices.EVIOCGBIT devicename with
        | none => scan devices names { self with closed := self.closed ++ [fd] }
        | some ffBitmask =>
          if test_bit FF_CONSTANT ffBitmask || test_bit FF_PERIODIC ffBitmask then
            { self with
              mVibraFd := fd
              mSupportEffects := test_bit FF_CUSTOM ffBitmask
              mSupportGain := test_bit FF_GAIN ffBitmask
              mSupportExternalControl := true }
          else scan devices names { self with closed := self.closed ++ [fd] }

/-- The constructor of the device; there are no devices where `opendir` fails. -/
def InputFFDevice.discover : Option InputDevices → Discovered
  | none => Discovered.nothing
  | some devices => InputFFDevice.scan devices devices.readdir Discovered.nothing

/-- The descriptor under which an entry of the directory is opened. -/
def InputDevices.descriptor (devices : InputDevices) (d_name : String) : Option Nat :=
  if d_name = "." ∨ d_name = ".." then none else devices.opens (INPUT_DIR ++ d_name)

/-- The force-feedback bits of an entry that can vibrate. -/
def InputDevices.vibrates (devices : InputDevices) (d_name : String) : Option FFBitmask :=
  if (devices.descriptor d_name).isSome then
    (devices.EVIOCGBIT (INPUT_DIR ++ d_name)).filter fun ffBitmask =>
      test_bit FF_CONSTANT ffBitmask || test_bit FF_PERIODIC ffBitmask
  else none

/-- The device kept is the first entry that vibrates, with the features of its bits, and
    every other descriptor opened up to it has been closed. -/
structure Discovered.FirstOf (devices : InputDevices) (names : List String) (self : Discovered) : Prop where
  absent : (∀ d_name ∈ names, devices.vibrates d_name = none) →
    self.mVibraFd = INVALID_VALUE ∧ self.mSupportGain = false ∧ self.mSupportEffects = false ∧
      self.mSupportExternalControl = false ∧ self.closed = names.filterMap devices.descriptor ∧
      self.opened = self.closed
  present : ∀ before d_name after ffBitmask, names = before ++ d_name :: after →
    (∀ other ∈ before, devices.vibrates other = none) → devices.vibrates d_name = some ffBitmask →
    ∃ fd : Nat, devices.descriptor d_name = some fd ∧ self.mVibraFd = fd ∧
      self.mSupportGain = test_bit FF_GAIN ffBitmask ∧ self.mSupportEffects = test_bit FF_CUSTOM ffBitmask ∧
      self.mSupportExternalControl = true ∧ self.closed = before.filterMap devices.descriptor ∧
      self.opened = self.closed ++ [fd]

variable {devices : InputDevices} (self : Discovered)

/-- The loop passes over an entry that does not vibrate, having closed what it has opened. -/
theorem scan_passes {d_name : String} (hno : devices.vibrates d_name = none) (names : List String) :
    InputFFDevice.scan devices (d_name :: names) self =
      InputFFDevice.scan devices names { self with
        opened := self.opened ++ (devices.descriptor d_name).toList
        closed := self.closed ++ (devices.descriptor d_name).toList } := by
  rw [InputFFDevice.scan]
  unfold InputDevices.vibrates InputDevices.descriptor at *
  by_cases hdots : d_name = "." ∨ d_name = ".."
  · simp [hdots]
  · rw [if_neg hdots] at hno ⊢
    cases hopens : devices.opens (INPUT_DIR ++ d_name) with
    | none => simp [hdots, hopens]
    | some fd =>
      rw [hopens] at hno
      cases hbits : devices.EVIOCGBIT (INPUT_DIR ++ d_name) with
      | none => simp [hdots, hopens, hbits]
      | some ffBitmask =>
        rw [hbits] at hno
        have hnot : (test_bit FF_CONSTANT ffBitmask || test_bit FF_PERIODIC ffBitmask) = false := by
          simpa using hno
        simp [hdots, hopens, hbits, hnot]

/-- The loop stops at an entry that vibrates. -/
theorem scan_stops {d_name : String} {ffBitmask : FFBitmask} (hvibrates : devices.vibrates d_name = some ffBitmask)
    (names : List String) :
    ∃ fd : Nat, devices.descriptor d_name = some fd ∧
      InputFFDevice.scan devices (d_name :: names) self = { self with
        opened := self.opened ++ [fd]
        mVibraFd := fd
        mSupportEffects := test_bit FF_CUSTOM ffBitmask
        mSupportGain := test_bit FF_GAIN ffBitmask
        mSupportExternalControl := true } := by
  rw [InputFFDevice.scan]
  unfold InputDevices.vibrates at hvibrates
  split at hvibrates
  case isFalse => cases hvibrates
  case isTrue hsome =>
    obtain ⟨fd, hfd⟩ := Option.isSome_iff_exists.mp hsome
    obtain ⟨hbits, hyes⟩ := Option.filter_eq_some_iff.mp hvibrates
    refine ⟨fd, hfd, ?_⟩
    unfold InputDevices.descriptor at hfd
    split at hfd
    case isTrue => cases hfd
    case isFalse hdots =>
      simp [hdots, hfd, hbits, hyes]

theorem scan_passes_all {before : List String} (hno : ∀ other ∈ before, devices.vibrates other = none)
    (names : List String) :
    InputFFDevice.scan devices (before ++ names) self =
      InputFFDevice.scan devices names { self with
        opened := self.opened ++ before.filterMap devices.descriptor
        closed := self.closed ++ before.filterMap devices.descriptor } := by
  induction before generalizing self with
  | nil => simp
  | cons d_name before ih =>
    rw [List.forall_mem_cons] at hno
    rw [List.cons_append, scan_passes _ hno.1, ih _ hno.2, List.filterMap_cons]
    cases devices.descriptor d_name <;> simp

/-- Whatever devices there are, the constructor keeps the first that vibrates and closes
    every other descriptor that it has opened. -/
theorem InputFFDevice.discover_first (devices : InputDevices) :
    (InputFFDevice.discover (some devices)).FirstOf devices devices.readdir := by
  refine ⟨fun hno => ?_, fun before d_name after ffBitmask hnames hno hvibrates => ?_⟩
  · have h := scan_passes_all Discovered.nothing hno []
    rw [List.append_nil] at h
    rw [InputFFDevice.discover, h]
    exact ⟨rfl, rfl, rfl, rfl, rfl, rfl⟩
  · obtain ⟨fd, hfd, hscan⟩ := scan_stops { Discovered.nothing with
      opened := before.filterMap devices.descriptor
      closed := before.filterMap devices.descriptor } hvibrates after
    refine ⟨fd, hfd, ?_⟩
    have h := scan_passes_all Discovered.nothing hno (d_name :: after)
    rw [InputFFDevice.discover, hnames, h]
    simp only [Discovered.nothing, List.nil_append] at hscan ⊢
    rw [hscan]
    exact ⟨rfl, rfl, rfl, rfl, rfl, rfl⟩

end vibrator
