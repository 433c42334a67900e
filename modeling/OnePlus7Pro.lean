import OnePlus7Pro.Regions.LittleEndian
import OnePlus7Pro.Regions.Slice
import OnePlus7Pro.Registers.Feedback
import OnePlus7Pro.Queues.Executor
import OnePlus7Pro.Texts.Separated
import OnePlus7Pro.Slider.SliderAction
import OnePlus7Pro.Slider.TorchRequests
import OnePlus7Pro.Slider.TriStateKey
import OnePlus7Pro.Effects.Agree
import OnePlus7Pro.Effects.Balance
import OnePlus7Pro.Effects.Moments
import OnePlus7Pro.Effects.Run
import OnePlus7Pro.Effects.Script
import OnePlus7Pro.Effects.Sweep
import OnePlus7Pro.Exchange.Pairs
import OnePlus7Pro.Twins.Protocol
import OnePlus7Pro.Gpt.ActSteps
import OnePlus7Pro.Gpt.BackupPairs
import OnePlus7Pro.Gpt.BootChainSpec
import OnePlus7Pro.Gpt.BootLun
import OnePlus7Pro.Gpt.Bursts
import OnePlus7Pro.Gpt.ChainBounds
import OnePlus7Pro.Gpt.ChainSwap
import OnePlus7Pro.Gpt.Copies
import OnePlus7Pro.Gpt.CopySteps
import OnePlus7Pro.Gpt.CopyWrites
import OnePlus7Pro.Gpt.CorruptAndFix
import OnePlus7Pro.Gpt.Entries
import OnePlus7Pro.Gpt.EntrySlots
import OnePlus7Pro.Gpt.Fields
import OnePlus7Pro.Gpt.Format
import OnePlus7Pro.Gpt.Header
import OnePlus7Pro.Gpt.HeaderAlgebra
import OnePlus7Pro.Gpt.HeaderBounds
import OnePlus7Pro.Gpt.HeaderSpec
import OnePlus7Pro.Gpt.Machine
import OnePlus7Pro.Gpt.NameSearch
import OnePlus7Pro.Gpt.Outcomes
import OnePlus7Pro.Gpt.PreparePartitions
import OnePlus7Pro.Gpt.Progress
import OnePlus7Pro.Gpt.Reading
import OnePlus7Pro.Gpt.Records
import OnePlus7Pro.Gpt.SlotBounds
import OnePlus7Pro.Gpt.SparseCrc32
import OnePlus7Pro.Gpt.StageRun
import OnePlus7Pro.Gpt.StageSpec
import OnePlus7Pro.Gpt.Syscalls
import OnePlus7Pro.Gpt.Transfers
import OnePlus7Pro.Gpt.WellFormed
import OnePlus7Pro.Handle.BackupView
import OnePlus7Pro.Handle.BothCopies
import OnePlus7Pro.Handle.DeviceReads
import OnePlus7Pro.Handle.EditCommit
import OnePlus7Pro.Handle.GptDisk
import OnePlus7Pro.Handle.GptDiskSpec
import OnePlus7Pro.Handle.HandleBounds
import OnePlus7Pro.Handle.InfoCalls
import OnePlus7Pro.Handle.MalformedGpt
import OnePlus7Pro.Handle.PartitionMap
import OnePlus7Pro.Handle.Provenance
import OnePlus7Pro.Update.BootLunAgreement
import OnePlus7Pro.Update.BootUpdate
import OnePlus7Pro.Update.Cycle
import OnePlus7Pro.Update.FailSafe
import OnePlus7Pro.Update.Frame
import OnePlus7Pro.Update.LunList
import OnePlus7Pro.Update.Reissue
import OnePlus7Pro.Update.Resume
import OnePlus7Pro.Update.SecondaryWrites
import OnePlus7Pro.Update.ShortTransfers
import OnePlus7Pro.Update.SystemRequests
import OnePlus7Pro.Update.SystemSafe
import OnePlus7Pro.Runs.Taken
import OnePlus7Pro.Runs.Teller
import OnePlus7Pro.Overlay.Cover
import OnePlus7Pro.Loops.IndexWalk
import OnePlus7Pro.Loops.KeyedVector
import OnePlus7Pro.Fod.FingerprintInscreen
import OnePlus7Pro.Fod.Service
import OnePlus7Pro.Fod.ViewRestores
import OnePlus7Pro.Fps.FPSInfoService
import OnePlus7Pro.Fall.FallSensorService
import OnePlus7Pro.Doze.CacheCoherence
import OnePlus7Pro.Doze.DozeSettings
import OnePlus7Pro.Doze.KeyHandler
import OnePlus7Pro.Doze.Parsers
import OnePlus7Pro.Doze.Pulses
import OnePlus7Pro.Doze.SensorBalance
import OnePlus7Pro.Doze.SettingsObserver
import OnePlus7Pro.Startup.AppSelectList
import OnePlus7Pro.Startup.Boots
import OnePlus7Pro.Startup.Choices
import OnePlus7Pro.Startup.GestureKeys
import OnePlus7Pro.Startup.PanelModes
import OnePlus7Pro.Startup.Restoration
import OnePlus7Pro.Startup.RestoredChoices
import OnePlus7Pro.Startup.RestoredGestures
import OnePlus7Pro.Vibrator.Discovery
import OnePlus7Pro.Vibrator.Durations
import OnePlus7Pro.Vibrator.InputFFDevice
import OnePlus7Pro.Vibrator.Operations
import OnePlus7Pro.Vibrator.Service
import OnePlus7Pro.Vibrator.Tracking
import OnePlus7Pro.Policy.AlarmMute
import OnePlus7Pro.Policy.CallGuard
import OnePlus7Pro.Policy.CaptureState
import OnePlus7Pro.Policy.ClosingLoops
import OnePlus7Pro.Policy.CompleteClosing
import OnePlus7Pro.Policy.DeviceConnection
import OnePlus7Pro.Policy.DirectOutputs
import OnePlus7Pro.Policy.FailedConnection
import OnePlus7Pro.Policy.HdmiGate
import OnePlus7Pro.Policy.InputRequests
import OnePlus7Pro.Policy.Inputs
import OnePlus7Pro.Policy.Offload
import OnePlus7Pro.Policy.OutputCustody
import OnePlus7Pro.Policy.PhoneState
import OnePlus7Pro.Policy.RecorderMix
import OnePlus7Pro.Policy.Requests
import OnePlus7Pro.Policy.Sources
import OnePlus7Pro.Policy.SuspendBalance
import OnePlus7Pro.Policy.Types
import OnePlus7Pro.Policy.VoiceVolume
import OnePlus7Pro.Display.RefreshRate
