import WallController.Lib.Runs
import WallController.Lib.Chunks
import WallController.Bootloader.CanController
import WallController.Bootloader.Session
import WallController.Bootloader.Ctrl
import WallController.Bootloader.Image
import WallController.Bootloader.Packets
import WallController.Bootloader.Receive
import WallController.Bootloader.Finish
import WallController.Bootloader.Upgrade
import WallController.Bootloader.Transitions
import WallController.Bootloader.Marks
import WallController.Bootloader.Invariant
import WallController.Bootloader.Host
import WallController.Bootloader.Delivery
import WallController.Bootloader.Reassembly
import WallController.LittleFs.Bulk
import WallController.LittleFs.BulkInvariant
import WallController.LittleFs.Returned
import WallController.PCUart.Hub
import WallController.PCUart.Arbiter
import WallController.LittleFs.Lifecycle
import WallController.PCUart.Session
import WallController.LittleFs.Access
import WallController.AudioSrc.Record
import WallController.AudioSrc.Config
import WallController.AudioSrc.Effects
import WallController.AudioSrc.Selection
import WallController.AudioSrc.Agreement
import WallController.Host.BulkFile
import WallController.Host.SourceConfig
import WallController.AudioSrc.HostAgreement
import WallController.Bootloader.Responses
import WallController.Bootloader.Threads
import WallController.Bootloader.AcceptedUpdate
import WallController.Bootloader.Timeout
import WallController.Bootloader.SessionTimeout
import WallController.Bootloader.Recovery
import WallController.Bootloader.Isolation
import WallController.Lib.StartSequence
import WallController.PCUart.Framing
import WallController.Host.Framing
import WallController.PCUart.Transmit
import WallController.Host.Bridge
import WallController.LittleFs.Feeding
import WallController.LittleFs.Progress
import WallController.Lvgl.ScreenManager
import WallController.Lvgl.ScreenRequests
import WallController.CommManager.Threads
import WallController.CommManager.OneTransaction
import WallController.CommManager.Completion
import WallController.CommManager.Replies
import WallController.CommManager.Reports
import WallController.Bootloader.Blocks
import WallController.Bootloader.ReadBack
import WallController.ExtFlash.Driver
import WallController.ExtFlash.Refinement
import WallController.Lib.Mutex
import WallController.Lib.Concurrent
import WallController.Lib.LockDiscipline
import WallController.AudioSrc.Concurrent
import WallController.AudioSrc.Unique
import WallController.Lib.FileTree
import WallController.LittleFs.Volume
import WallController.LittleFs.Catalog
import WallController.LittleFs.CatalogWalk
import WallController.LittleFs.DirectoryDelete
import WallController.AudioSrc.RoundTrip
import WallController.LittleFs.FileWrite
import WallController.AudioSrc.FailedSave
import WallController.LittleFs.RejectedData
import WallController.LittleFs.CatalogInvariant
import WallController.LittleFs.ConcurrentDelete
import WallController.Bootloader.InfoFrames
import WallController.Bootloader.InfoThreads
import WallController.Bootloader.InfoSequence
import WallController.Bootloader.InfoRetries
import WallController.LittleFs.TargetFile
import WallController.LittleFs.TransferOutcome
import WallController.Lib.Crc
import WallController.Crc16Bits
import WallController.LittleFs.BurstErrors
import WallController.Lib.Decoder
import WallController.Host.AdcDecoder
import WallController.Lvgl.AudioSrcScreen
import WallController.Lvgl.PressTicks
import WallController.CommManager.RetryBound
import WallController.CommManager.Calls
import WallController.CommManager.MutexBalance
import WallController.Host.ConfigCodec
import WallController.Lvgl.PendingVolume
import WallController.Lib.Sequential
import WallController.AudioSrc.Alone
import WallController.AudioSrc.Load
import WallController.AudioSrc.Updates
import WallController.Host.FileTransfer
import WallController.Host.BackPressure
import WallController.Lib.DelayedWork
import WallController.Lvgl.UnmuteInvariant
import WallController.Lvgl.UnmuteProgress
import WallController.Lvgl.MenuNavigation
import WallController.Lvgl.SourceWork
import WallController.Lvgl.InputController
import WallController.ExtFlash.Transfers
import WallController.ExtFlash.TransferResults
import WallController.Lvgl.AnimatorTexts
import WallController.WallCtrl.Startup
import WallController.ExtFlash.Setup
import WallController.Bootloader.SentFrames
import WallController.Bootloader.UpdateRecovery
