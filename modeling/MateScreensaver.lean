import MateScreensaver.Lib.Runs
import MateScreensaver.Watcher
import MateScreensaver.Idle
import MateScreensaver.Job
import MateScreensaver.Lib.Scan
import MateScreensaver.Manager
import MateScreensaver.Lib.Table
import MateScreensaver.Listener
import MateScreensaver.Bus
import MateScreensaver.Step
import MateScreensaver.LockScreen
import MateScreensaver.Refinement
import MateScreensaver.Activation
import MateScreensaver.Agreement
import MateScreensaver.Handlers
import MateScreensaver.Events
import MateScreensaver.Lock
import MateScreensaver.Dialog
import MateScreensaver.Registry
import MateScreensaver.RegistryRefinement
import MateScreensaver.Throttle
import MateScreensaver.Lib.Ledger
import MateScreensaver.Clients
import MateScreensaver.Isolation
import MateScreensaver.Behaviour
import MateScreensaver.Hotplug
import MateScreensaver.Lifetime
import MateScreensaver.Settings
import MateScreensaver.Parts
import MateScreensaver.Dispatch
import MateScreensaver.Attention
import MateScreensaver.Roster
import MateScreensaver.Pointer
import MateScreensaver.Seat
import MateScreensaver.LiveWindows
import MateScreensaver.SaverJobs
import MateScreensaver.Activity
import MateScreensaver.LockRequest
import MateScreensaver.Proxy
import MateScreensaver.LockDue
import MateScreensaver.Lit
import MateScreensaver.Lib.Pixels
import MateScreensaver.Geometry
import MateScreensaver.AuthDialog
import MateScreensaver.UnlockDecision
import MateScreensaver.ReleaseTimer
import MateScreensaver.Replies
import MateScreensaver.Mirror
import MateScreensaver.StatusMessage
import MateScreensaver.Apart
import MateScreensaver.SleepLock
import MateScreensaver.BusLink
import MateScreensaver.Lib.Process
import MateScreensaver.PamVerdict
import MateScreensaver.AuthMessage
import MateScreensaver.HandOver
import MateScreensaver.Lib.Words
import MateScreensaver.HelperProto
import MateScreensaver.ExtRun
import MateScreensaver.PamHelper
import MateScreensaver.Conversation
import MateScreensaver.Delivery
import MateScreensaver.BackEnds
import MateScreensaver.HackUid
import MateScreensaver.Lib.Credentials
import MateScreensaver.SettingsStore
import MateScreensaver.Fade
import MateScreensaver.JobLife
import MateScreensaver.Lib.Behaviour
import MateScreensaver.Truncation
import MateScreensaver.Framing
import MateScreensaver.Lib.Pipe
import MateScreensaver.Restore
import MateScreensaver.ConverseMemory
import MateScreensaver.InProcess
import MateScreensaver.Lib.Shell
import MateScreensaver.DialogCommand
import MateScreensaver.TypeAhead
import MateScreensaver.Coverage
import MateScreensaver.CyclePeriod
import MateScreensaver.GrabMove
import MateScreensaver.FadeSetup
import MateScreensaver.FadeDone
import MateScreensaver.SpawnEnv
import MateScreensaver.UriList
import MateScreensaver.ThemeCopy
import MateScreensaver.Lib.Utf8
import MateScreensaver.LabelText
import MateScreensaver.Utf8Repair
import MateScreensaver.StringArray
import MateScreensaver.Starfield
import MateScreensaver.Slideshow
import MateScreensaver.SlideshowFade
import MateScreensaver.SlideshowPipeline
import MateScreensaver.SlideshowFiles
import MateScreensaver.Lib.Descent
import MateScreensaver.DirScan
import MateScreensaver.Lib.CString
import MateScreensaver.XdgUserDir
import MateScreensaver.Lib.Timeouts
import MateScreensaver.LockPlug
import MateScreensaver.LockPlugTimers
import MateScreensaver.LockPlugKeys
import MateScreensaver.LockPlugRefinement
import MateScreensaver.ThemeManager
import MateScreensaver.ThemeJobs
import MateScreensaver.Lib.ShellLine
import MateScreensaver.JobCommand
import MateScreensaver.ThemeChoice
import MateScreensaver.Lib.Sorting
import MateScreensaver.ThemeList
import MateScreensaver.Lib.Numeral
import MateScreensaver.XIds
import MateScreensaver.Motion
import MateScreensaver.Lib.Client
import MateScreensaver.Command
import MateScreensaver.Lib.Hexcone
import MateScreensaver.Popsquares
import MateScreensaver.Lib.Bezier
import MateScreensaver.Floaters
import MateScreensaver.FloatersWindow
import MateScreensaver.FloatersPaths
import MateScreensaver.Lib.Binding
import MateScreensaver.PrefsDialog
import MateScreensaver.TimeText
