import Clight.Machine
import Clight.Message
import Clight.Pause
import Clight.Timer
import Clight.Ctx
import Clight.Curve
import Clight.Backlight
import Clight.Screen
import Clight.BacklightFrame
import Clight.BacklightSpec
import Clight.Core
import Clight.CoreRuns
import Clight.Opts
import Clight.Startup
import Clight.ScreenFrame
import Clight.TimeoutPause
import Clight.AutoCalib
import Clight.LockTable
import Clight.LockAccounting
import Clight.Inhibit
import Clight.InhibitRuns
import Clight.Daytime
import Clight.DaytimeAlarm
import Clight.Gamma
import Clight.Hotplug
import Clight.Config
import Clight.CheckConf
import Clight.ConfigRoundTrip
import Clight.Keyboard
import Clight.Idle
import Clight.Timeouts
import Clight.TimeoutBatch
import Clight.CountedFlag
import Clight.Pm
import Clight.HeldFlags
import Clight.Pausables
import Clight.PausedSettings
import Clight.Display
import Clight.Modules
import Clight.PauseBits
import Clight.PauseBitsIdle
import Clight.PauseFacts
import Clight.CurveRange
import Clight.Levels
import Clight.Calibration
import Clight.History
import Clight.Clogged
import Clight.Transitions
import Clight.Armed
import Clight.IdleClient
import Clight.IdleRuns
import Clight.Dimming
import Clight.Docking
import Clight.SharedRequest
import Clight.UpowerRuns
import Clight.LidRuns
import Clight.DpmsRuns
import Clight.ScreenRuns
import Clight.PmLock
import Clight.Location
import Clight.LocationRuns
import Clight.GammaRuns
import Clight.ConfChecks
import Clight.ConfApi
import Clight.ConfStores
import Clight.ConfRuns
import Clight.AssocMap
import Clight.RestoreRuns
import Clight.CalibrationRuns
import Clight.KeyboardResume
import Clight.NameOwner
import Clight.SmoothTargets
import Clight.TimeoutWrites
import Clight.DaytimeEvents
import Clight.FixedDuration
import Clight.LongTransition
import Clight.WaitedTime
import Clight.EventOffsets
import Clight.Sun
import Clight.CheckNormal
import Clight.ContentLevel
import Clight.ToggleRuns
import Clight.DaytimeTimer
import Clight.LocationWrites
import Clight.HotplugNames
import Clight.OverrideCalls
import Clight.CurveFits
import Clight.CurveMessages
import Clight.Wizard
import Clight.WizardRuns
import Clight.HoldSet
import Clight.PauseCalls
import Clight.CurvePlot
import Clight.ResetTimer
import Clight.AmbientGamma
import Clight.Properties
import Clight.PropertyTracks
import Clight.Watch
import Clight.PropertyRuns
import Clight.Layers
import Clight.Settings
import Clight.InitOpts
import Clight.Restart
import Clight.FlagSources
import Clight.SuspendRuns
import Clight.PmInhibition
import Clight.ConfWrites
import Clight.LastWrites
import Clight.GammaDay
import Clight.Distance
import Clight.Hysteresis
import Clight.LocationMoves
import Clight.DecimalText
import Clight.LocationCache
import Clight.KeyboardLevel
import Clight.Costs
import Clight.Network
import Clight.Bus
import Clight.BusRuns
import Clight.BusConf
