import InputServer.Library.Program
import InputServer.Receive
import InputServer.ReceiveProofs
import InputServer.Socket
import InputServer.SocketStream
import InputServer.Library.Run
import InputServer.SocketEvents
import InputServer.SocketHistory
import InputServer.SocketDevices
import InputServer.SocketConvergence
import InputServer.World
import InputServer.Deliver
import InputServer.PluginRecords
import InputServer.Routing
import InputServer.Switch
import InputServer.Inject
import InputServer.Lifecycle
import InputServer.Commands
import InputServer.Library.Trace
import InputServer.History
import InputServer.SocketFrame
import InputServer.Routed
import InputServer.RoutedSteps
import InputServer.XenEvent
import InputServer.Library.CountedRing
import InputServer.XenRing
import InputServer.XenIsolation
import InputServer.RoutedDeliver
import InputServer.RoutedRouting
import InputServer.RoutedSwitch
import InputServer.RoutedInject
import InputServer.Living
import InputServer.LivingSteps
import InputServer.SwitchOutcome
import InputServer.Departures
import InputServer.Arrivals
import InputServer.Enrolment
import InputServer.PluginProofs
import InputServer.Operations
import InputServer.Reachable
import InputServer.ReportedFocus
import InputServer.SoundPointers
import InputServer.FocusRequests
import InputServer.Refusals
import InputServer.HeldKeys
import InputServer.Library.Output
import InputServer.PasswordChecked
import InputServer.AuthReturns
import InputServer.AuthEffects
import InputServer.HashFiles
import InputServer.Library.Lockstep
import InputServer.ProgressReports
import InputServer.LockFlags
import InputServer.SingleTouch
import InputServer.Devices
import InputServer.Watches
import InputServer.Library.Intern
import InputServer.ModifierTable
import InputServer.PressedButtons
import InputServer.Library.Bitmask
import InputServer.ShortcutFilter
import InputServer.FilterRuns
import InputServer.ButtonAlternation
import InputServer.SplitDelivery
import InputServer.SecureContext
import InputServer.Library.Blame
import InputServer.NullChecks
import InputServer.WakeRouting
import InputServer.DivertedMotion
import InputServer.Library.Utf16
import InputServer.PasswordEncoding
import InputServer.FrameScaling
import InputServer.RepeatedClicks
import InputServer.UnknownSenders
import InputServer.Hotkeys
import InputServer.SwallowedKeys
import InputServer.CredentialFields
import InputServer.LeftHashes
import InputServer.Deliveries
import InputServer.DualDelivery
import InputServer.ButtonHold
import InputServer.ClickHold
import InputServer.HeldClicks
import InputServer.Library.Loop
import InputServer.Touchpad
import InputServer.TouchpadPackets
import InputServer.TapClicks
import InputServer.TouchpadButtons
import InputServer.ClickpadClicks
import InputServer.RangeAdjustment
import InputServer.EdgeScrolling
import InputServer.Gestures
import InputServer.Library.Stages
import InputServer.SwipeGestures
import InputServer.Tablet
import InputServer.DroppedPackets
import InputServer.SlotCycling
import InputServer.DeviceConfig
import InputServer.HidReports
import InputServer.DriverWhitelist
import InputServer.EncodingBounds
import InputServer.GestureBounds
import InputServer.TouchSlots
import InputServer.ContactPairs
import InputServer.BesidePlugin
import InputServer.PluginOutput
import InputServer.SharedSlot
import InputServer.PluginSelection
import InputServer.Library.Fifo
import InputServer.HidGadget
import InputServer.HidWrites
import InputServer.HidReads
import InputServer.HidPipeline
import InputServer.LockedSessions
import InputServer.IdleLock
