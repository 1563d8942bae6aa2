import Gorb.Drivers
import Gorb.Options
import Gorb.Context
import Gorb.Notification
import Gorb.Store
import Gorb.Run
import Gorb.Keeps
import Gorb.Effects
import Gorb.Compose
import Gorb.Monitors
import Gorb.Weights
import Gorb.Errors
import Gorb.Kernel
import Gorb.Reconcile
import Gorb.Rounds
import Gorb.Diff
import Gorb.Health
import Gorb.LocalStore
import Gorb.NewStore
import Gorb.Ranges
import Gorb.Frames
import Gorb.Converge
import Gorb.Api
import Gorb.Daemon
import Gorb.Settle
import Gorb.Stash
import Gorb.Contract
