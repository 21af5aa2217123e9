import Dsme.Basic
import Dsme.Policy
import Dsme.Transition
import Dsme.Handlers
import Dsme.Boot
import Dsme.Hygiene
import Dsme.Announce
import Dsme.Invariant
import Dsme.Reachable
import Dsme.Progress
import Dsme.Emergency
import Dsme.Timers
import Dsme.Terminal
import Dsme.Requests
import Dsme.Malf
import Dsme.History
import Dsme.EnterMalf
import Dsme.System
import Dsme.Utility
import Dsme.Tool
import Dsme.Client
import Dsme.Direct
import Dsme.BatteryEmpty
