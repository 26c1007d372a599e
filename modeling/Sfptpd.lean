import Sfptpd.Basic
import Sfptpd.Clockfeed.State
import Sfptpd.Clockfeed.Timer
import Sfptpd.Clockfeed.Registry
import Sfptpd.Clockfeed.Invariant
import Sfptpd.Clockfeed.Run
import Sfptpd.Clockfeed.Reader
import Sfptpd.Clockfeed.Interleave
import Sfptpd.Clockfeed.Compare
import Sfptpd.Clockfeed.Subscribe
import Sfptpd.Clockfeed.Cadence
import Sfptpd.Clockfeed.Shutdown
import Sfptpd.Clockfeed.Events
import Sfptpd.Clockfeed.Startup
import Sfptpd.Shm.State
import Sfptpd.Shm.Servo
import Sfptpd.Shm.Poll
import Sfptpd.Shm.Module
import Sfptpd.Shm.Startup
import Sfptpd.Shm.Timestamps
import Sfptpd.Shm.Gate
import Sfptpd.Shm.Report
import Sfptpd.Shm.TimeOfDay
import Sfptpd.Shm.Step
import Sfptpd.Shm.Config
import Sfptpd.Shm.Drain
import Sfptpd.Shm.InSync
