import Sfptpd.Basic

/-!
# The SHM sync module's data model (shm/sfptpd_shm_module.c:43–230)

The module thread owns a list of instances, one for each configured SHM
source and each bound to its own local reference clock, and one record for
the time-of-day module shared by all of them. A handler is a function of an
instance and the shared record; it returns them changed, and the list of
effects it has outside the module (`ShmEffect`): reports to the engine,
servo updates, clock adjustments, periods fed to the filters.

The filters, the convergence measure, the clock driver and the time-of-day
module are code outside `src/`: what a handler learns from them is an input
(`PollInput`), one field for each call, so a theorem about the handlers holds
whatever they answer. Only the notch filter, whose behaviour the spec fixes,
is modelled from the spec (`notchFilterAccepts`).

- `ShmState`: the three states an instance takes; the other values of
  `sfptpd_sync_module_state_t` reach only the `assert(false)` defaults;
- `StampedTime`: an event timestamp with the number of steps of the
  instance's clock made before it was read, a ghost of the model;
- `Instance`, `TimeOfDay`, `ShmModule`: `struct sfptpd_shm_instance` and
  `shm_module_t`, with the fields the modelled handlers read or write.
-/

namespace Sfptpd.Shm

/-- `sfptpd_sync_module_state_t`, as the time-of-day module reports it. -/
inductive SyncState
  | listening
  | slave
  | master
  | passive
  | disabled
  | faulty
  | selection
deriving DecidableEq, Repr

/-- The states an SHM instance takes (`instance->state`). -/
inductive ShmState
  | listening
  | slave
  | faulty
deriving DecidableEq, Repr

/-- The alarm bits the module raises; no other bit of
`sfptpd_sync_module_alarms_t` is ever set in an instance. -/
structure Alarms where
  shmNoSignal : Bool
  shmSeqNumError : Bool
  shmBadSignal : Bool
  noTimeOfDay : Bool
deriving DecidableEq, Repr

/-- `alarms = 0`. -/
def Alarms.none : Alarms := ⟨false, false, false, false⟩

/-- The control flags the module reads, bit by bit. -/
structure CtrlFlags where
  timestampProcessing : Bool
  clockCtrl : Bool
  clusteringDeterminant : Bool
deriving DecidableEq, Repr

/-- `SYNC_MODULE_CTRL_FLAGS_DEFAULT`: "de-selected and with clock control
disabled but with timestamp processing enabled" (line 2188). -/
def CtrlFlags.default : CtrlFlags := ⟨true, false, false⟩

/-- `(ctrl_flags & ~mask) | (flags & mask)` (lines 1943–1945), bit by bit. -/
def CtrlFlags.update (old flags mask : CtrlFlags) : CtrlFlags where
  timestampProcessing := old.timestampProcessing && !mask.timestampProcessing ||
    flags.timestampProcessing && mask.timestampProcessing
  clockCtrl := old.clockCtrl && !mask.clockCtrl || flags.clockCtrl && mask.clockCtrl
  clusteringDeterminant := old.clusteringDeterminant && !mask.clusteringDeterminant ||
    flags.clusteringDeterminant && mask.clusteringDeterminant

/-- `enum sfptpd_clock_ctrl`, as `shm_servo_update` tests it; `other` is
every policy it does not name. -/
inductive ClockCtrl
  | slewAndStep
  | stepAtStartup
  | stepForward
  | other
deriving DecidableEq, Repr

/-- An SHM event timestamp and, as a ghost, the number of steps of the
instance's clock made before it was read. -/
structure StampedTime where
  time : Timespec
  steps : Nat
deriving DecidableEq, Repr

/-- What the handlers read of `struct sfptpd_shm_module_config`, the general
configuration and the clock: the SHM delay in ns, the clock-control policy,
the clock's largest frequency adjustment, and whether an outlier filter was
created. -/
structure InstanceConfig where
  propagationDelay : Int
  clockCtrl : ClockCtrl
  freqAdjustMax : Int
  outlierFilter : Bool
deriving DecidableEq, Repr

/-- `struct sfptpd_shm_instance` (lines 97–230). The `long double` offsets,
periods and frequencies are whole nanoseconds and ppb. -/
structure Instance where
  config : InstanceConfig
  clock : Nat
  pollFd : Int
  ctrlFlags : CtrlFlags
  state : ShmState
  alarms : Alarms
  lastShmTime : Timespec
  instanceStartedTime : Timespec
  instanceHasStarted : Bool
  shmPulseCheckTimerExpired : Bool
  shmTimestamp : StampedTime
  shmSeqNum : Nat
  offsetFromMasterNs : Int
  freqAdjustBase : Int
  freqAdjustPpb : Int
  servoActive : Bool
  shmPeriodNs : Int
  synchronized : Bool
  prevState : ShmState
  prevAlarms : Alarms
  consecutiveGoodPeriods : Nat
  clusteringScore : Int
  prevClusteringScore : Int
  stepOccurred : Bool
  bogusShmEvents : Bool
  /-- Ghost: the steps of the instance's clock made so far. -/
  steps : Nat
deriving DecidableEq, Repr

/-- `sfptpd_sync_instance_status_t`, as far as the module reads it of the
time-of-day module. -/
structure TodStatus where
  state : SyncState
  offsetFromMaster : Timespec
deriving DecidableEq, Repr

/-- `shm->time_of_day` (lines 80–90); `sourceFound` is
`time_of_day.source.module != NULL`. -/
structure TimeOfDay where
  sourceFound : Bool
  nextPollTime : Timespec
  status : TodStatus
deriving DecidableEq, Repr

/-- `shm_module_t` with the instances it reaches, in list order. -/
structure ShmModule where
  instances : List Instance
  timeOfDay : TimeOfDay
  timersStarted : Bool
deriving DecidableEq, Repr

/-! ## What the handlers do outside the module -/

/-- An effect of a handler. -/
inductive ShmEffect
  /-- `sfptpd_engine_sync_instance_state_changed` with the state, alarms and
  clustering score of the status it sends. -/
  | stateChanged (state : ShmState) (alarms : Alarms) (clusteringScore : Int)
  /-- A period computed by `shm_on_shm_event` from the event's timestamp and
  the one recorded before it, with the notch filter's verdict. -/
  | period (newer older : StampedTime) (accepted : Bool)
  /-- `sfptpd_peirce_filter_update(outlier_filter, shm_period_ns)`. -/
  | outlier (periodNs : Int) (accepted : Bool)
  /-- `shm_servo_update` on an event timestamp, with the time-of-day offset it
  is given. -/
  | servoUpdate (time : StampedTime) (timeOfDay : Timespec)
  /-- `sfptpd_clock_adjust_time(instance->clock, offset)`. -/
  | adjustTime (offset : Timespec)
  /-- `sfptpd_clock_adjust_frequency(instance->clock, ppb)`. -/
  | adjustFrequency (ppb : Int)
  /-- `sfptpd_sync_module_step_clock` on the time-of-day module. -/
  | stepTimeOfDay
  /-- `sfptpd_clockfeed_require_fresh` on the feed of the instance's clock. -/
  | requireFresh (clock : Nat)
deriving DecidableEq, Repr

/-! ## What the handlers learn from outside -/

/-- What `sfptpd_clock_shm_get` returns: an event, `EAGAIN`, or another
error. -/
inductive ShmGet
  | event (seqNum : Nat) (time : Timespec)
  | again
  | error (rc : Int)
deriving DecidableEq, Repr

/-- The return code of a `ShmGet`. -/
def ShmGet.rc : ShmGet → Int
  | .event _ _ => 0
  | .again => EAGAIN
  | .error rc => rc

/-- What one `shm_do_poll` learns from outside the module, one field for each
call it makes. -/
structure PollInput where
  /-- `sfptpd_clock_shm_get`. -/
  get : ShmGet
  /-- `shm_test_mode_bogus_event`, used when the test mode is on and `get` is
  `EAGAIN`. -/
  bogusGet : ShmGet
  /-- `CLOCK_MONOTONIC` in `shm_on_no_shm_event`. -/
  monoNoEvent : Timespec
  /-- `CLOCK_MONOTONIC` at the end of `shm_on_shm_event`. -/
  monoEvent : Timespec
  /-- `CLOCK_MONOTONIC` in `shm_time_of_day_poll`. -/
  monoTod : Timespec
  /-- `CLOCK_MONOTONIC` in `shm_time_of_day_init`. -/
  monoTodInit : Timespec
  /-- `CLOCK_MONOTONIC` in `shm_convergence_update`; `none` when it fails. -/
  monoConvergence : Option Timespec
  /-- `sfptpd_peirce_filter_update(...) == 0`. -/
  outlierAccepts : Bool
  /-- `sfptpd_fir_filter_update`. -/
  firMean : Int
  /-- `sfptpd_pid_filter_update`. -/
  pidOutput : Int
  /-- `sfptpd_clock_get_freq_correction` when a step resets the servo. -/
  freqCorrection : Int
  /-- Whether `shm_time_of_day_init` finds the time-of-day module. -/
  todLookup : Bool
  /-- `sfptpd_sync_module_get_status` of the time-of-day module; `none` when
  it fails. -/
  todStatus : Option TodStatus
  /-- `sfptpd_clockfeed_compare(instance->feed, NULL, &system_to_nic, ...)`;
  `none` when it fails. -/
  systemToNic : Option Timespec
  /-- `sfptpd_stats_convergence_update`. -/
  converged : Bool
  /-- The clustering evaluator's `calc_fn`. -/
  clusteringScore : Int
deriving DecidableEq, Repr

/-- Modelled from the spec: `sfptpd_notch_filter_update` (sfptpd_filter.c,
not under src/) with the SHM mid point `1e9` ns and width `1e8` ns: the period
passes when it lies in `[mid − width, mid + width]`. -/
def notchFilterAccepts (periodNs : Int) : Bool :=
  decide (1000000000 - 100000000 ≤ periodNs ∧ periodNs ≤ 1000000000 + 100000000)

/-! ## Constants -/

/-- `SHM_REQUIRED_GOOD_PERIODS`. -/
def shmRequiredGoodPeriods : Nat := 3

/-- `SHM_CLOCK_STEP_THRESHOLD`, in ns. -/
def shmClockStepThreshold : Int := 500000000

/-- `shm_timeout_interval`: 60 s without an event returns to LISTENING. -/
def shmTimeoutInterval : Timespec := ⟨60, 0⟩

/-- `shm_pulse_timeout_interval`. -/
def shmPulseTimeoutInterval : Timespec := ⟨8, 0⟩

/-- `shm_alarm_interval`: 1.1 s without an event raises `SHM_NO_SIGNAL`. -/
def shmAlarmInterval : Timespec := ⟨1, 100000000⟩

/-- `UINT32_MAX`, the sequence number of a driver without sequence numbers. -/
def uint32Max : Nat := 4294967295

end Sfptpd.Shm
