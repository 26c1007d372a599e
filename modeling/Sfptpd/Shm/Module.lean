import Sfptpd.Shm.Poll

/-!
# The module thread's handlers and its runs (shm/sfptpd_shm_module.c:1812–2436)

- `shmOnTimer`: every 250 ms, for each instance in list order, the pulse
  check and then, in polling mode (`poll_fd = -1`), `shm_do_poll` until the
  driver has no more events; in file-descriptor mode only
  `shm_on_no_shm_event`;
- `shmOnUserFds`: one `shm_do_poll` for each instance whose descriptor fired;
- `shmOnMessage`: the sync-module messages; only `CONTROL`, `STEP_CLOCK`,
  `TEST_MODE` and `RUN` change the module;
- `Reachable`: the states reached from `shm_on_startup` by any sequence of
  handlers, timer ticks and descriptor events only once `RUN` has started
  them.

A poll loop is given the driver results it meets as a list; a list that ends
on an event stands for a loop the model cuts short, so the runs of the model
include every run of the code.
-/

namespace Sfptpd.Shm

/-- The SHM pulse check at the start of an instance's turn in `shm_on_timer`
(lines 1822–1843), at monotonic time `now`. -/
def shmPulseCheck (now : Timespec) (i : Instance) : Instance :=
  if !i.instanceHasStarted then { i with instanceHasStarted := true, instanceStartedTime := now }
  else if !i.shmPulseCheckTimerExpired && (now.sub i.instanceStartedTime).ge shmPulseTimeoutInterval then
    { i with
      shmPulseCheckTimerExpired := true
      alarms := if i.consecutiveGoodPeriods < shmRequiredGoodPeriods then
        { i.alarms with shmNoSignal := true } else i.alarms }
  else i

@[simp] theorem shmPulseCheck_pollFd (now : Timespec) (i : Instance) : (shmPulseCheck now i).pollFd = i.pollFd := by
  unfold shmPulseCheck
  split_ifs <;> rfl

/-- The loop `do rc = shm_do_poll(...) while (rc == 0)` over the driver
results it meets. -/
def pollLoop : List PollInput → TimeOfDay → Instance → TimeOfDay × Instance × List ShmEffect
  | [], tod, i => (tod, i, [])
  | p :: ps, tod, i =>
    let r := shmDoPoll p tod i
    if r.2.2.2 = 0 then
      let r' := pollLoop ps r.1 r.2.1
      (r'.1, r'.2.1, r.2.2.1 ++ r'.2.2)
    else (r.1, r.2.1, r.2.2.1)

/-- What an instance's turn of `shm_on_timer` learns from outside: the
monotonic times of the pulse check and of `shm_on_no_shm_event` in
file-descriptor mode, and the polls of the loop. -/
structure TimerInput where
  monoPulse : Timespec
  monoNoEvent : Timespec
  polls : List PollInput

/-- One instance's turn of `shm_on_timer` (lines 1818–1856). -/
def shmTimerInstance (inp : TimerInput) (tod : TimeOfDay) (i : Instance) :
    TimeOfDay × Instance × List ShmEffect :=
  let i := shmPulseCheck inp.monoPulse i
  if i.pollFd = -1 then pollLoop inp.polls tod i
  else (tod, shmOnNoShmEvent inp.monoNoEvent i, [])

/-- Run `f` on each instance in list order, threading the shared time-of-day
record; `f` also gets the instance's position. -/
def forInstances (f : Nat → TimeOfDay → Instance → TimeOfDay × Instance × List ShmEffect) :
    Nat → TimeOfDay → List Instance → TimeOfDay × List Instance × List ShmEffect
  | _, tod, [] => (tod, [], [])
  | k, tod, i :: is =>
    let r := f k tod i
    let r' := forInstances f (k + 1) r.1 is
    (r'.1, r.2.1 :: r'.2.1, r.2.2 ++ r'.2.2)

/-- Every instance `forInstances` returns is `f` applied to one it was given. -/
theorem forInstances_mem {f : Nat → TimeOfDay → Instance → TimeOfDay × Instance × List ShmEffect} :
    ∀ (k : Nat) (tod : TimeOfDay) (is : List Instance), ∀ j ∈ (forInstances f k tod is).2.1,
      ∃ k' tod', ∃ i ∈ is, j = (f k' tod' i).2.1
  | _, _, [], _, hj => absurd hj (List.not_mem_nil _)
  | k, tod, i :: is, j, hj => by
    rcases List.mem_cons.mp hj with rfl | hj
    · exact ⟨k, tod, i, List.mem_cons_self _ _, rfl⟩
    · obtain ⟨k', tod', i', hi', rfl⟩ := forInstances_mem (k + 1) _ is j hj
      exact ⟨k', tod', i', List.mem_cons_of_mem _ hi', rfl⟩

/-- `shm_on_timer` (lines 1812–1857); `inputs k` is for the instance at
position `k`. -/
def shmOnTimer (inputs : Nat → TimerInput) (m : ShmModule) : ShmModule × List ShmEffect :=
  let r := forInstances (fun k => shmTimerInstance (inputs k)) 0 m.timeOfDay m.instances
  ({ m with instances := r.2.1, timeOfDay := r.1 }, r.2.2)

/-- An instance's part of a descriptor event: one poll when it polls `fd`. -/
def shmFdInstance (fd : Int) (inp : PollInput) (tod : TimeOfDay) (i : Instance) :
    TimeOfDay × Instance × List ShmEffect :=
  if i.pollFd = fd then
    let p := shmDoPoll inp tod i
    (p.1, p.2.1, p.2.2.1)
  else (tod, i, [])

/-- The inner loop of `shm_on_user_fds` for one descriptor; `inputs k` is
for the instance at position `k`. -/
def shmOnUserFd (m : ShmModule) (fd : Int) (inputs : Nat → PollInput) : ShmModule × List ShmEffect :=
  let r := forInstances (fun k => shmFdInstance fd (inputs k)) 0 m.timeOfDay m.instances
  ({ m with instances := r.2.1, timeOfDay := r.1 }, r.2.2)

/-- `shm_on_user_fds` (lines 1860–1877), over the descriptors that fired. -/
def shmOnUserFds (fds : List (Int × (Nat → PollInput))) (m : ShmModule) : ShmModule × List ShmEffect :=
  fds.foldl (fun acc fd =>
    let r := shmOnUserFd acc.1 fd.1 fd.2
    (r.1, acc.2 ++ r.2)) (m, [])

/-! ## Messages -/

/-- `shm_on_control` (lines 1931–1967): the new flags; disabling timestamp
processing zeroes the recorded timestamp and leaves the rest alone. -/
def shmOnControl (i : Instance) (flags mask : CtrlFlags) : Instance :=
  let ctrl := i.ctrlFlags.update flags mask
  { i with
    ctrlFlags := ctrl
    shmTimestamp := if i.ctrlFlags.timestampProcessing && !ctrl.timestampProcessing then
      { i.shmTimestamp with time := .zero } else i.shmTimestamp }

/-- The messages `shm_on_message` handles (lines 2368–2433) that change the
module; `other` is every message it only reads the module for, replies to or
frees. -/
inductive ShmMsg
  | run (fds : Nat → Int)
  | control (handle : Nat) (flags mask : CtrlFlags)
  | stepClock (handle : Nat) (offset : Timespec) (freqCorrection : Int)
  | testModeBogus (handle : Nat)
  | other

/-- Apply a handler to the instance at position `k`, sharing the time-of-day
record; `none` when `k` names no instance (the `assert(instance)`). -/
def ShmModule.onInstance (m : ShmModule) (k : Nat)
    (f : TimeOfDay → Instance → TimeOfDay × Instance × List ShmEffect) : Option (ShmModule × List ShmEffect) :=
  match m.instances.get? k with
  | none => none
  | some i =>
    let r := f m.timeOfDay i
    some ({ m with instances := m.instances.set k r.2.1, timeOfDay := r.1 }, r.2.2)

/-- `shm_on_message`: the new module and the effects; `none` when an
assertion fails. -/
def shmOnMessage (m : ShmModule) : ShmMsg → Option (ShmModule × List ShmEffect)
  | .run fds =>
    if m.timersStarted then none
    else
      let insts := (List.range m.instances.length).zip m.instances |>.map fun (k, i) => { i with pollFd := fds k }
      some ({ m with instances := insts, timersStarted := true }, [])
  | .control k flags mask => m.onInstance k fun tod i => (tod, shmOnControl i flags mask, [])
  | .stepClock k offset fc => m.onInstance k fun tod i => shmServoStepClock fc tod i offset
  | .testModeBogus k => m.onInstance k fun tod i => (tod, { i with bogusShmEvents := !i.bogusShmEvents }, [])
  | .other => some (m, [])

/-! ## Start-up and runs -/

/-- An instance after `shm_start_instance` (lines 2181–2247): `calloc` and
`poll_fd = -1` (`shm_create_instances`, line 1008), the default control flags,
the clock and its configuration, then the state machine and servo resets. -/
def Instance.start (config : InstanceConfig) (clock : Nat) (freqCorrection : Int) : Instance where
  config := config
  clock := clock
  pollFd := -1
  ctrlFlags := .default
  state := .listening
  alarms := .none
  lastShmTime := .zero
  instanceStartedTime := .zero
  instanceHasStarted := false
  shmPulseCheckTimerExpired := false
  shmTimestamp := ⟨.zero, 0⟩
  shmSeqNum := 0
  offsetFromMasterNs := 0
  freqAdjustBase := freqCorrection
  freqAdjustPpb := freqCorrection
  servoActive := false
  shmPeriodNs := 0
  synchronized := false
  prevState := .listening
  prevAlarms := .none
  consecutiveGoodPeriods := 0
  clusteringScore := 0
  prevClusteringScore := 0
  stepOccurred := false
  bogusShmEvents := false
  steps := 0

/-- The module after `shm_on_startup` (lines 2313–2351): each instance
started, and the time-of-day record found or not. -/
def ShmModule.startup (insts : List (InstanceConfig × Nat × Int)) (todFound : Bool) (now : Timespec) :
    ShmModule where
  instances := insts.map fun c => Instance.start c.1 c.2.1 c.2.2
  timeOfDay := if todFound then ⟨true, now, ⟨.listening, .zero⟩⟩ else ⟨false, .zero, ⟨.listening, .zero⟩⟩
  timersStarted := false

/-- The states of the module thread. -/
inductive Reachable : ShmModule → Prop
  | startup (insts : List (InstanceConfig × Nat × Int)) (todFound : Bool) (now : Timespec) :
      Reachable (ShmModule.startup insts todFound now)
  | timer {m : ShmModule} (inputs : Nat → TimerInput) :
      Reachable m → m.timersStarted = true → Reachable (shmOnTimer inputs m).1
  | userFds {m : ShmModule} (fds : List (Int × (Nat → PollInput))) :
      Reachable m → m.timersStarted = true → Reachable (shmOnUserFds fds m).1
  | message {m m' : ShmModule} {msg : ShmMsg} {effs : List ShmEffect} :
      Reachable m → shmOnMessage m msg = some (m', effs) → Reachable m'

end Sfptpd.Shm
