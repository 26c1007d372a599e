import Sfptpd.Shm.Report

/-!
# Synchronized only in SLAVE: polling mode and `shm_on_save_state`
(shm/sfptpd_shm_module.c:1211–1243, 1345–1388, 1812–1877, 1998–2069, 2250–2284)

`shm_convergence_update` clears `synchronized` out of SLAVE, and it ends
every `shm_do_poll` (`shmDoPoll_synchronized`). That holds poll by poll.
`shm_on_save_state` relies on more. It saves the frequency correction of
every instance that is synchronized with clock control on, whatever the
instance's state.

- `PollingReachable`: the runs of the module when no clock gives a
  descriptor to poll (`sfptpd_clock_shm_get_fd` is -1 at `shm_on_run`), so
  that each instance's turn of a timer tick polls it at least once. They are
  runs of the module (`PollingReachable.reachable`);
- `pollingInv_of_reachable`: along those runs every synchronized instance is
  in SLAVE;
- `polling_saves_slave_freq`: so `shm_on_save_state` saves the frequency
  correction of SLAVE instances only;
- `fd_mode_saves_listening_freq`: in file-descriptor mode a tick runs
  `shm_on_no_shm_event` alone. After 60 s without an event it returns the
  instance to LISTENING and leaves it synchronized, and `shm_on_save_state`
  then saves its frequency correction.
-/

namespace Sfptpd.Shm

/-- The frequency corrections `shm_on_save_state` (lines 1998–2069) saves
with `sfptpd_clock_save_freq_correction`, in list order: the clock and
`freq_adjust_ppb` of each instance synchronized with clock control on. The
state texts it writes are left out. -/
def shmOnSaveState (m : ShmModule) : List (Nat × Int) :=
  m.instances.filterMap fun i =>
    if i.synchronized && i.ctrlFlags.clockCtrl then some (i.clock, i.freqAdjustPpb) else none

theorem mem_shmOnSaveState {m : ShmModule} {c : Nat × Int} :
    c ∈ shmOnSaveState m ↔ ∃ i ∈ m.instances,
      i.synchronized = true ∧ i.ctrlFlags.clockCtrl = true ∧ c = (i.clock, i.freqAdjustPpb) := by
  simp only [shmOnSaveState, List.mem_filterMap, Option.ite_none_right_eq_some, Option.some.injEq,
    Bool.and_eq_true]
  constructor
  · rintro ⟨i, hi, ⟨hs, hc⟩, rfl⟩
    exact ⟨i, hi, hs, hc, rfl⟩
  · rintro ⟨i, hi, hs, hc, rfl⟩
    exact ⟨i, hi, ⟨hs, hc⟩, rfl⟩

/-! ## The descriptor is set by `RUN` alone -/

section PollFd

variable (inp : PollInput) (tod : TimeOfDay) (i : Instance)

@[simp] theorem shmOnNoShmEvent_pollFd (now : Timespec) : (shmOnNoShmEvent now i).pollFd = i.pollFd := by
  unfold shmOnNoShmEvent
  split
  · rfl
  · dsimp only
    split_ifs <;> rfl
  · rfl

@[simp] theorem shmOnShmError_pollFd : (shmOnShmError i).pollFd = i.pollFd := by
  unfold shmOnShmError
  split <;> rfl

@[simp] theorem shmServoUpdate_pollFd (time timeOfDay : Timespec) :
    (shmServoUpdate inp tod i time timeOfDay).2.1.pollFd = i.pollFd := by
  simp only [shmServoUpdate]
  split_ifs <;> rfl

@[simp] theorem recordPeriod_pollFd (time : StampedTime) : (recordPeriod i time).1.pollFd = i.pollFd := by
  simp only [recordPeriod]
  split_ifs <;> rfl

@[simp] theorem gatedServo_pollFd (time : StampedTime) : (gatedServo inp tod i time).2.1.pollFd = i.pollFd := by
  simp only [gatedServo]
  split_ifs <;> simp only [shmServoUpdate_pollFd]

@[simp] theorem shmOnShmEvent_pollFd (seqNum : Nat) (time : StampedTime) :
    (shmOnShmEvent inp tod i seqNum time).2.1.pollFd = i.pollFd := by
  unfold shmOnShmEvent
  split
  · rfl
  · rfl
  · simp only [shmSlaveEvent]
    split_ifs
    · rfl
    · rfl
    · rw [gatedServo_pollFd, recordPeriod_pollFd]
      rfl

@[simp] theorem shmHandleGet_pollFd (g : ShmGet) : (shmHandleGet inp tod i g).2.1.pollFd = i.pollFd := by
  cases g <;> simp only [shmHandleGet, shmOnNoShmEvent_pollFd, shmOnShmError_pollFd, shmOnShmEvent_pollFd]

@[simp] theorem shmTimeOfDayPoll_pollFd : (shmTimeOfDayPoll inp tod i).2.1.pollFd = i.pollFd := by
  simp only [shmTimeOfDayPoll]
  split_ifs <;> rfl

@[simp] theorem reportState_pollFd (mono : Option Timespec) (converged : Bool) :
    (reportState mono converged i).1.pollFd = i.pollFd := by
  simp only [reportState, shmConvergenceUpdate]
  split_ifs <;> rfl

theorem shmDoPoll_pollFd : (shmDoPoll inp tod i).2.1.pollFd = i.pollFd := by
  simp only [shmDoPoll, reportState_pollFd, shmTimeOfDayPoll_pollFd, shmHandleGet_pollFd]

end PollFd

theorem pollLoop_pollFd : ∀ (ps : List PollInput) (tod : TimeOfDay) (i : Instance),
    (pollLoop ps tod i).2.1.pollFd = i.pollFd
  | [], _, _ => rfl
  | p :: ps, tod, i => by
    dsimp only [pollLoop]
    split
    · rw [pollLoop_pollFd ps, shmDoPoll_pollFd]
    · exact shmDoPoll_pollFd p tod i

/-! ## The invariant, instance by instance -/

/-- The instance is synchronized only in SLAVE. -/
def SyncInSlave (i : Instance) : Prop := i.synchronized = true → i.state = .slave

/-- An instance of polling mode: it has no descriptor, and it is synchronized
only in SLAVE. -/
def PollingInstance (i : Instance) : Prop := i.pollFd = -1 ∧ SyncInSlave i

theorem shmDoPoll_syncInSlave (inp : PollInput) (tod : TimeOfDay) (i : Instance) :
    SyncInSlave (shmDoPoll inp tod i).2.1 :=
  shmDoPoll_synchronized

/-- A loop that polls at all ends on a poll. -/
theorem pollLoop_syncInSlave : ∀ (ps : List PollInput) (tod : TimeOfDay) (i : Instance), ps ≠ [] →
    SyncInSlave (pollLoop ps tod i).2.1
  | [], _, _, h => absurd rfl h
  | p :: ps, tod, i, _ => by
    dsimp only [pollLoop]
    split
    · cases ps with
      | nil => exact shmDoPoll_syncInSlave p tod i
      | cons q qs => exact pollLoop_syncInSlave (q :: qs) _ _ (List.cons_ne_nil _ _)
    · exact shmDoPoll_syncInSlave p tod i

/-- In polling mode an instance's turn of a timer tick polls it, so it ends
on `shm_convergence_update`. -/
theorem shmTimerInstance_polling {inp : TimerInput} (hpolls : inp.polls ≠ []) (tod : TimeOfDay) {i : Instance}
    (h : PollingInstance i) : PollingInstance (shmTimerInstance inp tod i).2.1 := by
  have hfd : (shmPulseCheck inp.monoPulse i).pollFd = -1 := by rw [shmPulseCheck_pollFd, h.1]
  simp only [shmTimerInstance, hfd, if_true]
  exact ⟨by rw [pollLoop_pollFd, hfd], pollLoop_syncInSlave _ _ _ hpolls⟩

theorem shmFdInstance_polling (fd : Int) (inp : PollInput) (tod : TimeOfDay) {i : Instance}
    (h : PollingInstance i) : PollingInstance (shmFdInstance fd inp tod i).2.1 := by
  unfold shmFdInstance
  split
  · exact ⟨by rw [shmDoPoll_pollFd, h.1], shmDoPoll_syncInSlave inp tod i⟩
  · exact h

/-! ## The module -/

/-- Polling mode's invariant of the module. -/
def PollingInv (m : ShmModule) : Prop := ∀ i ∈ m.instances, PollingInstance i

theorem forInstances_forall {P : Instance → Prop} {f : Nat → TimeOfDay → Instance → TimeOfDay × Instance × List ShmEffect}
    (hf : ∀ k tod i, P i → P (f k tod i).2.1) (k : Nat) (tod : TimeOfDay) {is : List Instance}
    (h : ∀ i ∈ is, P i) : ∀ j ∈ (forInstances f k tod is).2.1, P j := fun j hj => by
  obtain ⟨k', tod', i, hi, rfl⟩ := forInstances_mem k tod is j hj
  exact hf k' tod' i (h i hi)

theorem ShmModule.onInstance_forall {P : Instance → Prop} {m : ShmModule} (h : ∀ i ∈ m.instances, P i) {k : Nat}
    {f : TimeOfDay → Instance → TimeOfDay × Instance × List ShmEffect} (hf : ∀ tod i, P i → P (f tod i).2.1)
    {m' : ShmModule} {effs : List ShmEffect} (he : m.onInstance k f = some (m', effs)) : ∀ i ∈ m'.instances, P i := by
  unfold ShmModule.onInstance at he
  split at he
  · cases he
  · rename_i i hi
    cases he
    intro j hj
    rcases List.mem_or_eq_of_mem_set hj with hj | rfl
    · exact h j hj
    · exact hf _ i (h i (List.get?_mem hi))

theorem shmOnTimer_polling {inputs : Nat → TimerInput} (hpolls : ∀ k, (inputs k).polls ≠ []) {m : ShmModule}
    (h : PollingInv m) : PollingInv (shmOnTimer inputs m).1 :=
  forInstances_forall (fun k tod _ hi => shmTimerInstance_polling (hpolls k) tod hi) 0 _ h

theorem shmOnUserFds_polling (fds : List (Int × (Nat → PollInput))) {m : ShmModule} (h : PollingInv m) :
    PollingInv (shmOnUserFds fds m).1 := by
  unfold shmOnUserFds
  suffices ∀ acc : ShmModule × List ShmEffect, PollingInv acc.1 →
      PollingInv (fds.foldl (fun acc fd => ((shmOnUserFd acc.1 fd.1 fd.2).1, acc.2 ++ (shmOnUserFd acc.1 fd.1 fd.2).2)) acc).1 from
    this (m, []) h
  induction fds with
  | nil => exact fun _ h => h
  | cons fd fds ih =>
    intro acc h
    exact ih _ (forInstances_forall (fun k tod _ hi => shmFdInstance_polling fd.1 (fd.2 k) tod hi) 0 _ h)

/-- Every message keeps the invariant, a `RUN` that finds no descriptor
included. -/
theorem shmOnMessage_polling {m : ShmModule} (h : PollingInv m) {msg : ShmMsg}
    (hrun : ∀ fds, msg = .run fds → ∀ k, fds k = -1) {m' : ShmModule} {effs : List ShmEffect}
    (he : shmOnMessage m msg = some (m', effs)) : PollingInv m' := by
  cases msg with
  | run fds =>
    simp only [shmOnMessage] at he
    split at he
    · cases he
    · cases he
      intro j hj
      obtain ⟨⟨k, i⟩, hki, rfl⟩ := List.mem_map.mp hj
      exact ⟨hrun fds rfl k, (h i (List.of_mem_zip hki).2).2⟩
  | control k flags mask =>
    simp only [shmOnMessage] at he
    exact ShmModule.onInstance_forall h (fun _ _ hi => hi) he
  | stepClock k offset fc =>
    simp only [shmOnMessage] at he
    exact ShmModule.onInstance_forall h (fun _ _ hi => hi) he
  | testModeBogus k =>
    simp only [shmOnMessage] at he
    exact ShmModule.onInstance_forall h (fun _ _ hi => hi) he
  | other =>
    cases he
    exact h

/-! ## Runs in polling mode -/

/-- The states of the module thread when `shm_on_run` finds no descriptor
for any clock, and each instance's `do ... while` loop in a timer tick polls
at least once. No descriptor can fire, but the relation allows descriptor
events all the same. -/
inductive PollingReachable : ShmModule → Prop
  | startup (insts : List (InstanceConfig × Nat × Int)) (todFound : Bool) (now : Timespec) :
      PollingReachable (ShmModule.startup insts todFound now)
  | timer {m : ShmModule} (inputs : Nat → TimerInput) :
      PollingReachable m → m.timersStarted = true → (∀ k, (inputs k).polls ≠ []) →
        PollingReachable (shmOnTimer inputs m).1
  | userFds {m : ShmModule} (fds : List (Int × (Nat → PollInput))) :
      PollingReachable m → m.timersStarted = true → PollingReachable (shmOnUserFds fds m).1
  | message {m m' : ShmModule} {msg : ShmMsg} {effs : List ShmEffect} :
      PollingReachable m → (∀ fds, msg = .run fds → ∀ k, fds k = -1) → shmOnMessage m msg = some (m', effs) →
        PollingReachable m'

/-- The runs in polling mode are runs of the module. -/
theorem PollingReachable.reachable {m : ShmModule} (h : PollingReachable m) : Reachable m := by
  induction h with
  | startup insts todFound now => exact .startup insts todFound now
  | timer inputs _ hs _ ih => exact .timer inputs ih hs
  | userFds fds _ hs ih => exact .userFds fds ih hs
  | message _ _ he ih => exact .message ih he

/-- **Run lemma**: along every run in polling mode, no instance has a
descriptor and every synchronized instance is in SLAVE. -/
theorem pollingInv_of_reachable {m : ShmModule} (h : PollingReachable m) : PollingInv m := by
  induction h with
  | startup insts todFound now =>
    intro i hi
    obtain ⟨c, -, rfl⟩ := List.mem_map.mp hi
    exact ⟨rfl, fun hs => absurd hs Bool.false_ne_true⟩
  | timer inputs _ _ hpolls ih => exact shmOnTimer_polling hpolls ih
  | userFds fds _ _ ih => exact shmOnUserFds_polling fds ih
  | message _ hrun he ih => exact shmOnMessage_polling ih hrun he

/-- **In polling mode only a SLAVE instance's frequency is saved**: every
frequency correction `shm_on_save_state` saves, along every run in polling
mode, is that of an instance in SLAVE, synchronized and with clock control
on. -/
theorem polling_saves_slave_freq {m : ShmModule} (h : PollingReachable m) :
    ∀ c ∈ shmOnSaveState m, ∃ i ∈ m.instances, i.state = .slave ∧ i.synchronized = true ∧
      i.ctrlFlags.clockCtrl = true ∧ c = (i.clock, i.freqAdjustPpb) := by
  intro c hc
  obtain ⟨i, hi, hs, hcc, rfl⟩ := mem_shmOnSaveState.1 hc
  exact ⟨i, hi, (pollingInv_of_reachable h i hi).2 hs, hs, hcc, rfl⟩

/-- Timestamp processing and clock control on: the flags and the mask of a
`CONTROL` message that switches clock control on. -/
def clockCtrlOn : CtrlFlags := ⟨true, true, false⟩

/-- One instance on clock 1 in polling mode, with clock control switched on:
an event at second 1, with the measure converged, makes it synchronized in
SLAVE, and `shm_on_save_state` saves its frequency correction. -/
theorem polling_saves_slave_freq_one_instance :
    ∃ m, PollingReachable m ∧ shmOnSaveState m = [(1, 0)] ∧
      ∀ c ∈ shmOnSaveState m, ∃ i ∈ m.instances, i.state = .slave ∧ i.synchronized = true ∧
        i.ctrlFlags.clockCtrl = true ∧ c = (i.clock, i.freqAdjustPpb) :=
  have h : PollingReachable _ :=
    .timer (steadyTick [convergedPoll (.event 1 ⟨100, 0⟩) 1, convergedPoll .again 1] 1)
      (@PollingReachable.message _ _ (.control 0 clockCtrlOn clockCtrlOn) _
        (@PollingReachable.message _ _ (.run fun _ => -1) _ (.startup [(demoConfig, 1, 0)] true .zero)
          (fun _ h k => by cases h; rfl) rfl)
        (fun _ h => nomatch h) rfl) rfl (fun _ => List.cons_ne_nil _ _)
  ⟨_, h, by decide, polling_saves_slave_freq h⟩

/-- The same instance in file-descriptor mode (descriptor 5): the event at
second 1 arrives on the descriptor and makes it synchronized in SLAVE; a tick
at second 62 finds 61 s without an event and returns it to LISTENING, still
synchronized, and `shm_on_save_state` saves its frequency correction. -/
theorem fd_mode_saves_listening_freq :
    ∃ m, Reachable m ∧ m.instances.map (fun i => (i.state, i.synchronized)) = [(.listening, true)] ∧
      shmOnSaveState m = [(1, 0)] :=
  ⟨_, .timer (steadyTick [] 62)
    (.userFds [(5, fun _ => convergedPoll (.event 1 ⟨100, 0⟩) 1)]
      (@Reachable.message _ _ (.control 0 clockCtrlOn clockCtrlOn) _
        (@Reachable.message _ _ (.run fun _ => 5) _ (.startup [(demoConfig, 1, 0)] true .zero) rfl) rfl) rfl) rfl,
    by decide⟩

end Sfptpd.Shm
