import Sfptpd.Shm.Gate

/-!
# What the engine is told: `synchronized` and the state reports
(shm/sfptpd_shm_module.c:1211–1243, 1326–1388, 1703–1877)

`shm_do_poll` ends with the convergence update, then reports the instance's
status to the engine when its state, its alarms in SLAVE or its clustering
score differ from the snapshot it took at the end of the poll before, and
takes a new snapshot.

- `shmConvergenceUpdate_synchronized`: after the convergence update an
  instance is synchronized only in SLAVE, and then either the measure says so
  with no alarm raised and timestamp processing on, or the instance was
  synchronized before: an alarm, or timestamp processing switched off, keeps
  the old value;
- `shmDoPoll_synchronized`, `pollLoop_reported`, `shmOnTimer_polling_reported`:
  a poll leaves a synchronized instance in SLAVE, and a timer tick in polling
  mode leaves every snapshot equal to the status;
- `synchronized_kept_under_alarm`: a run that ends synchronized with an alarm
  raised;
- `state_change_unreported`: runs in which the status changes and the engine
  is not told: the no-signal alarm of a timer tick in file-descriptor mode, and
  the return from SLAVE to LISTENING after 60 s, whose reset overwrites the
  snapshot.
-/

namespace Sfptpd.Shm

/-! ## The convergence update -/

section Convergence

variable (mono : Option Timespec) (converged : Bool) (i : Instance)

@[simp] theorem shmConvergenceUpdate_state : (shmConvergenceUpdate mono converged i).state = i.state := by
  unfold shmConvergenceUpdate
  split_ifs <;> rfl

/-- **Inversion of the convergence update**: `synchronized` is set only in
SLAVE with the monotonic clock read, by the measure with no alarm raised and
timestamp processing on, or else kept from before. -/
theorem shmConvergenceUpdate_synchronized (h : (shmConvergenceUpdate mono converged i).synchronized = true) :
    mono.isSome ∧ i.state = .slave ∧
      ((i.alarms = .none ∧ i.ctrlFlags.timestampProcessing = true ∧ converged = true) ∨ i.synchronized = true) := by
  unfold shmConvergenceUpdate at h
  -- the branch that clears `synchronized` contradicts `h`
  split_ifs at h with h₁ h₂
  · simp only [Bool.or_eq_true, bne_iff_ne, ne_eq, not_or, not_not, Option.isNone_iff_eq_none] at h₁
    exact ⟨Option.ne_none_iff_isSome.mp h₁.1, h₁.2, .inr h⟩
  · simp only [Bool.or_eq_true, bne_iff_ne, ne_eq, not_or, not_not, Option.isNone_iff_eq_none,
      Bool.not_eq_true', Bool.not_eq_false] at h₁ h₂
    exact ⟨Option.ne_none_iff_isSome.mp h₁.1, h₁.2, .inl ⟨h₂.1, h₂.2, h⟩⟩

end Convergence

/-- A poll leaves a synchronized instance in SLAVE: the convergence update is
its last change of either. -/
theorem shmDoPoll_synchronized {inp : PollInput} {tod : TimeOfDay} {i : Instance}
    (h : (shmDoPoll inp tod i).2.1.synchronized = true) : (shmDoPoll inp tod i).2.1.state = .slave := by
  simp only [shmDoPoll, reportState] at h ⊢
  rw [shmConvergenceUpdate_state]
  exact (shmConvergenceUpdate_synchronized _ _ _ h).2.1

/-! ## The snapshot of the last report -/

/-- The instance's snapshot (`prev_state`, `prev_alarms`,
`prev_clustering_score`) equals its status. -/
def Reported (i : Instance) : Prop :=
  i.prevState = i.state ∧ i.prevAlarms = i.alarms ∧ i.prevClusteringScore = i.clusteringScore

/-- A poll ends by taking the snapshot. -/
theorem shmDoPoll_reported (inp : PollInput) (tod : TimeOfDay) (i : Instance) :
    Reported (shmDoPoll inp tod i).2.1 :=
  ⟨rfl, rfl, rfl⟩

/-- A poll loop that polls at all ends on a poll, so with the snapshot taken. -/
theorem pollLoop_reported : ∀ (ps : List PollInput) (tod : TimeOfDay) (i : Instance), ps ≠ [] →
    Reported (pollLoop ps tod i).2.1
  | [], _, _, h => absurd rfl h
  | p :: ps, tod, i, _ => by
    dsimp only [pollLoop]
    split
    · cases ps with
      | nil => exact shmDoPoll_reported p tod i
      | cons q qs => exact pollLoop_reported (q :: qs) _ _ (List.cons_ne_nil _ _)
    · exact shmDoPoll_reported p tod i

/-- In polling mode, where every tick polls each instance at least once, a
timer tick leaves every snapshot equal to the status. -/
theorem shmOnTimer_polling_reported {inputs : Nat → TimerInput} {m : ShmModule}
    (hpoll : ∀ i ∈ m.instances, i.pollFd = -1) (hne : ∀ k, (inputs k).polls ≠ []) :
    ∀ j ∈ (shmOnTimer inputs m).1.instances, Reported j := by
  intro j hj
  obtain ⟨k, tod, i, hi, rfl⟩ := forInstances_mem _ _ _ j hj
  have hfd : (shmPulseCheck (inputs k).monoPulse i).pollFd = -1 := by rw [shmPulseCheck_pollFd, hpoll i hi]
  simp only [shmTimerInstance, hfd, if_true]
  exact pollLoop_reported _ _ _ (hne k)

/-! ## Runs -/

/-- A poll that finds the convergence measure converged. -/
def convergedPoll (get : ShmGet) (t : Int) : PollInput := { steadyPoll get t with converged := true }

/-- One instance polling on clock 1: an event at second 1, with the measure
converged, makes it synchronized in SLAVE; at second 2 there is no event and
the time-of-day module is found LISTENING, so the poll raises `NO_TIME_OF_DAY`
and the instance stays synchronized. -/
theorem synchronized_kept_under_alarm :
    ∃ m, Reachable m ∧
      m.instances.map (fun i => (i.synchronized, i.state, i.alarms)) = [(true, .slave, ⟨false, false, false, true⟩)] :=
  ⟨_, .timer (steadyTick [{ steadyPoll .again 2 with todStatus := some ⟨.listening, .zero⟩ }] 2)
      (.timer (steadyTick [convergedPoll (.event 1 ⟨100, 0⟩) 1, convergedPoll .again 1] 1)
        (@Reachable.message _ _ (.run fun _ => -1) _ (.startup [(demoConfig, 1, 0)] true .zero) rfl) rfl) rfl,
    by decide⟩

/-- The event at second 1 that takes an instance to SLAVE, and the empty
poll after it. -/
def firstEvent : List PollInput := [steadyPoll (.event 1 ⟨100, 0⟩) 1, steadyPoll .again 1]

/-- One instance on clock 1. In file-descriptor mode (descriptor 5) an event
reports SLAVE with no alarm, and a timer tick two seconds later raises
`SHM_NO_SIGNAL` and reports nothing, leaving the snapshot behind. In polling
mode an event reports SLAVE, and a tick 60 s later returns the instance to
LISTENING and reports nothing. -/
theorem state_change_unreported :
    (∃ m, Reachable m ∧ m.timersStarted = true ∧
      (shmOnUserFds [(5, fun _ => steadyPoll (.event 1 ⟨100, 0⟩) 1)] m).2 = [.stateChanged .slave .none 0] ∧
      (shmOnTimer (steadyTick [] 3) (shmOnUserFds [(5, fun _ => steadyPoll (.event 1 ⟨100, 0⟩) 1)] m).1).2 = [] ∧
      (shmOnTimer (steadyTick [] 3) (shmOnUserFds [(5, fun _ => steadyPoll (.event 1 ⟨100, 0⟩) 1)] m).1).1.instances.map
        (fun i => (i.state, i.alarms, i.prevAlarms)) = [(.slave, ⟨true, false, false, false⟩, .none)]) ∧
    (∃ m, Reachable m ∧ m.timersStarted = true ∧
      (shmOnTimer (steadyTick firstEvent 1) m).2 = [.stateChanged .slave .none 0] ∧
      (shmOnTimer (steadyTick [steadyPoll .again 61] 61) (shmOnTimer (steadyTick firstEvent 1) m).1).2 = [] ∧
      (shmOnTimer (steadyTick [steadyPoll .again 61] 61) (shmOnTimer (steadyTick firstEvent 1) m).1).1.instances.map
        (·.state) = [.listening]) :=
  ⟨⟨_, @Reachable.message _ _ (.run fun _ => 5) _ (.startup [(demoConfig, 1, 0)] true .zero) rfl, by decide⟩,
    ⟨_, @Reachable.message _ _ (.run fun _ => -1) _ (.startup [(demoConfig, 1, 0)] true .zero) rfl, by decide⟩⟩

end Sfptpd.Shm
