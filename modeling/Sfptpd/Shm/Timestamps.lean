import Sfptpd.Shm.Module

/-!
# Event timestamps and clock steps (shm/sfptpd_shm_module.c:757–797, 1465–1594)

`shm_on_shm_event` computes the period between an event's timestamp and the
one it recorded before, and feeds it to the notch filter. A clock step would
make that difference meaningless, so a step sets `step_occurred`, and the
next event is only recorded as the new anchor.

- `StampsCurrent i`: when no step is pending and the recorded timestamp is
  valid (non-zero seconds), it was read after the instance's last step;
- `shmDoPoll_stamps`: a poll keeps it, and every period it computes is the
  difference of two timestamps read between the same two steps;
- `shm_periods_within_step`: over every run, no period is computed across a
  clock step.
-/

namespace Sfptpd.Shm

/-- A recorded timestamp a period can be computed from was read after the
instance's last step. -/
def StampsCurrent (i : Instance) : Prop :=
  i.stepOccurred = false → i.shmTimestamp.time.sec ≠ 0 → i.shmTimestamp.steps = i.steps

/-- A period effect is between two timestamps read between the same steps. -/
def ShmEffect.WithinStep : ShmEffect → Prop
  | .period newer older _ => newer.steps = older.steps
  | _ => True

@[simp] theorem ShmEffect.withinStep_period (newer older : StampedTime) (accepted : Bool) :
    (ShmEffect.period newer older accepted).WithinStep ↔ newer.steps = older.steps := Iff.rfl
@[simp] theorem ShmEffect.withinStep_stateChanged (state : ShmState) (alarms : Alarms) (score : Int) :
    (ShmEffect.stateChanged state alarms score).WithinStep := trivial
@[simp] theorem ShmEffect.withinStep_outlier (periodNs : Int) (accepted : Bool) :
    (ShmEffect.outlier periodNs accepted).WithinStep := trivial
@[simp] theorem ShmEffect.withinStep_servoUpdate (time : StampedTime) (timeOfDay : Timespec) :
    (ShmEffect.servoUpdate time timeOfDay).WithinStep := trivial
@[simp] theorem ShmEffect.withinStep_adjustTime (offset : Timespec) : (ShmEffect.adjustTime offset).WithinStep := trivial
@[simp] theorem ShmEffect.withinStep_adjustFrequency (ppb : Int) : (ShmEffect.adjustFrequency ppb).WithinStep := trivial
@[simp] theorem ShmEffect.withinStep_stepTimeOfDay : ShmEffect.stepTimeOfDay.WithinStep := trivial
@[simp] theorem ShmEffect.withinStep_requireFresh (clock : Nat) : (ShmEffect.requireFresh clock).WithinStep := trivial

/-- No effect of the list is a period across a step. -/
def WithinSteps (effs : List ShmEffect) : Prop := ∀ e ∈ effs, e.WithinStep

/-- What a handler can do to the step bookkeeping: leave it alone, or leave a
step pending. -/
def StampStep (i i' : Instance) : Prop :=
  (i'.steps = i.steps ∧ i'.stepOccurred = i.stepOccurred ∧ i'.shmTimestamp = i.shmTimestamp) ∨
    i'.stepOccurred = true

section Lemmas

variable {i i' : Instance}

theorem withinSteps_nil : WithinSteps [] := fun _ h => absurd h (List.not_mem_nil _)

theorem WithinSteps.append {l l' : List ShmEffect} (h : WithinSteps l) (h' : WithinSteps l') :
    WithinSteps (l ++ l') := fun e he => (List.mem_append.mp he).elim (h e) (h' e)

theorem StampStep.refl (i : Instance) : StampStep i i := .inl ⟨rfl, rfl, rfl⟩

theorem StampStep.stampsCurrent (hs : StampStep i i') (h : StampsCurrent i) : StampsCurrent i' := by
  rcases hs with ⟨hn, ho, ht⟩ | ho
  · intro ho' hsec
    rw [hn, ht]
    exact h (ho ▸ ho') (ht ▸ hsec)
  · intro ho'
    rw [ho] at ho'
    cases ho'

/-- A zeroed timestamp is never used for a period. -/
theorem stampsCurrent_of_sec (h : i.shmTimestamp.time.sec = 0) : StampsCurrent i :=
  fun _ hsec => absurd h hsec

end Lemmas

/-! ## The servo -/

theorem shmServoUpdate_stampStep (inp : PollInput) (tod : TimeOfDay) (i : Instance) (time timeOfDay : Timespec) :
    StampStep i (shmServoUpdate inp tod i time timeOfDay).2.1 :=
  (shmServoUpdate_cases inp tod i time timeOfDay).imp (fun h => ⟨h.1, h.2.1, h.2.2⟩) And.right

theorem shmServoUpdate_withinSteps (inp : PollInput) (tod : TimeOfDay) (i : Instance) (time timeOfDay : Timespec) :
    WithinSteps (shmServoUpdate inp tod i time timeOfDay).2.2 := by
  dsimp only [shmServoUpdate, shmServoStepClock]
  split_ifs <;> simp [WithinSteps]

/-! ## An event -/

theorem gatedServo_stampStep (inp : PollInput) (tod : TimeOfDay) (i : Instance) (time : StampedTime) :
    StampStep i (gatedServo inp tod i time).2.1 ∧ (gatedServo inp tod i time).2.1.ctrlFlags = i.ctrlFlags ∧
      WithinSteps (gatedServo inp tod i time).2.2 := by
  rcases gatedServo_spec inp tod i time with ⟨-, he⟩ | ⟨-, -, -, he⟩ | ⟨-, -, he⟩
  · rw [he]
    exact ⟨StampStep.refl i, rfl, withinSteps_nil⟩
  · rw [he]
    exact ⟨.inl ⟨rfl, rfl, rfl⟩, rfl, by simp [WithinSteps]⟩
  · dsimp only at he
    rw [he]
    let i' : Instance := { i with alarms := { i.alarms with shmBadSignal := false } }
    refine ⟨shmServoUpdate_stampStep inp tod i' time.time tod.status.offsetFromMaster,
      (shmServoUpdate_frame inp tod i' time.time tod.status.offsetFromMaster).2.2.1, ?_⟩
    refine WithinSteps.append (by split <;> simp [WithinSteps]) fun e he => ?_
    rcases List.mem_cons.mp he with rfl | he
    · trivial
    · exact shmServoUpdate_withinSteps inp tod _ _ _ e he

/-- **Event step**: in SLAVE, the period of an event whose timestamp was read
after the last step is computed from a recorded timestamp read after it too,
and the bookkeeping the event leaves is that of a step or of no step. -/
theorem shmSlaveEvent_stamps (inp : PollInput) (tod : TimeOfDay) (i : Instance) (seqNum : Nat)
    (time : StampedTime) (h : StampsCurrent i) (ht : time.steps = i.steps) :
    (shmSlaveEvent inp tod i seqNum time).2.1.ctrlFlags = i.ctrlFlags ∧
      ((shmSlaveEvent inp tod i seqNum time).2.1.stepOccurred = true ∨
        (shmSlaveEvent inp tod i seqNum time).2.1.steps = i.steps) ∧
      (i.ctrlFlags.timestampProcessing = false → StampStep i (shmSlaveEvent inp tod i seqNum time).2.1) ∧
      WithinSteps (shmSlaveEvent inp tod i seqNum time).2.2 := by
  rcases shmSlaveEvent_spec inp tod i time seqNum with ⟨htp, he⟩ | ⟨htp, -, he⟩ | ⟨htp, hst, he⟩
  · rw [he]
    exact ⟨rfl, .inr rfl, fun _ => .inl ⟨rfl, rfl, rfl⟩, withinSteps_nil⟩
  · rw [he]
    exact ⟨rfl, .inr rfl, fun h' => absurd (htp.symm.trans h') Bool.noConfusion, withinSteps_nil⟩
  · rw [he]
    obtain ⟨hn, -, -, hc⟩ := recordPeriod_frame (seqCheck i seqNum) time
    obtain ⟨hs, hc', hw⟩ := gatedServo_stampStep inp tod (recordPeriod (seqCheck i seqNum) time).1 time
    have hp : WithinSteps (recordPeriod (seqCheck i seqNum) time).2 := by
      rcases recordPeriod_spec (seqCheck i seqNum) time with ⟨-, he⟩ | ⟨hsec, he, -⟩
      · rw [he]
        exact withinSteps_nil
      · rw [he]
        intro e he'
        rw [List.mem_singleton.mp he']
        exact ht.trans (h hst hsec).symm
    refine ⟨hc'.trans hc, ?_, fun h' => absurd (htp.symm.trans h') Bool.noConfusion, hp.append hw⟩
    rcases hs with ⟨hn', -, -⟩ | ho
    · exact .inr (hn'.trans hn)
    · exact .inl ho

theorem shmOnShmEvent_stamps (inp : PollInput) (tod : TimeOfDay) (i : Instance) (seqNum : Nat)
    (time : StampedTime) (h : StampsCurrent i) (ht : time.steps = i.steps) :
    StampsCurrent (shmOnShmEvent inp tod i seqNum time).2.1 ∧
      WithinSteps (shmOnShmEvent inp tod i seqNum time).2.2 := by
  have key : ∀ r : TimeOfDay × Instance × List ShmEffect,
      r.2.1.ctrlFlags = i.ctrlFlags → (r.2.1.stepOccurred = true ∨ r.2.1.steps = i.steps) →
      (i.ctrlFlags.timestampProcessing = false → StampStep i r.2.1) →
      StampsCurrent { r.2.1 with
        shmSeqNum := seqNum
        lastShmTime := inp.monoEvent
        shmTimestamp := if r.2.1.ctrlFlags.timestampProcessing then time else r.2.1.shmTimestamp } := by
    intro r hc hsteps hoff
    cases htp : i.ctrlFlags.timestampProcessing
    · simp only [hc, htp, Bool.false_eq_true, if_false]
      exact (hoff htp).stampsCurrent h
    · simp only [hc, htp, if_true]
      rcases hsteps with ho | hn
      · intro ho'
        exact absurd (ho.symm.trans ho') Bool.noConfusion
      · exact fun _ _ => ht.trans hn.symm
  unfold shmOnShmEvent
  split
  · exact ⟨key _ rfl (.inr rfl) fun _ => .inl ⟨rfl, rfl, rfl⟩, withinSteps_nil⟩
  · exact ⟨key _ rfl (.inr rfl) fun _ => .inl ⟨rfl, rfl, rfl⟩, withinSteps_nil⟩
  · obtain ⟨hc, hsteps, hoff, hw⟩ := shmSlaveEvent_stamps inp tod i seqNum time h ht
    exact ⟨key _ hc hsteps hoff, hw⟩

/-! ## A poll -/

theorem shmStateMachineReset_stampsCurrent (i : Instance) : StampsCurrent (shmStateMachineReset i) :=
  stampsCurrent_of_sec rfl

theorem shmOnNoShmEvent_stampsCurrent (now : Timespec) {i : Instance} (h : StampsCurrent i) :
    StampsCurrent (shmOnNoShmEvent now i) := by
  unfold shmOnNoShmEvent
  split
  · exact h
  · dsimp only
    split_ifs
    · exact shmStateMachineReset_stampsCurrent i
    · exact h
    · exact h
  · exact shmStateMachineReset_stampsCurrent i

theorem shmOnShmError_stampsCurrent {i : Instance} (h : StampsCurrent i) : StampsCurrent (shmOnShmError i) := by
  unfold shmOnShmError
  split
  · exact stampsCurrent_of_sec rfl
  · exact stampsCurrent_of_sec rfl
  · exact h

theorem shmTimeOfDayPoll_stampStep (inp : PollInput) (tod : TimeOfDay) (i : Instance) :
    StampStep i (shmTimeOfDayPoll inp tod i).2.1 ∧ WithinSteps (shmTimeOfDayPoll inp tod i).2.2 := by
  have hu : ∀ t : TimeOfDay, WithinSteps (todStatusUpdate inp t i.clock).2 := fun _ e he => by
    rw [todStatusUpdate_effects inp _ he]
    trivial
  unfold shmTimeOfDayPoll
  split_ifs
  · exact ⟨StampStep.refl i, withinSteps_nil⟩
  · refine ⟨.inl ⟨rfl, rfl, rfl⟩, ?_⟩
    dsimp only
    split_ifs <;> first | exact hu _ | exact withinSteps_nil

theorem shmHandleGet_stamps (inp : PollInput) (tod : TimeOfDay) {i : Instance} (h : StampsCurrent i) :
    ∀ get, StampsCurrent (shmHandleGet inp tod i get).2.1 ∧ WithinSteps (shmHandleGet inp tod i get).2.2
  | .event seqNum t => shmOnShmEvent_stamps inp tod i seqNum ⟨t, i.steps⟩ h rfl
  | .again => ⟨shmOnNoShmEvent_stampsCurrent _ h, withinSteps_nil⟩
  | .error _ => ⟨shmOnShmError_stampsCurrent h, withinSteps_nil⟩

/-- The convergence update sets `synchronized` alone. -/
theorem shmConvergenceUpdate_stampStep (mono : Option Timespec) (converged : Bool) (i : Instance) :
    StampStep i (shmConvergenceUpdate mono converged i) := by
  unfold shmConvergenceUpdate
  split_ifs <;> exact .inl ⟨rfl, rfl, rfl⟩

theorem reportState_stampStep (mono : Option Timespec) (converged : Bool) (i : Instance) :
    StampStep i (reportState mono converged i).1 ∧ WithinSteps (reportState mono converged i).2 := by
  refine ⟨shmConvergenceUpdate_stampStep mono converged i, fun e he => ?_⟩
  simp only [reportState] at he
  split at he
  · rw [List.mem_singleton.mp he]
    trivial
  · cases he

/-- **Poll step**: a poll keeps `StampsCurrent`, and every period it computes
is between two timestamps read between the same steps. -/
theorem shmDoPoll_stamps (inp : PollInput) (tod : TimeOfDay) {i : Instance} (h : StampsCurrent i) :
    StampsCurrent (shmDoPoll inp tod i).2.1 ∧ WithinSteps (shmDoPoll inp tod i).2.2.1 := by
  obtain ⟨hc, hw⟩ := shmHandleGet_stamps inp tod h (pollGet inp i)
  obtain ⟨hs, hw'⟩ := shmTimeOfDayPoll_stampStep inp (shmHandleGet inp tod i (pollGet inp i)).1
    (shmHandleGet inp tod i (pollGet inp i)).2.1
  obtain ⟨hr, hw''⟩ := reportState_stampStep inp.monoConvergence inp.converged
    (shmTimeOfDayPoll inp (shmHandleGet inp tod i (pollGet inp i)).1 (shmHandleGet inp tod i (pollGet inp i)).2.1).2.1
  exact ⟨hr.stampsCurrent (hs.stampsCurrent hc), (hw.append hw').append hw''⟩

/-! ## Handlers and runs -/

theorem pollLoop_stamps : ∀ (ps : List PollInput) (tod : TimeOfDay) {i : Instance}, StampsCurrent i →
    StampsCurrent (pollLoop ps tod i).2.1 ∧ WithinSteps (pollLoop ps tod i).2.2
  | [], _, _, h => ⟨h, withinSteps_nil⟩
  | p :: ps, tod, i, h => by
    obtain ⟨h₁, hw₁⟩ := shmDoPoll_stamps p tod h
    dsimp only [pollLoop]
    split
    · obtain ⟨h₂, hw₂⟩ := pollLoop_stamps ps (shmDoPoll p tod i).1 h₁
      exact ⟨h₂, hw₁.append hw₂⟩
    · exact ⟨h₁, hw₁⟩

theorem shmTimerInstance_stamps (inp : TimerInput) (tod : TimeOfDay) {i : Instance} (h : StampsCurrent i) :
    StampsCurrent (shmTimerInstance inp tod i).2.1 ∧ WithinSteps (shmTimerInstance inp tod i).2.2 := by
  have hp : StampsCurrent (shmPulseCheck inp.monoPulse i) :=
    (show StampStep i (shmPulseCheck inp.monoPulse i) by
      unfold shmPulseCheck
      split_ifs <;> exact .inl ⟨rfl, rfl, rfl⟩).stampsCurrent h
  dsimp only [shmTimerInstance]
  split
  · exact pollLoop_stamps _ _ hp
  · exact ⟨shmOnNoShmEvent_stampsCurrent _ hp, withinSteps_nil⟩

/-- The invariant of every instance of the module. -/
def StampsInv (m : ShmModule) : Prop := ∀ i ∈ m.instances, StampsCurrent i

/-- A handler run on each instance in turn keeps the invariant of each. -/
theorem forInstances_stamps {f : Nat → TimeOfDay → Instance → TimeOfDay × Instance × List ShmEffect}
    (hf : ∀ k tod i, StampsCurrent i → StampsCurrent (f k tod i).2.1 ∧ WithinSteps (f k tod i).2.2) :
    ∀ (k : Nat) (tod : TimeOfDay) (is : List Instance), (∀ i ∈ is, StampsCurrent i) →
      (∀ i ∈ (forInstances f k tod is).2.1, StampsCurrent i) ∧ WithinSteps (forInstances f k tod is).2.2
  | _, _, [], _ => ⟨fun _ h => absurd h (List.not_mem_nil _), withinSteps_nil⟩
  | k, tod, i :: is, h => by
    obtain ⟨h₁, hw₁⟩ := hf k tod i (h i (List.mem_cons_self _ _))
    obtain ⟨h₂, hw₂⟩ := forInstances_stamps hf (k + 1) (f k tod i).1 is
      fun j hj => h j (List.mem_cons_of_mem _ hj)
    refine ⟨fun j hj => ?_, hw₁.append hw₂⟩
    rcases List.mem_cons.mp hj with rfl | hj
    · exact h₁
    · exact h₂ j hj

theorem shmOnTimer_stamps (inputs : Nat → TimerInput) {m : ShmModule} (h : StampsInv m) :
    StampsInv (shmOnTimer inputs m).1 ∧ WithinSteps (shmOnTimer inputs m).2 :=
  forInstances_stamps (fun k tod _ hi => shmTimerInstance_stamps (inputs k) tod hi) 0 _ _ h

theorem shmOnUserFd_stamps {m : ShmModule} (h : StampsInv m) (fd : Int) (inputs : Nat → PollInput) :
    StampsInv (shmOnUserFd m fd inputs).1 ∧ WithinSteps (shmOnUserFd m fd inputs).2 :=
  forInstances_stamps (fun k tod i hi => by
    unfold shmFdInstance
    split
    · exact shmDoPoll_stamps (inputs k) tod hi
    · exact ⟨hi, withinSteps_nil⟩) 0 _ _ h

theorem shmOnUserFds_stamps (fds : List (Int × (Nat → PollInput))) {m : ShmModule} (h : StampsInv m) :
    StampsInv (shmOnUserFds fds m).1 ∧ WithinSteps (shmOnUserFds fds m).2 := by
  unfold shmOnUserFds
  suffices ∀ acc : ShmModule × List ShmEffect, StampsInv acc.1 → WithinSteps acc.2 →
      StampsInv (fds.foldl (fun acc fd => ((shmOnUserFd acc.1 fd.1 fd.2).1, acc.2 ++ (shmOnUserFd acc.1 fd.1 fd.2).2)) acc).1 ∧
      WithinSteps (fds.foldl (fun acc fd => ((shmOnUserFd acc.1 fd.1 fd.2).1, acc.2 ++ (shmOnUserFd acc.1 fd.1 fd.2).2)) acc).2 from
    this (m, []) h withinSteps_nil
  induction fds with
  | nil => exact fun _ h hw => ⟨h, hw⟩
  | cons fd fds ih =>
    intro acc h hw
    obtain ⟨h', hw'⟩ := shmOnUserFd_stamps h fd.1 fd.2
    exact ih _ h' (hw.append hw')

theorem ShmModule.onInstance_stamps {m : ShmModule} (h : StampsInv m) {k : Nat}
    {f : TimeOfDay → Instance → TimeOfDay × Instance × List ShmEffect}
    (hf : ∀ tod i, StampsCurrent i → StampsCurrent (f tod i).2.1 ∧ WithinSteps (f tod i).2.2)
    {m' : ShmModule} {effs : List ShmEffect} (he : m.onInstance k f = some (m', effs)) :
    StampsInv m' ∧ WithinSteps effs := by
  unfold ShmModule.onInstance at he
  split at he
  · cases he
  · rename_i i hi
    cases he
    obtain ⟨h₁, hw₁⟩ := hf m.timeOfDay i (h i (List.get?_mem hi))
    refine ⟨fun j hj => ?_, hw₁⟩
    rcases List.mem_or_eq_of_mem_set hj with hj | rfl
    · exact h j hj
    · exact h₁

theorem shmOnMessage_stamps {m : ShmModule} (h : StampsInv m) {msg : ShmMsg} {m' : ShmModule}
    {effs : List ShmEffect} (he : shmOnMessage m msg = some (m', effs)) : StampsInv m' ∧ WithinSteps effs := by
  cases msg with
  | run fds =>
    simp only [shmOnMessage] at he
    split at he
    · cases he
    · cases he
      refine ⟨fun j hj => ?_, withinSteps_nil⟩
      obtain ⟨⟨k, i⟩, hki, rfl⟩ := List.mem_map.mp hj
      exact h i (List.of_mem_zip hki).2
  | control k flags mask =>
    simp only [shmOnMessage] at he
    refine ShmModule.onInstance_stamps h (fun tod i hi => ⟨?_, withinSteps_nil⟩) he
    show StampsCurrent (shmOnControl i flags mask)
    unfold shmOnControl
    dsimp only
    split
    · exact stampsCurrent_of_sec rfl
    · exact hi
  | stepClock k offset fc =>
    simp only [shmOnMessage] at he
    exact ShmModule.onInstance_stamps h (fun tod i _ =>
      ⟨fun ho => absurd ho Bool.noConfusion, by simp [shmServoStepClock, WithinSteps]⟩) he
  | testModeBogus k =>
    simp only [shmOnMessage] at he
    exact ShmModule.onInstance_stamps h (fun tod i hi => ⟨hi, withinSteps_nil⟩) he
  | other =>
    cases he
    exact ⟨h, withinSteps_nil⟩

/-- **Run lemma**: every reachable module satisfies `StampsCurrent` in each
instance. -/
theorem reachable_stampsInv {m : ShmModule} (h : Reachable m) : StampsInv m := by
  induction h with
  | startup insts todFound now =>
    intro i hi
    obtain ⟨c, -, rfl⟩ := List.mem_map.mp hi
    exact stampsCurrent_of_sec rfl
  | timer inputs _ _ ih => exact (shmOnTimer_stamps inputs ih).1
  | userFds fds _ _ ih => exact (shmOnUserFds_stamps fds ih).1
  | message _ he ih => exact (shmOnMessage_stamps ih he).1

/-- One instance in polling mode, on clock 1, stepping and slewing with no
outlier filter. -/
def demoConfig : InstanceConfig := ⟨0, .slewAndStep, 100000000, false⟩

/-- In every run of the module, every period `shm_on_shm_event` computes (and
feeds to the notch filter) is the difference of two event timestamps read
between the same two clock steps, whichever handler computes it: a timer
tick, a descriptor event or a message. -/
theorem shm_periods_within_step {m : ShmModule} (h : Reachable m) :
    (∀ inputs newer older ok, ShmEffect.period newer older ok ∈ (shmOnTimer inputs m).2 →
      newer.steps = older.steps) ∧
    (∀ fds newer older ok, ShmEffect.period newer older ok ∈ (shmOnUserFds fds m).2 →
      newer.steps = older.steps) ∧
    (∀ msg m' effs, shmOnMessage m msg = some (m', effs) →
      ∀ newer older ok, ShmEffect.period newer older ok ∈ effs → newer.steps = older.steps) := by
  have hinv := reachable_stampsInv h
  exact ⟨fun inputs _ _ _ hm => (shmOnTimer_stamps inputs hinv).2 _ hm,
    fun fds _ _ _ hm => (shmOnUserFds_stamps fds hinv).2 _ hm,
    fun _ _ _ he _ _ _ hm => (shmOnMessage_stamps hinv he).2 _ hm⟩

theorem shm_periods_within_step_startup :
    Reachable (ShmModule.startup [(demoConfig, 1, 0)] true .zero) ∧
    ((∀ inputs newer older ok,
        ShmEffect.period newer older ok ∈ (shmOnTimer inputs (ShmModule.startup [(demoConfig, 1, 0)] true .zero)).2 →
        newer.steps = older.steps) ∧
      (∀ fds newer older ok,
        ShmEffect.period newer older ok ∈ (shmOnUserFds fds (ShmModule.startup [(demoConfig, 1, 0)] true .zero)).2 →
        newer.steps = older.steps) ∧
      (∀ msg m' effs, shmOnMessage (ShmModule.startup [(demoConfig, 1, 0)] true .zero) msg = some (m', effs) →
        ∀ newer older ok, ShmEffect.period newer older ok ∈ effs → newer.steps = older.steps)) :=
  ⟨.startup _ _ _, shm_periods_within_step (.startup _ _ _)⟩

end Sfptpd.Shm
