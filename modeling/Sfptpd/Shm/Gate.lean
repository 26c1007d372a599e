import Sfptpd.Shm.Timestamps

/-!
# The good-period gate of the servo (shm/sfptpd_shm_module.c:1513–1585, 1931–1967)

An event in SLAVE runs `shm_servo_update` only when it is the third or later
of a row of good periods: each event computes the period from the timestamp
recorded before it, the notch filter judges the period, and a rejected period
zeroes the count. The count is only reset by the state machine; `shm_on_control`
zeroes the recorded timestamp when timestamp processing is switched off and
leaves "everything else alone", so the count survives the switch.

- `shmSlaveEvent_servo`, `shmOnShmEvent_servo_after_good_period`: the servo
  runs on the event itself, with three or more good periods counted, and on a
  period accepted just now whenever a timestamp was recorded before the event;
- `servo_runs_after_timestamp_processing_toggle`: a run in which switching
  timestamp processing off and on again lets the next event run the servo with
  no period computed at all.
-/

namespace Sfptpd.Shm

/-! ## Inputs of the runs of this and the later modules -/

/-- A poll whose driver result is `get`, at monotonic second `t`, with the
time-of-day module in SLAVE at offset zero, the feed comparison at zero and
every filter passing. -/
def steadyPoll (get : ShmGet) (t : Int) : PollInput where
  get := get
  bogusGet := .again
  monoNoEvent := ⟨t, 0⟩
  monoEvent := ⟨t, 0⟩
  monoTod := ⟨t, 0⟩
  monoTodInit := ⟨t, 0⟩
  monoConvergence := some ⟨t, 0⟩
  outlierAccepts := true
  firMean := 0
  pidOutput := 0
  freqCorrection := 0
  todLookup := true
  todStatus := some ⟨.slave, .zero⟩
  systemToNic := some .zero
  converged := false
  clusteringScore := 0

/-- A timer tick at monotonic second `t` in which every instance meets `polls`. -/
def steadyTick (polls : List PollInput) (t : Int) : Nat → TimerInput := fun _ => ⟨⟨t, 0⟩, ⟨t, 0⟩, polls⟩

/-- An instance in SLAVE with two good periods and a timestamp recorded at
100 s. -/
def twoGoodPeriods : Instance :=
  { Instance.start demoConfig 1 0 with
    state := .slave, consecutiveGoodPeriods := 2, shmTimestamp := ⟨⟨100, 0⟩, 0⟩ }

/-! ## Where a servo update can come from -/

/-- The servo itself reports no servo update. -/
theorem shmServoUpdate_no_servoUpdate (inp : PollInput) (tod : TimeOfDay) (i : Instance) (time timeOfDay : Timespec)
    (t : StampedTime) (o : Timespec) : ShmEffect.servoUpdate t o ∉ (shmServoUpdate inp tod i time timeOfDay).2.2 := by
  dsimp only [shmServoUpdate, shmServoStepClock]
  split_ifs <;> simp

/-- The period step only reports periods. -/
theorem recordPeriod_no_servoUpdate (i : Instance) (time t : StampedTime) (o : Timespec) :
    ShmEffect.servoUpdate t o ∉ (recordPeriod i time).2 := by
  rcases recordPeriod_spec i time with ⟨-, he⟩ | ⟨-, he, -⟩ <;> simp [he]

/-- A servo update out of the gate is on the event and the shared
time-of-day offset, and the gate let it through with at least three good
periods, which the servo leaves alone. -/
theorem gatedServo_servoUpdate {inp : PollInput} {tod : TimeOfDay} {i : Instance} {time t : StampedTime}
    {o : Timespec} (hs : ShmEffect.servoUpdate t o ∈ (gatedServo inp tod i time).2.2) :
    (t = time ∧ o = tod.status.offsetFromMaster) ∧ shmRequiredGoodPeriods ≤ i.consecutiveGoodPeriods ∧
      (gatedServo inp tod i time).2.1.consecutiveGoodPeriods = i.consecutiveGoodPeriods := by
  rcases gatedServo_spec inp tod i time with ⟨-, he⟩ | ⟨-, -, -, he⟩ | ⟨hg, -, he⟩
  · simp [he] at hs
  · simp [he] at hs
  · dsimp only at he
    rw [he] at hs ⊢
    refine ⟨?_, hg, (shmServoUpdate_frame _ _ _ _ _).2.2.2⟩
    rcases List.mem_append.mp hs with hf | hs
    · split at hf <;> simp at hf
    · rcases List.mem_cons.mp hs with he | hs
      · exact ShmEffect.servoUpdate.inj he
      · exact absurd hs (shmServoUpdate_no_servoUpdate _ _ _ _ _ _ _)

/-- **The gate of an event in SLAVE**: a servo update is on the event and the
shared time-of-day offset, after at least three good periods, and on a period
just accepted by the notch filter whenever a timestamp was recorded before the
event. -/
theorem shmSlaveEvent_servo {inp : PollInput} {tod : TimeOfDay} {i : Instance} {seqNum : Nat}
    {time t : StampedTime} {o : Timespec}
    (hs : ShmEffect.servoUpdate t o ∈ (shmSlaveEvent inp tod i seqNum time).2.2) :
    (t = time ∧ o = tod.status.offsetFromMaster) ∧
      shmRequiredGoodPeriods ≤ (shmSlaveEvent inp tod i seqNum time).2.1.consecutiveGoodPeriods ∧
      (i.shmTimestamp.time.sec ≠ 0 → ShmEffect.period time i.shmTimestamp true ∈ (shmSlaveEvent inp tod i seqNum time).2.2) := by
  rcases shmSlaveEvent_spec inp tod i time seqNum with ⟨-, he⟩ | ⟨-, -, he⟩ | ⟨-, -, he⟩
  · simp [he] at hs
  · simp [he] at hs
  · rw [he] at hs ⊢
    rcases List.mem_append.mp hs with hp | hg
    · exact absurd hp (recordPeriod_no_servoUpdate _ _ _ _)
    obtain ⟨⟨rfl, ho⟩, hgood, hcgp⟩ := gatedServo_servoUpdate hg
    refine ⟨⟨rfl, ho⟩, hcgp ▸ hgood, fun hts => ?_⟩
    -- `seqCheck` keeps the recorded timestamp, so the period was computed
    rcases recordPeriod_spec (seqCheck i seqNum) t with ⟨h0, -⟩ | ⟨-, hpe, hc⟩
    · exact absurd h0 hts
    · cases ha : notchFilterAccepts (t.time.sub i.shmTimestamp.time).toNs
      · rw [hc, seqCheck, ha, if_neg Bool.false_ne_true] at hgood
        exact absurd hgood (by decide)
      · rw [hpe, seqCheck, ha]
        exact List.mem_append_left _ (List.mem_singleton_self _)

/-- `shm_on_shm_event` calls `shm_servo_update` on an event only with at
least three consecutive good periods counted and, whenever a timestamp was
recorded before the event (non-zero seconds), on the period from it to the
event, computed now and accepted by the notch filter. -/
theorem shmOnShmEvent_servo_after_good_period {inp : PollInput} {tod : TimeOfDay} {i : Instance}
    {seqNum : Nat} {time t : StampedTime} {o : Timespec}
    (hs : ShmEffect.servoUpdate t o ∈ (shmOnShmEvent inp tod i seqNum time).2.2) :
    t = time ∧ shmRequiredGoodPeriods ≤ (shmOnShmEvent inp tod i seqNum time).2.1.consecutiveGoodPeriods ∧
      (i.shmTimestamp.time.sec ≠ 0 →
        ShmEffect.period time i.shmTimestamp true ∈ (shmOnShmEvent inp tod i seqNum time).2.2) := by
  cases hst : i.state with
  | listening | faulty => simp [shmOnShmEvent, hst] at hs
  | slave =>
    simp only [shmOnShmEvent, hst] at hs ⊢
    obtain ⟨⟨ht, -⟩, hgood⟩ := shmSlaveEvent_servo hs
    exact ⟨ht, hgood⟩

theorem shmOnShmEvent_servo_after_good_period_third :
    ShmEffect.servoUpdate ⟨⟨101, 0⟩, 0⟩ .zero ∈
        (shmOnShmEvent (steadyPoll (.event 1 ⟨101, 0⟩) 1) ⟨true, .zero, ⟨.slave, .zero⟩⟩ twoGoodPeriods 1
          ⟨⟨101, 0⟩, 0⟩).2.2 ∧
      (⟨⟨101, 0⟩, 0⟩ = (⟨⟨101, 0⟩, 0⟩ : StampedTime) ∧
        shmRequiredGoodPeriods ≤ (shmOnShmEvent (steadyPoll (.event 1 ⟨101, 0⟩) 1) ⟨true, .zero, ⟨.slave, .zero⟩⟩
          twoGoodPeriods 1 ⟨⟨101, 0⟩, 0⟩).2.1.consecutiveGoodPeriods ∧
        (twoGoodPeriods.shmTimestamp.time.sec ≠ 0 →
          ShmEffect.period ⟨⟨101, 0⟩, 0⟩ twoGoodPeriods.shmTimestamp true ∈
            (shmOnShmEvent (steadyPoll (.event 1 ⟨101, 0⟩) 1) ⟨true, .zero, ⟨.slave, .zero⟩⟩ twoGoodPeriods 1
              ⟨⟨101, 0⟩, 0⟩).2.2)) :=
  have hs : ShmEffect.servoUpdate ⟨⟨101, 0⟩, 0⟩ .zero ∈
      (shmOnShmEvent (steadyPoll (.event 1 ⟨101, 0⟩) 1) ⟨true, .zero, ⟨.slave, .zero⟩⟩ twoGoodPeriods 1
        ⟨⟨101, 0⟩, 0⟩).2.2 := by decide
  ⟨hs, shmOnShmEvent_servo_after_good_period hs⟩

/-! ## Runs -/

/-- The control flags with only timestamp processing set, as flags and as a
mask. -/
def timestampProcessingOnly : CtrlFlags := ⟨true, false, false⟩

/-- One instance polling on clock 1: four events one second apart (three good
periods, the servo runs on the fourth), then a `CONTROL` that switches
timestamp processing off and one that switches it on again. The count of good
periods is still three and the recorded timestamp is zero, so the next event
runs the servo and computes no period. -/
theorem servo_runs_after_timestamp_processing_toggle :
    ∃ m, Reachable m ∧ m.instances.map (·.consecutiveGoodPeriods) = [3] ∧
      m.instances.map (·.shmTimestamp.time) = [.zero] ∧
      (shmOnTimer (steadyTick [steadyPoll (.event 5 ⟨104, 0⟩) 5, steadyPoll .again 5] 5) m).2 =
        [.servoUpdate ⟨⟨104, 0⟩, 0⟩ .zero] :=
  ⟨_, @Reachable.message _ _ (.control 0 timestampProcessingOnly timestampProcessingOnly) _
    (@Reachable.message _ _ (.control 0 ⟨false, false, false⟩ timestampProcessingOnly) _
      (.timer (steadyTick [steadyPoll (.event 1 ⟨100, 0⟩) 1, steadyPoll (.event 2 ⟨101, 0⟩) 2,
          steadyPoll (.event 3 ⟨102, 0⟩) 3, steadyPoll (.event 4 ⟨103, 0⟩) 4, steadyPoll .again 4] 4)
        (@Reachable.message _ _ (.run fun _ => -1) _ (.startup [(demoConfig, 1, 0)] true .zero) rfl) rfl) rfl) rfl,
    by decide⟩

end Sfptpd.Shm
