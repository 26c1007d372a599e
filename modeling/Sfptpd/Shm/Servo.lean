import Sfptpd.Shm.State

/-!
# The servo, the convergence measure and the state machine reset
(shm/sfptpd_shm_module.c:734–893, 1186–1243, 1326–1342)

- `shmServoReset`, `shmServoStepClock`, `shmServoUpdate`: the servo. A step
  zeroes the instance's recorded timestamp and the shared time-of-day offset,
  and sets `step_occurred`; the ghost step counter counts it;
- `servoDiff_toNs`: the offset of an event is its phase placed within half a
  second of the time of day rounded to the second (`nearestPhase`), as the
  comment at line 818 says; it is up to a second from the value within half a
  second of the time of day itself (`servoDiff_within_a_second`,
  `servoDiff_off_by_a_second`);
- `shmConvergenceUpdate`: `synchronized` from the convergence measure;
- `shmStateMachineReset`: back to LISTENING, with the previous state and
  alarms overwritten as well;
- `shmServoUpdate_adjustTime`, `shmServoUpdate_stepForward`: the servo steps
  the clock only when the policy asks for it on `diff_ns`, the offset less the
  propagation delay, and clock control is on. It steps by `-diff`, without the
  delay, so under the step-forward policy it steps back whenever the delay
  exceeds `-diff_ns`.
-/

namespace Sfptpd.Shm

/-- `shm_servo_reset` (lines 734–754). The FIR and PID filters are outside the
model; the reset zeroes the shared time-of-day offset and the instance's
recorded timestamp. -/
def shmServoReset (freqCorrection : Int) (tod : TimeOfDay) (i : Instance) : TimeOfDay × Instance :=
  ({ tod with status := { tod.status with offsetFromMaster := .zero } },
    { i with
      freqAdjustBase := freqCorrection
      freqAdjustPpb := freqCorrection
      offsetFromMasterNs := 0
      shmTimestamp := { i.shmTimestamp with time := .zero }
      shmPeriodNs := 0 })

/-- `shm_servo_step_clock` (lines 757–797): step the clock back by `offset`,
restore its frequency, reset the servo, step the time-of-day module, and mark
the step. -/
def shmServoStepClock (freqCorrection : Int) (tod : TimeOfDay) (i : Instance) (offset : Timespec) :
    TimeOfDay × Instance × List ShmEffect :=
  let r := shmServoReset freqCorrection tod i
  (r.1, { r.2 with stepOccurred := true, steps := i.steps + 1 },
    [.adjustTime (Timespec.zero.sub offset), .adjustFrequency freqCorrection, .stepTimeOfDay])

/-- The offset `shm_servo_update` builds (lines 817–827): the seconds of the
time of day rounded to the nearest second, less one when the event's
nanoseconds are in the upper half, and the event's nanoseconds. -/
def servoDiff (shmTimestamp timeOfDay : Timespec) : Timespec :=
  let sec := if 500000000 ≤ timeOfDay.nsec then timeOfDay.sec + 1 else timeOfDay.sec
  ⟨if 500000000 ≤ shmTimestamp.nsec then sec - 1 else sec, shmTimestamp.nsec⟩

/-- The step decision of `shm_servo_update` (lines 840–844). -/
def wantsStep (ctrl : ClockCtrl) (servoActive : Bool) (diffNs : Int) : Bool :=
  (ctrl = .slewAndStep || (ctrl = .stepAtStartup && !servoActive) || (ctrl = .stepForward && decide (diffNs < 0))) &&
    decide (diffNs ≤ -shmClockStepThreshold ∨ shmClockStepThreshold ≤ diffNs)

/-- `freq_adjust_ppb` saturated to `±freq_adjust_max` (lines 868–872). -/
def saturate (max ppb : Int) : Int :=
  if max < ppb then max else if ppb < -max then -max else ppb

/-- `shm_servo_update` (lines 800–893), on the event timestamp `time` and the
time-of-day offset `timeOfDay`. -/
def shmServoUpdate (inp : PollInput) (tod : TimeOfDay) (i : Instance) (time timeOfDay : Timespec) :
    TimeOfDay × Instance × List ShmEffect :=
  let diff := servoDiff time timeOfDay
  let diffNs := diff.toNs - i.config.propagationDelay
  if wantsStep i.config.clockCtrl i.servoActive diffNs then
    if i.ctrlFlags.clockCtrl then
      let r := shmServoStepClock inp.freqCorrection tod i diff
      (r.1, { r.2.1 with servoActive := true }, r.2.2)
    else (tod, i, [])
  else
    let i := { i with offsetFromMasterNs := inp.firMean, freqAdjustPpb := i.freqAdjustBase }
    if i.ctrlFlags.clockCtrl then
      let ppb := saturate i.config.freqAdjustMax (i.freqAdjustPpb + inp.pidOutput)
      (tod, { i with freqAdjustPpb := ppb, servoActive := true }, [.adjustFrequency ppb])
    else (tod, i, [])

/-- `shm_convergence_update` (lines 1211–1243): `synchronized` is cleared out
of SLAVE or when the monotonic clock fails, left alone while an alarm is
raised or timestamp processing is off, and otherwise the convergence
measure's verdict. -/
def shmConvergenceUpdate (mono : Option Timespec) (converged : Bool) (i : Instance) : Instance :=
  if mono.isNone || i.state != .slave then { i with synchronized := false }
  else if i.alarms != .none || !i.ctrlFlags.timestampProcessing then i
  else { i with synchronized := converged }

/-- `shm_state_machine_reset` (lines 1326–1342). -/
def shmStateMachineReset (i : Instance) : Instance :=
  { i with
    state := .listening
    prevState := .listening
    alarms := .none
    prevAlarms := .none
    consecutiveGoodPeriods := 0
    shmTimestamp := { i.shmTimestamp with time := .zero }
    shmSeqNum := 0
    shmPeriodNs := 0 }

/-! ## What the servo does to the timestamps -/

section Frame

variable (fc : Int) (tod : TimeOfDay) (i : Instance)

@[simp] theorem shmServoReset_state : (shmServoReset fc tod i).2.state = i.state := rfl
@[simp] theorem shmServoReset_steps : (shmServoReset fc tod i).2.steps = i.steps := rfl
@[simp] theorem shmServoReset_stepOccurred : (shmServoReset fc tod i).2.stepOccurred = i.stepOccurred := rfl
@[simp] theorem shmServoReset_ctrlFlags : (shmServoReset fc tod i).2.ctrlFlags = i.ctrlFlags := rfl
@[simp] theorem shmServoReset_alarms : (shmServoReset fc tod i).2.alarms = i.alarms := rfl
@[simp] theorem shmServoReset_shmTimestamp :
    (shmServoReset fc tod i).2.shmTimestamp = { i.shmTimestamp with time := .zero } := rfl

end Frame

/-- **Servo update**: it steps the clock at most once, and a step marks
`step_occurred`; without a step the timestamps and the step count are left
alone. -/
theorem shmServoUpdate_cases (inp : PollInput) (tod : TimeOfDay) (i : Instance) (time timeOfDay : Timespec) :
    let r := shmServoUpdate inp tod i time timeOfDay
    (r.2.1.steps = i.steps ∧ r.2.1.stepOccurred = i.stepOccurred ∧ r.2.1.shmTimestamp = i.shmTimestamp) ∨
      (r.2.1.steps = i.steps + 1 ∧ r.2.1.stepOccurred = true) := by
  simp only [shmServoUpdate]
  split_ifs
  · exact .inr ⟨rfl, rfl⟩
  all_goals exact .inl ⟨rfl, rfl, rfl⟩

/-- The servo leaves the state, the alarms and the control flags alone. -/
theorem shmServoUpdate_frame (inp : PollInput) (tod : TimeOfDay) (i : Instance) (time timeOfDay : Timespec) :
    (shmServoUpdate inp tod i time timeOfDay).2.1.state = i.state ∧
      (shmServoUpdate inp tod i time timeOfDay).2.1.alarms = i.alarms ∧
      (shmServoUpdate inp tod i time timeOfDay).2.1.ctrlFlags = i.ctrlFlags ∧
      (shmServoUpdate inp tod i time timeOfDay).2.1.consecutiveGoodPeriods = i.consecutiveGoodPeriods := by
  simp only [shmServoUpdate]
  split_ifs <;> exact ⟨rfl, rfl, rfl, rfl⟩

/-! ## The offset of an event -/

/-- The value congruent to the phase `h` modulo one second that lies in
`[target - 0.5 s, target + 0.5 s)`, in nanoseconds: the offset as the spec
describes it, for a time of day `target`, to compare with `servoDiff`. -/
def nearestPhase (target h : Int) : Int :=
  target - 500000000 + (h - (target - 500000000)) % 1000000000

/-- `nearestPhase` is the value it is described as: congruent to `h`, within
half a second of the target, and the only such value. -/
theorem nearestPhase_spec (target h : Int) :
    nearestPhase target h % 1000000000 = h % 1000000000 ∧
      target - 500000000 ≤ nearestPhase target h ∧ nearestPhase target h < target + 500000000 ∧
      ∀ v, v % 1000000000 = h % 1000000000 → target - 500000000 ≤ v → v < target + 500000000 →
        v = nearestPhase target h := by
  unfold nearestPhase
  refine ⟨by omega, by omega, by omega, fun v hv hlo hhi => by omega⟩

/-- **The code's offset**: for an event phase `h` of a second, `servoDiff`
places it within half a second of the time of day rounded to the second, not
of the time of day itself. -/
theorem servoDiff_toNs (s h : Int) (t : Timespec) (hh : 0 ≤ h) (hh' : h < 1000000000) :
    (servoDiff ⟨s, h⟩ t).toNs = nearestPhase ((if 500000000 ≤ t.nsec then t.sec + 1 else t.sec) * 1000000000) h := by
  simp only [servoDiff, Timespec.toNs, nearestPhase]
  split_ifs <;> omega

/-- At a time of day of 0.49 s, rounded down to 0 s, an event phase of 0.51 s
is placed in [-0.5 s, 0.5 s). -/
theorem servoDiff_toNs_at_half_second :
    (0 : Int) ≤ 510000000 ∧ (510000000 : Int) < 1000000000 ∧
      (servoDiff ⟨0, 510000000⟩ ⟨0, 490000000⟩).toNs =
        nearestPhase ((if 500000000 ≤ (490000000 : Int) then 0 + 1 else 0) * 1000000000) 510000000 :=
  ⟨by decide, by decide, servoDiff_toNs 0 510000000 ⟨0, 490000000⟩ (by decide) (by decide)⟩

/-- On a normalised time of day the code's offset is the described one, or
one second away from it. -/
theorem servoDiff_within_a_second (s h : Int) (t : Timespec) (hh : 0 ≤ h) (hh' : h < 1000000000)
    (ht : 0 ≤ t.nsec) (ht' : t.nsec < 1000000000) :
    (servoDiff ⟨s, h⟩ t).toNs - nearestPhase t.toNs h = -1000000000 ∨
      (servoDiff ⟨s, h⟩ t).toNs = nearestPhase t.toNs h ∨
      (servoDiff ⟨s, h⟩ t).toNs - nearestPhase t.toNs h = 1000000000 := by
  simp only [servoDiff, Timespec.toNs, nearestPhase]
  split_ifs <;> omega

/-- At a time of day of 0.49 s and an event phase of 0.51 s the code builds
an offset of -0.49 s, where the value within half a second of the time of day
is 0.51 s. -/
theorem servoDiff_off_by_a_second :
    (servoDiff ⟨0, 510000000⟩ ⟨0, 490000000⟩).toNs = -490000000 ∧
      nearestPhase (Timespec.toNs ⟨0, 490000000⟩) 510000000 = 510000000 := by
  decide

/-! ## What a step applies -/

/-- **A clock step of the servo**: it was decided on the offset less the
propagation delay (`diff_ns`) with clock control on, and the adjustment passed
to `sfptpd_clock_adjust_time` is the offset `diff` itself, negated, without the
delay. -/
theorem shmServoUpdate_adjustTime {inp : PollInput} {tod : TimeOfDay} {i : Instance} {time timeOfDay a : Timespec}
    (h : ShmEffect.adjustTime a ∈ (shmServoUpdate inp tod i time timeOfDay).2.2) :
    wantsStep i.config.clockCtrl i.servoActive ((servoDiff time timeOfDay).toNs - i.config.propagationDelay) = true ∧
      i.ctrlFlags.clockCtrl = true ∧ a.toNs = -(servoDiff time timeOfDay).toNs := by
  unfold shmServoUpdate at h
  dsimp only at h
  by_cases hw : wantsStep i.config.clockCtrl i.servoActive ((servoDiff time timeOfDay).toNs -
      i.config.propagationDelay) = true
  · rw [if_pos hw] at h
    by_cases hc : i.ctrlFlags.clockCtrl = true
    · rw [if_pos hc] at h
      obtain rfl : a = Timespec.zero.sub (servoDiff time timeOfDay) := by
        simpa [shmServoStepClock] using h
      exact ⟨hw, hc, by rw [Timespec.sub_toNs, Timespec.zero_toNs, zero_sub]⟩
    · rw [if_neg hc] at h
      cases h
  · rw [if_neg hw] at h
    split_ifs at h <;> simp at h

/-- **Stepping forward**: under `SFPTPD_CLOCK_CTRL_STEP_FORWARD` a step is
decided on `diff_ns ≤ -0.5 s`, and it moves the clock backwards exactly when
the propagation delay exceeds `-diff_ns`. -/
theorem shmServoUpdate_stepForward {inp : PollInput} {tod : TimeOfDay} {i : Instance} {time timeOfDay a : Timespec}
    (hctrl : i.config.clockCtrl = .stepForward)
    (h : ShmEffect.adjustTime a ∈ (shmServoUpdate inp tod i time timeOfDay).2.2) :
    shmClockStepThreshold ≤ -((servoDiff time timeOfDay).toNs - i.config.propagationDelay) ∧
      (a.toNs < 0 ↔ -((servoDiff time timeOfDay).toNs - i.config.propagationDelay) < i.config.propagationDelay) := by
  obtain ⟨hw, -, ha⟩ := shmServoUpdate_adjustTime h
  simp only [wantsStep, hctrl, Bool.and_eq_true, Bool.or_eq_true, decide_eq_true_eq, reduceCtorEq, false_or,
    false_and, true_and, shmClockStepThreshold] at hw
  simp only [shmClockStepThreshold]
  omega

end Sfptpd.Shm
