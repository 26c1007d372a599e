import Sfptpd.Shm.Servo

/-!
# One poll of an instance: `shm_do_poll` (shm/sfptpd_shm_module.c:1345–1809)

`shm_do_poll` reads the driver once and hands the result to one of three
handlers, polls the time-of-day module, updates the convergence measure, and
reports the instance's status to the engine when its state, its alarms in
SLAVE or its clustering score have changed since the last poll.

- `shmOnNoShmEvent`, `shmOnShmError`, `shmOnShmEvent`: the three handlers; an
  event in SLAVE goes through `seqCheck`, `recordPeriod` (the period and the
  notch filter) and `gatedServo` (the good-period gate, the outlier filter and
  the servo);
- `shmTimeOfDayPoll`: once a second for the whole module, whichever instance
  polls; it writes the time-of-day offset and the polling instance's
  `NO_TIME_OF_DAY` alarm;
- `shmDoPoll`.
-/

namespace Sfptpd.Shm

/-- `shm_on_no_shm_event` (lines 1345–1388), at monotonic time `now`. -/
def shmOnNoShmEvent (now : Timespec) (i : Instance) : Instance :=
  match i.state with
  | .listening => i
  | .slave =>
    let interval := now.sub i.lastShmTime
    if interval.ge shmTimeoutInterval then shmStateMachineReset i
    else if interval.ge shmAlarmInterval && !i.alarms.shmNoSignal then
      { i with alarms := { i.alarms with shmNoSignal := true } }
    else i
  | .faulty => shmStateMachineReset i

/-- `shm_on_shm_error` (lines 1391–1416). -/
def shmOnShmError (i : Instance) : Instance :=
  match i.state with
  | .listening | .slave => { shmStateMachineReset i with state := .faulty }
  | .faulty => i

/-- The sequence-number check of an event in SLAVE (lines 1484–1500), after
the no-signal alarm is cleared. -/
def seqCheck (i : Instance) (seqNum : Nat) : Instance :=
  { i with alarms := { i.alarms with
      shmNoSignal := false
      shmSeqNumError := seqNum != uint32Max && seqNum != (i.shmSeqNum + 1) % 2 ^ 32 } }

/-- The period of an event and the notch filter (lines 1513–1535): computed
when the recorded timestamp is valid (non-zero seconds); a rejected period
raises `SHM_BAD_SIGNAL` and zeroes the good-period count. -/
def recordPeriod (i : Instance) (time : StampedTime) : Instance × List ShmEffect :=
  if i.shmTimestamp.time.sec ≠ 0 then
    let periodNs := (time.time.sub i.shmTimestamp.time).toNs
    let i := { i with shmPeriodNs := periodNs }
    if notchFilterAccepts periodNs then
      ({ i with consecutiveGoodPeriods := i.consecutiveGoodPeriods + 1 },
        [.period time i.shmTimestamp true])
    else
      ({ i with alarms := { i.alarms with shmBadSignal := true }, consecutiveGoodPeriods := 0 },
        [.period time i.shmTimestamp false])
  else (i, [])

/-- The good-period gate, the outlier filter and the servo (lines 1537–1585). -/
def gatedServo (inp : PollInput) (tod : TimeOfDay) (i : Instance) (time : StampedTime) :
    TimeOfDay × Instance × List ShmEffect :=
  if shmRequiredGoodPeriods ≤ i.consecutiveGoodPeriods then
    let i := { i with alarms := { i.alarms with shmBadSignal := false } }
    let filtered : List ShmEffect :=
      if i.config.outlierFilter then [.outlier i.shmPeriodNs inp.outlierAccepts] else []
    if !i.config.outlierFilter || inp.outlierAccepts then
      let r := shmServoUpdate inp tod i time.time tod.status.offsetFromMaster
      (r.1, { r.2.1 with clusteringScore := inp.clusteringScore },
        filtered ++ .servoUpdate time tod.status.offsetFromMaster :: r.2.2)
    else (tod, i, filtered)
  else (tod, i, [])

/-- An event in SLAVE (lines 1481–1587). -/
def shmSlaveEvent (inp : PollInput) (tod : TimeOfDay) (i : Instance) (seqNum : Nat) (time : StampedTime) :
    TimeOfDay × Instance × List ShmEffect :=
  let i := seqCheck i seqNum
  if !i.ctrlFlags.timestampProcessing then (tod, i, [])
  else if i.stepOccurred then
    (tod, { i with stepOccurred := false, shmTimestamp := { i.shmTimestamp with time := .zero } }, [])
  else
    let p := recordPeriod i time
    let r := gatedServo inp tod p.1 time
    (r.1, r.2.1, p.2 ++ r.2.2)

/-- `shm_on_shm_event` (lines 1465–1594): the sequence number and the
monotonic time are recorded in every case, the timestamp only while timestamp
processing is on. -/
def shmOnShmEvent (inp : PollInput) (tod : TimeOfDay) (i : Instance) (seqNum : Nat) (time : StampedTime) :
    TimeOfDay × Instance × List ShmEffect :=
  let r : TimeOfDay × Instance × List ShmEffect :=
    match i.state with
    | .faulty | .listening => (tod, { i with state := .slave, shmPeriodNs := 0 }, [])
    | .slave => shmSlaveEvent inp tod i seqNum time
  (r.1, { r.2.1 with
      shmSeqNum := seqNum
      lastShmTime := inp.monoEvent
      shmTimestamp := if r.2.1.ctrlFlags.timestampProcessing then time else r.2.1.shmTimestamp }, r.2.2)

/-- `shm_time_of_day_init` (lines 1597–1626), when it finds the module. -/
def shmTimeOfDayInit (inp : PollInput) (tod : TimeOfDay) : TimeOfDay :=
  if inp.todLookup then ⟨true, inp.monoTodInit, ⟨.listening, .zero⟩⟩ else tod

/-- The offset `shm_time_of_day_poll` keeps (lines 1661–1685): the time-of-day
module's status, with the polling instance's system-to-NIC offset added when
the module's offset is non-zero and the feed comparison succeeds. -/
def todStatusUpdate (inp : PollInput) (tod : TimeOfDay) (clock : Nat) : TimeOfDay × List ShmEffect :=
  match inp.todStatus with
  | none => (tod, [])
  | some st =>
    if st.offsetFromMaster.isZero then ({ tod with status := st }, [])
    else match inp.systemToNic with
      | none => ({ tod with status := st }, [.requireFresh clock])
      | some s =>
        ({ tod with status := { st with offsetFromMaster := st.offsetFromMaster.add s } }, [.requireFresh clock])

/-- `shm_time_of_day_poll` (lines 1629–1700), for the instance `i`. -/
def shmTimeOfDayPoll (inp : PollInput) (tod : TimeOfDay) (i : Instance) :
    TimeOfDay × Instance × List ShmEffect :=
  if 0 ≤ (tod.nextPollTime.sub inp.monoTod).sec then (tod, i, [])
  else
    let tod := { tod with nextPollTime := { tod.nextPollTime with sec := tod.nextPollTime.sec + 1 } }
    let tod := if tod.sourceFound then tod else shmTimeOfDayInit inp tod
    let r := if tod.sourceFound then todStatusUpdate inp tod i.clock else (tod, [])
    let ok := r.1.status.state = .slave || r.1.status.state = .selection
    (r.1, { i with alarms := { i.alarms with noTimeOfDay := !ok } }, r.2)

/-- Whether `shm_do_poll` reports to the engine (lines 1736–1753). -/
def stateChanged (i : Instance) : Bool :=
  i.state != i.prevState || (i.state == .slave && (i.alarms == .none) != (i.prevAlarms == .none)) ||
    i.clusteringScore != i.prevClusteringScore

/-- The driver result a poll acts on (lines 1713–1720): a bogus event replaces
`EAGAIN` while the test mode is on. -/
def pollGet (inp : PollInput) (i : Instance) : ShmGet :=
  if i.bogusShmEvents && inp.get == .again then inp.bogusGet else inp.get

/-- The handler `shm_do_poll` calls for a driver result (lines 1722–1728). -/
def shmHandleGet (inp : PollInput) (tod : TimeOfDay) (i : Instance) :
    ShmGet → TimeOfDay × Instance × List ShmEffect
  | .again => (tod, shmOnNoShmEvent inp.monoNoEvent i, [])
  | .error _ => (tod, shmOnShmError i, [])
  | .event seqNum t => shmOnShmEvent inp tod i seqNum ⟨t, i.steps⟩

/-- The end of `shm_do_poll` (lines 1733–1806): the convergence update, the
report when something changed, and the snapshot of the previous values. -/
def reportState (mono : Option Timespec) (converged : Bool) (i : Instance) : Instance × List ShmEffect :=
  let i := shmConvergenceUpdate mono converged i
  ({ i with prevState := i.state, prevAlarms := i.alarms, prevClusteringScore := i.clusteringScore },
    if stateChanged i then [.stateChanged i.state i.alarms i.clusteringScore] else [])

/-- `shm_do_poll` (lines 1703–1809); the last component is its return code. -/
def shmDoPoll (inp : PollInput) (tod : TimeOfDay) (i : Instance) :
    TimeOfDay × Instance × List ShmEffect × Int :=
  let r₁ := shmHandleGet inp tod i (pollGet inp i)
  let r₂ := shmTimeOfDayPoll inp r₁.1 r₁.2.1
  let r₃ := reportState inp.monoConvergence inp.converged r₂.2.1
  (r₂.1, r₃.1, r₁.2.2 ++ r₂.2.2 ++ r₃.2, (pollGet inp i).rc)

/-! ## What an event can do -/

section Specs

variable (inp : PollInput) (tod : TimeOfDay) (i : Instance) (time : StampedTime)

/-- **Inversion of the period step**: no period without a valid recorded
timestamp; otherwise the period from it, and the count it leaves. -/
theorem recordPeriod_spec :
    (i.shmTimestamp.time.sec = 0 ∧ recordPeriod i time = (i, [])) ∨
      (i.shmTimestamp.time.sec ≠ 0 ∧
        (recordPeriod i time).2 = [.period time i.shmTimestamp
          (notchFilterAccepts (time.time.sub i.shmTimestamp.time).toNs)] ∧
        (recordPeriod i time).1.consecutiveGoodPeriods =
          (if notchFilterAccepts (time.time.sub i.shmTimestamp.time).toNs then i.consecutiveGoodPeriods + 1 else 0)) := by
  by_cases hs : i.shmTimestamp.time.sec = 0
  · exact .inl ⟨hs, by simp only [recordPeriod, hs, ne_eq, not_true_eq_false, if_false]⟩
  · refine .inr ⟨hs, ?_⟩
    by_cases ha : notchFilterAccepts (time.time.sub i.shmTimestamp.time).toNs = true <;>
      simp [recordPeriod, hs, ha]

/-- The period step changes no step bookkeeping, flag or state. -/
theorem recordPeriod_frame :
    (recordPeriod i time).1.steps = i.steps ∧ (recordPeriod i time).1.stepOccurred = i.stepOccurred ∧
      (recordPeriod i time).1.shmTimestamp = i.shmTimestamp ∧
      (recordPeriod i time).1.ctrlFlags = i.ctrlFlags := by
  by_cases hs : i.shmTimestamp.time.sec = 0
  · simp [recordPeriod, hs]
  · by_cases ha : notchFilterAccepts (time.time.sub i.shmTimestamp.time).toNs = true <;>
      simp [recordPeriod, hs, ha]

/-- **Inversion of the gate**: below three good periods nothing happens; an
outlier is only counted; otherwise the servo runs on the event. -/
theorem gatedServo_spec :
    (i.consecutiveGoodPeriods < shmRequiredGoodPeriods ∧ gatedServo inp tod i time = (tod, i, [])) ∨
      (shmRequiredGoodPeriods ≤ i.consecutiveGoodPeriods ∧ i.config.outlierFilter = true ∧
        inp.outlierAccepts = false ∧
        gatedServo inp tod i time = (tod, { i with alarms := { i.alarms with shmBadSignal := false } },
          [.outlier i.shmPeriodNs false])) ∨
      (shmRequiredGoodPeriods ≤ i.consecutiveGoodPeriods ∧
        (i.config.outlierFilter = false ∨ inp.outlierAccepts = true) ∧
        let r := shmServoUpdate inp tod { i with alarms := { i.alarms with shmBadSignal := false } } time.time
          tod.status.offsetFromMaster
        gatedServo inp tod i time = (r.1, { r.2.1 with clusteringScore := inp.clusteringScore },
          (if i.config.outlierFilter then [.outlier i.shmPeriodNs inp.outlierAccepts] else []) ++
            .servoUpdate time tod.status.offsetFromMaster :: r.2.2)) := by
  by_cases hg : shmRequiredGoodPeriods ≤ i.consecutiveGoodPeriods
  · by_cases ho : (!i.config.outlierFilter || inp.outlierAccepts) = true
    · refine .inr (.inr ⟨hg, ?_, ?_⟩)
      · cases hf : i.config.outlierFilter <;> simp_all
      · simp only [gatedServo, if_pos hg, if_pos ho]
    · have hf : i.config.outlierFilter = true ∧ inp.outlierAccepts = false := by simpa using ho
      refine .inr (.inl ⟨hg, hf.1, hf.2, ?_⟩)
      simp only [gatedServo, if_pos hg, hf.1, hf.2, Bool.not_true, Bool.or_false, Bool.false_eq_true,
        if_false, if_true]
  · exact .inl ⟨by omega, by simp only [gatedServo, if_neg hg]⟩

/-- **Inversion of an event in SLAVE**: with timestamp processing off only the
sequence number is checked; a pending step makes the event the new anchor;
otherwise the period and the gate. -/
theorem shmSlaveEvent_spec (seqNum : Nat) :
    (i.ctrlFlags.timestampProcessing = false ∧
        shmSlaveEvent inp tod i seqNum time = (tod, seqCheck i seqNum, [])) ∨
      (i.ctrlFlags.timestampProcessing = true ∧ i.stepOccurred = true ∧
        shmSlaveEvent inp tod i seqNum time = (tod, { seqCheck i seqNum with
          stepOccurred := false, shmTimestamp := { i.shmTimestamp with time := .zero } }, [])) ∨
      (i.ctrlFlags.timestampProcessing = true ∧ i.stepOccurred = false ∧
        shmSlaveEvent inp tod i seqNum time =
          ((gatedServo inp tod (recordPeriod (seqCheck i seqNum) time).1 time).1,
            (gatedServo inp tod (recordPeriod (seqCheck i seqNum) time).1 time).2.1,
            (recordPeriod (seqCheck i seqNum) time).2 ++
              (gatedServo inp tod (recordPeriod (seqCheck i seqNum) time).1 time).2.2)) := by
  cases htp : i.ctrlFlags.timestampProcessing
  · exact .inl ⟨rfl, by simp only [shmSlaveEvent, seqCheck, htp, Bool.not_false, if_true]⟩
  · cases hst : i.stepOccurred
    · exact .inr (.inr ⟨rfl, rfl, by simp only [shmSlaveEvent, seqCheck, htp, hst, Bool.not_true,
        Bool.false_eq_true, if_false]⟩)
    · exact .inr (.inl ⟨rfl, rfl, by simp only [shmSlaveEvent, seqCheck, htp, hst, Bool.not_true,
        Bool.false_eq_true, if_false, if_true]⟩)

/-- The time-of-day status update only asks the polling instance's feed for a
fresh sample. -/
theorem todStatusUpdate_effects {clock : Nat} {e : ShmEffect} (he : e ∈ (todStatusUpdate inp tod clock).2) :
    e = .requireFresh clock := by
  unfold todStatusUpdate at he
  split at he
  · cases he
  · split at he
    · cases he
    · split at he <;> simpa using he

end Specs

end Sfptpd.Shm
