import Sfptpd.Shm.Report

/-!
# The shared time-of-day record (shm/sfptpd_shm_module.c:74–94, 1562–1564, 1629–1700)

All instances share one `time_of_day` record: the next poll time and the
status of the time-of-day module. Once a second, the first instance to poll
reads the status, adds its own system-to-NIC offset (through its own clock
feed) to the status's offset, and sets or clears its own `NO_TIME_OF_DAY`
alarm. Every servo update, of any instance, takes the offset of that shared
record as it stands.

- `shmDoPoll_servo_offset`: a servo update in a poll is on the shared
  record's offset as the poll found it;
- `shmTimeOfDayPoll_effects`: a time-of-day poll asks only the polling
  instance's feed for a fresh sample;
- `tod_poll_shared_by_instances`: two instances on different NICs; the second
  servos on the first one's system-to-NIC offset, and only the first gets
  `NO_TIME_OF_DAY` when the time-of-day module is lost.
-/

namespace Sfptpd.Shm

/-! ## The offset a servo update takes -/

/-- A servo update of an event is on the shared offset the event found. -/
theorem shmOnShmEvent_servo_offset {inp : PollInput} {tod : TimeOfDay} {i : Instance} {seqNum : Nat}
    {time t : StampedTime} {o : Timespec}
    (hs : ShmEffect.servoUpdate t o ∈ (shmOnShmEvent inp tod i seqNum time).2.2) :
    o = tod.status.offsetFromMaster := by
  cases hst : i.state with
  | listening | faulty => simp [shmOnShmEvent, hst] at hs
  | slave =>
    simp only [shmOnShmEvent, hst] at hs
    exact (shmSlaveEvent_servo hs).1.2

/-- The time-of-day poll only asks the polling instance's feed for a fresh
sample. -/
theorem shmTimeOfDayPoll_effects {inp : PollInput} {tod : TimeOfDay} {i : Instance} {e : ShmEffect}
    (he : e ∈ (shmTimeOfDayPoll inp tod i).2.2) : e = .requireFresh i.clock := by
  have hr : ∀ t : TimeOfDay, e ∈ (if t.sourceFound then todStatusUpdate inp t i.clock else (t, [])).2 →
      e = .requireFresh i.clock := by
    intro t ht
    split at ht
    · exact todStatusUpdate_effects inp _ ht
    · cases ht
  unfold shmTimeOfDayPoll at he
  split_ifs at he
  · cases he
  · exact hr _ he

/-- The end of a poll only reports the status. -/
theorem reportState_effects {mono : Option Timespec} {converged : Bool} {i : Instance} {e : ShmEffect}
    (he : e ∈ (reportState mono converged i).2) : ∃ s a c, e = .stateChanged s a c := by
  dsimp only [reportState] at he
  split at he
  · exact ⟨_, _, _, List.mem_singleton.mp he⟩
  · cases he

/-- **The offset of a poll's servo update**: it is the shared record's offset
as the poll found it, whichever instance last wrote it. -/
theorem shmDoPoll_servo_offset {inp : PollInput} {tod : TimeOfDay} {i : Instance} {t : StampedTime}
    {o : Timespec} (hs : ShmEffect.servoUpdate t o ∈ (shmDoPoll inp tod i).2.2.1) :
    o = tod.status.offsetFromMaster := by
  simp only [shmDoPoll, List.mem_append] at hs
  rcases hs with (hs | hs) | hs
  · cases hg : pollGet inp i with
    | again | error _ => simp [hg, shmHandleGet] at hs
    | event seqNum time =>
      rw [hg] at hs
      exact shmOnShmEvent_servo_offset hs
  · cases shmTimeOfDayPoll_effects hs
  · obtain ⟨_, _, _, he⟩ := reportState_effects hs
    cases he

/-! ## Two instances -/

/-- A poll at monotonic second 1 of an instance whose feed puts its NIC
`systemToNic` ahead of the system clock, with the time-of-day module in
`todState` at an offset of 1000 ns. -/
def nicPoll (todState : SyncState) (systemToNic : Timespec) (get : ShmGet) : PollInput :=
  { steadyPoll get 1 with todStatus := some ⟨todState, ⟨0, 1000⟩⟩, systemToNic := some systemToNic }

/-- Four events one second apart from `base` s, then an empty poll. -/
def nicEvents (base : Int) (systemToNic : Timespec) : List PollInput :=
  [nicPoll .slave systemToNic (.event 1 ⟨base, 0⟩), nicPoll .slave systemToNic (.event 2 ⟨base + 1, 0⟩),
    nicPoll .slave systemToNic (.event 3 ⟨base + 2, 0⟩), nicPoll .slave systemToNic (.event 4 ⟨base + 3, 0⟩),
    nicPoll .slave systemToNic .again]

/-- A tick at second 1: the instance at position 0 sees events from 100 s
with its NIC 7 ns ahead of the system clock, the one at position 1 events
from 200 s with its NIC 50 ns ahead. -/
def twoNicTick : Nat → TimerInput := fun k =>
  ⟨⟨1, 0⟩, ⟨1, 0⟩, if k = 0 then nicEvents 100 ⟨0, 7⟩ else nicEvents 200 ⟨0, 50⟩⟩

/-- A tick at second 1 in which the time-of-day module is LISTENING. -/
def todLostTick : Nat → TimerInput := fun _ => ⟨⟨1, 0⟩, ⟨1, 0⟩, [nicPoll .listening ⟨0, 7⟩ .again]⟩

/-- Two instances polling, on clocks 1 and 2. In one tick the first instance's
poll reads the time-of-day offset of 1000 ns and adds its own 7 ns; the
second instance's servo then runs on 1007 ns, not on 1000 + 50 ns. In a tick
that finds the time-of-day module LISTENING only the first instance raises
`NO_TIME_OF_DAY`. -/
theorem tod_poll_shared_by_instances :
    ∃ m, Reachable m ∧ m.timersStarted = true ∧ m.instances.map (·.clock) = [1, 2] ∧
      ShmEffect.servoUpdate ⟨⟨203, 0⟩, 0⟩ ⟨0, 1007⟩ ∈ (shmOnTimer twoNicTick m).2 ∧
      ShmEffect.servoUpdate ⟨⟨203, 0⟩, 0⟩ ⟨0, 1050⟩ ∉ (shmOnTimer twoNicTick m).2 ∧
      (shmOnTimer todLostTick m).1.instances.map (·.alarms.noTimeOfDay) = [true, false] :=
  ⟨_, @Reachable.message _ _ (.run fun _ => -1) _
      (.startup [(demoConfig, 1, 0), (demoConfig, 2, 0)] true .zero) rfl, by decide⟩

end Sfptpd.Shm
