import Sfptpd.Shm.Gate

/-!
# Stepping the clock (shm/sfptpd_shm_module.c:757–856, 1465–1594)

`shm_servo_update` compares `diff_ns`, the offset `diff` less the SHM
propagation delay, with the step threshold. It then hands `&diff` to
`shm_servo_step_clock`, which steps the clock by `0 - diff`: the step uses the
offset without the delay that decided it.

- `shmOnShmEvent_adjustTime`: every clock step an SHM event causes comes from
  the servo, run on that event with the shared time-of-day offset and an
  instance of the same configuration. So `shmServoUpdate_adjustTime` and
  `shmServoUpdate_stepForward` apply to it;
- `step_forward_steps_backwards`: a run under the step-forward policy with a
  delay of 0.7 s, in which an event 0.1 s ahead gives `diff_ns = -0.6 s` and
  the clock is stepped back by 0.1 s.
-/

namespace Sfptpd.Shm

/-- The period step leaves the configuration alone. -/
@[simp] theorem recordPeriod_config (i : Instance) (time : StampedTime) : (recordPeriod i time).1.config = i.config := by
  unfold recordPeriod
  dsimp only
  split_ifs <;> rfl

/-- The period step reports periods only. -/
theorem recordPeriod_no_adjustTime (i : Instance) (time : StampedTime) (a : Timespec) :
    ShmEffect.adjustTime a ∉ (recordPeriod i time).2 := by
  rcases recordPeriod_spec i time with ⟨-, he⟩ | ⟨-, he, -⟩ <;> simp [he]

/-- **A clock step on an event** comes from the servo, run on the event's
timestamp and the shared time-of-day offset, for an instance with the
event's configuration. -/
theorem shmOnShmEvent_adjustTime {inp : PollInput} {tod : TimeOfDay} {i : Instance} {seqNum : Nat}
    {time : StampedTime} {a : Timespec} (h : ShmEffect.adjustTime a ∈ (shmOnShmEvent inp tod i seqNum time).2.2) :
    ∃ j : Instance, j.config = i.config ∧
      ShmEffect.adjustTime a ∈ (shmServoUpdate inp tod j time.time tod.status.offsetFromMaster).2.2 := by
  cases hst : i.state with
  | listening | faulty => simp [shmOnShmEvent, hst] at h
  | slave =>
    simp only [shmOnShmEvent, hst] at h
    rcases shmSlaveEvent_spec inp tod i time seqNum with ⟨-, he⟩ | ⟨-, -, he⟩ | ⟨-, -, he⟩ <;> rw [he] at h
    · cases h
    · cases h
    rcases List.mem_append.mp h with hp | hg
    · exact absurd hp (recordPeriod_no_adjustTime _ _ _)
    rcases gatedServo_spec inp tod (recordPeriod (seqCheck i seqNum) time).1 time with
      ⟨-, he⟩ | ⟨-, -, -, he⟩ | ⟨-, -, he⟩
    · simp [he] at hg
    · simp [he] at hg
    · dsimp only at he
      rw [he] at hg
      rcases List.mem_append.mp hg with hf | hs
      · split at hf <;> simp at hf
      · exact ⟨_, by simp [seqCheck], (List.mem_cons.mp hs).resolve_left nofun⟩

/-! ## A step backwards -/

/-- An instance configured with an SHM delay of 0.7 s under
`SFPTPD_CLOCK_CTRL_STEP_FORWARD`. -/
def stepForwardConfig : InstanceConfig := ⟨700000000, .stepForward, 100000000, false⟩

/-- One instance on clock 1 with the step-forward policy and a 0.7 s delay,
clock control switched on by `CONTROL`, polling four events one second apart
at 0.1 s past the second while the time-of-day offset is zero. The servo runs
on the fourth event with `diff = 0.1 s` and `diff_ns = -0.6 s`, a step forward
of 0.6 s by the policy, and steps the clock back by 0.1 s. -/
theorem step_forward_steps_backwards :
    ∃ m, Reachable m ∧ m.instances.map (·.config.clockCtrl) = [.stepForward] ∧
      (servoDiff ⟨103, 100000000⟩ .zero).toNs - stepForwardConfig.propagationDelay = -600000000 ∧
      ShmEffect.servoUpdate ⟨⟨103, 100000000⟩, 0⟩ .zero ∈
        (shmOnTimer (steadyTick [steadyPoll (.event 1 ⟨100, 100000000⟩) 1, steadyPoll (.event 2 ⟨101, 100000000⟩) 1,
          steadyPoll (.event 3 ⟨102, 100000000⟩) 1, steadyPoll (.event 4 ⟨103, 100000000⟩) 1, steadyPoll .again 1] 1)
          m).2 ∧
      ShmEffect.adjustTime ⟨-1, 900000000⟩ ∈
        (shmOnTimer (steadyTick [steadyPoll (.event 1 ⟨100, 100000000⟩) 1, steadyPoll (.event 2 ⟨101, 100000000⟩) 1,
          steadyPoll (.event 3 ⟨102, 100000000⟩) 1, steadyPoll (.event 4 ⟨103, 100000000⟩) 1, steadyPoll .again 1] 1)
          m).2 :=
  ⟨_, @Reachable.message _ _ (.control 0 ⟨true, true, false⟩ ⟨false, true, false⟩) _
      (@Reachable.message _ _ (.run fun _ => -1) _ (.startup [(stepForwardConfig, 1, 0)] true .zero) rfl) rfl,
    rfl, by decide, by decide, by decide⟩

end Sfptpd.Shm
