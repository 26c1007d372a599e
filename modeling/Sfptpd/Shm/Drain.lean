import Sfptpd.Shm.State

/-!
# Draining queued events: `shm_drain_events` (shm/sfptpd_shm_module.c:1025–1068)

Before the poll timer starts, `shm_on_run` drains the events queued on the
poll descriptor of each instance that has one. The loop polls the descriptor
for a millisecond at a time, at most `max_drain` times. On a readable
descriptor it reads one event with `sfptpd_clock_shm_get`. The loop goes on
after an event read and after `EAGAIN`. An idle poll ends it with 0, and a
failed poll or read ends it with that code. One line is then logged, chosen
by the code and by the count `i` the loop leaves.

What each poll and its read give is an input (`polls j` for the `j`-th
iteration). `shm_on_run` discards the code the drain returns.

- `shmDrainEvents_outcome`: for every sequence of polls, the drain stops at
  the first poll that does not go on and counts that poll. When the first
  `max_drain` polls all go on, it ends with `EAGAIN` and logs an error;
- `shmDrainEvents_gaveUp_iff`: the warning that the drain "gave up after
  draining" `max_drain` events is logged exactly when the last allowed poll
  found the descriptor idle, that is, when the drain reached the end of the
  queue;
- `shmDrainEvents_swallowed_iff`: the count the drain reports is one more
  than the polls that went on, so "swallowed 1" is logged when nothing was
  queued.
-/

namespace Sfptpd.Shm

/-- What one iteration learns from `poll(&pfd, 1, 1)`:
- `failed`: the poll failed, with its `errno`;
- `readable`: it reported `POLLIN`, and `sfptpd_clock_shm_get` returned;
- `idle`: it returned 0, or reported `revents` without `POLLIN`. -/
inductive DrainPoll
  | failed (errno : Int)
  | readable (get : ShmGet)
  | idle
deriving DecidableEq, Repr

/-- `max_drain`. -/
def maxDrain : Nat := 1000

/-- The `rc` one iteration leaves: the `errno` of a failed poll; `EAGAIN`
for an event read, and the read's code otherwise; 0 for an idle poll. -/
def drainStep : DrainPoll → Int
  | .failed errno => errno
  | .readable get => if get.rc = 0 then EAGAIN else get.rc
  | .idle => 0

/-- The `for` loop of `shm_drain_events`, from iteration `i` with code `rc`
and `left = max_drain - i` iterations allowed. It returns the count and the
code it leaves. -/
def drainLoop (polls : Nat → DrainPoll) (i : Nat) (rc : Int) : (left : Nat) → Nat × Int
  | 0 => (i, rc)
  | left + 1 => if rc = EAGAIN then drainLoop polls (i + 1) (drainStep (polls i)) left else (i, rc)

/-- The line logged after the loop. The instance name every line starts with
is left out. -/
inductive DrainLog
  /-- `ERROR("shm %s: draining SHM events: %s\n", ..., strerror(rc))`. -/
  | error (rc : Int)
  /-- `WARNING("shm %s: gave up after draining %d SHM events\n", ..., max_drain)`. -/
  | gaveUp (count : Nat)
  /-- `INFO("shm %s: swallowed %d SHM events\n", ..., i)`. -/
  | swallowed (count : Nat)
  /-- No line. -/
  | quiet
deriving DecidableEq, Repr

/-- The choice of the line from the code and the count. -/
def drainLog (i : Nat) (rc : Int) : DrainLog :=
  if rc ≠ 0 then .error rc
  else if i = maxDrain then .gaveUp maxDrain
  else if i ≠ 0 then .swallowed i
  else .quiet

/-- `shm_drain_events`: the code it returns and the line it logs. -/
def shmDrainEvents (polls : Nat → DrainPoll) : Int × DrainLog :=
  let (i, rc) := drainLoop polls 0 EAGAIN maxDrain
  (rc, drainLog i rc)

/-! ## The loop -/

theorem drainLoop_of_ne {polls : Nat → DrainPoll} {i : Nat} {rc : Int} (h : rc ≠ EAGAIN) :
    ∀ left, drainLoop polls i rc left = (i, rc)
  | 0 => rfl
  | _ + 1 => if_neg h

/-- **The loop's closed form**: from iteration `i`, either a first poll `k`
within the iterations left does not go on, and the loop ends after it with
its code, or every poll left goes on and the loop ends at the bound with
`EAGAIN`. -/
theorem drainLoop_cases (polls : Nat → DrainPoll) : ∀ left i,
    (∃ k, i ≤ k ∧ k < i + left ∧ (∀ j, i ≤ j → j < k → drainStep (polls j) = EAGAIN) ∧
      drainStep (polls k) ≠ EAGAIN ∧ drainLoop polls i EAGAIN left = (k + 1, drainStep (polls k))) ∨
    ((∀ j, i ≤ j → j < i + left → drainStep (polls j) = EAGAIN) ∧
      drainLoop polls i EAGAIN left = (i + left, EAGAIN))
  | 0, i => .inr ⟨fun _ h1 h2 => absurd h2 (by omega), rfl⟩
  | left + 1, i => by
    have hunfold : drainLoop polls i EAGAIN (left + 1) = drainLoop polls (i + 1) (drainStep (polls i)) left :=
      if_pos rfl
    rw [hunfold]
    by_cases hgo : drainStep (polls i) = EAGAIN
    · have hfirst : ∀ {k}, (∀ j, i + 1 ≤ j → j < k → drainStep (polls j) = EAGAIN) →
          ∀ j, i ≤ j → j < k → drainStep (polls j) = EAGAIN := fun hafter j h1 h2 =>
        if hj : j = i then hj ▸ hgo else hafter j (by omega) h2
      rw [hgo]
      rcases drainLoop_cases polls left (i + 1) with ⟨k, hk1, hk2, hbefore, hstop, hrun⟩ | ⟨hall, hrun⟩
      · exact .inl ⟨k, by omega, by omega, hfirst hbefore, hstop, hrun⟩
      · refine .inr ⟨hfirst fun j h1 h2 => hall j h1 (by omega), ?_⟩
        rw [hrun, Nat.add_right_comm, Nat.add_assoc]
    · rw [drainLoop_of_ne hgo]
      exact .inl ⟨i, le_rfl, by omega, fun _ h1 h2 => absurd h2 (by omega), hgo, rfl⟩

/-- The first poll that does not go on is unique. -/
theorem firstStop_unique {polls : Nat → DrainPoll} {k m : Nat} (hk : ∀ j < k, drainStep (polls j) = EAGAIN)
    (hsk : drainStep (polls k) ≠ EAGAIN) (hm : ∀ j < m, drainStep (polls j) = EAGAIN)
    (hsm : drainStep (polls m) ≠ EAGAIN) : k = m := by
  rcases Nat.lt_trichotomy k m with h | h | h
  · exact absurd (hm k h) hsk
  · exact h
  · exact absurd (hk m h) hsm

theorem EAGAIN_ne_zero : EAGAIN ≠ 0 := by decide

theorem maxDrain_pos : 0 < maxDrain := by decide

/-- An idle poll stops the loop. -/
theorem drainStep_ne_of_zero {p : DrainPoll} (h : drainStep p = 0) : drainStep p ≠ EAGAIN :=
  fun hgo => EAGAIN_ne_zero (hgo ▸ h)

/-! ## The line logged -/

theorem drainLog_of_ne {i : Nat} {rc : Int} (h : rc ≠ 0) : drainLog i rc = .error rc := if_pos h

theorem drainLog_eq_gaveUp {i n : Nat} {rc : Int} (h : drainLog i rc = .gaveUp n) : rc = 0 ∧ i = maxDrain := by
  unfold drainLog at h
  split_ifs at h with h1 h2
  cases h
  exact ⟨not_not.1 h1, h2⟩

theorem drainLog_eq_swallowed {i n : Nat} {rc : Int} (h : drainLog i rc = .swallowed n) :
    rc = 0 ∧ i ≠ maxDrain ∧ i = n := by
  unfold drainLog at h
  split_ifs at h with h1 h2
  cases h
  exact ⟨not_not.1 h1, h2, rfl⟩

theorem shmDrainEvents_of_loop {polls : Nat → DrainPoll} {i : Nat} {rc : Int}
    (h : drainLoop polls 0 EAGAIN maxDrain = (i, rc)) : shmDrainEvents polls = (rc, drainLog i rc) := by
  rw [shmDrainEvents, h]

/-- **The outcome of every drain**: the first poll `k` that does not go on
ends the drain with its code, counted as iteration `k + 1`. When there is no
such poll among the first `max_drain`, the drain returns `EAGAIN` and logs it
as an error. -/
theorem shmDrainEvents_outcome (polls : Nat → DrainPoll) :
    (∃ k < maxDrain, (∀ j < k, drainStep (polls j) = EAGAIN) ∧ drainStep (polls k) ≠ EAGAIN ∧
      shmDrainEvents polls = (drainStep (polls k), drainLog (k + 1) (drainStep (polls k)))) ∨
    ((∀ j < maxDrain, drainStep (polls j) = EAGAIN) ∧ shmDrainEvents polls = (EAGAIN, .error EAGAIN)) := by
  rcases drainLoop_cases polls maxDrain 0 with ⟨k, -, hk, hbefore, hstop, hrun⟩ | ⟨hall, hrun⟩
  · exact .inl ⟨k, by omega, fun j hj => hbefore j (Nat.zero_le j) hj, hstop, shmDrainEvents_of_loop hrun⟩
  · refine .inr ⟨fun j hj => hall j (Nat.zero_le j) (by omega), ?_⟩
    rw [shmDrainEvents_of_loop hrun, drainLog_of_ne EAGAIN_ne_zero]

/-- **"Gave up" means the queue was drained**: the warning that the drain
gave up after `max_drain` events is logged exactly when every poll before the
last allowed one went on and that last one found the descriptor idle. -/
theorem shmDrainEvents_gaveUp_iff (polls : Nat → DrainPoll) :
    (shmDrainEvents polls).2 = .gaveUp maxDrain ↔
      (∀ j < maxDrain - 1, drainStep (polls j) = EAGAIN) ∧ drainStep (polls (maxDrain - 1)) = 0 := by
  rcases drainLoop_cases polls maxDrain 0 with ⟨k, -, hk, hbefore, hstop, hrun⟩ | ⟨hall, hrun⟩
  · have hbefore' : ∀ j < k, drainStep (polls j) = EAGAIN := fun j hj => hbefore j (Nat.zero_le j) hj
    rw [shmDrainEvents_of_loop hrun]
    constructor
    · intro hlog
      obtain ⟨h0, hlast⟩ := drainLog_eq_gaveUp hlog
      obtain rfl : k = maxDrain - 1 := by omega
      exact ⟨hbefore', h0⟩
    · rintro ⟨hgo, h0⟩
      obtain rfl := firstStop_unique hbefore' hstop hgo (drainStep_ne_of_zero h0)
      rw [h0, drainLog, if_neg (not_not.2 rfl), if_pos (by have := maxDrain_pos; omega)]
  · rw [shmDrainEvents_of_loop hrun, drainLog_of_ne EAGAIN_ne_zero]
    exact iff_of_false DrainLog.noConfusion fun ⟨_, h0⟩ =>
      drainStep_ne_of_zero h0 (hall _ (Nat.zero_le _) (by have := maxDrain_pos; omega))

/-- **The count logged is one too many**: "swallowed `n`" means that `n - 1`
polls went on and the `n`-th found the descriptor idle, so a drain of an
empty queue logs "swallowed 1". -/
theorem shmDrainEvents_swallowed_iff (polls : Nat → DrainPoll) (n : Nat) :
    (shmDrainEvents polls).2 = .swallowed n ↔
      0 < n ∧ n < maxDrain ∧ (∀ j < n - 1, drainStep (polls j) = EAGAIN) ∧ drainStep (polls (n - 1)) = 0 := by
  rcases drainLoop_cases polls maxDrain 0 with ⟨k, -, hk, hbefore, hstop, hrun⟩ | ⟨hall, hrun⟩
  · have hbefore' : ∀ j < k, drainStep (polls j) = EAGAIN := fun j hj => hbefore j (Nat.zero_le j) hj
    rw [shmDrainEvents_of_loop hrun]
    constructor
    · intro hlog
      obtain ⟨h0, hlast, rfl⟩ := drainLog_eq_swallowed hlog
      exact ⟨Nat.succ_pos k, by omega, hbefore', h0⟩
    · rintro ⟨hn, hlt, hgo, h0⟩
      obtain hk' := firstStop_unique hbefore' hstop hgo (drainStep_ne_of_zero h0)
      subst hk'
      rw [h0, drainLog, if_neg (not_not.2 rfl), if_neg (by omega), if_pos (by omega), Nat.sub_add_cancel hn]
  · rw [shmDrainEvents_of_loop hrun, drainLog_of_ne EAGAIN_ne_zero]
    exact iff_of_false DrainLog.noConfusion fun ⟨hn, hlt, _, h0⟩ =>
      drainStep_ne_of_zero h0 (hall _ (Nat.zero_le _) (by omega))

/-- A drain of an empty queue. -/
example : shmDrainEvents (fun _ => .idle) = (0, .swallowed 1) := by decide

end Sfptpd.Shm
