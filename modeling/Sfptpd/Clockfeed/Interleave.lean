import Sfptpd.Clockfeed.Reader
import Sfptpd.Clockfeed.Run

/-!
# The read racing the feed thread (sfptpd_clockfeed.c:345–366, 883–969)

The feed thread and a subscriber share a source's ring with no lock. Each
field write of the feed and each shared read of the subscriber is one atomic
step, and a run is a sequentially consistent interleaving of the two:

- `ringAt readings n`: the ring after the writer's first `n` steps, six a
  sample (`seq`, `rc`, `mono`, `system`, `snapshot`, then `write_counter++`):
  `fullRing` of the samples already written, the ring every source of a
  reachable feed holds (`RingInv`), with the next sample partly written;
- `Schedule`: where the writer is at each read of one call, nondecreasing in
  program order; `compareToSysAt` is the call under a schedule;
- `ringAt_slot_of_window`: while the writer is fewer than 16 samples past
  sample `k`, the slot of `k` holds the whole record of `k`;
- `compareToSysAt_diff`: the re-read of `write_counter` covers the diff;
- `compareToSys_copies_later_lap`: it does not cover the copies into `t1`,
  `t2` and `mono_time`, made after it: a writer that laps the ring after the
  re-read makes the call return 0 with the fields of the sample written
  sixteen samples later.
-/

namespace Sfptpd.Feed

/-- The record `old` after the first `p` field writes of `new`
(lines 349–360): `seq`, `rc`, `mono`, `system`, then `snapshot`. -/
def Sample.writeUpTo (old new : Sample) (p : Nat) : Sample where
  seq := if 1 ≤ p then new.seq else old.seq
  rc := if 2 ≤ p then new.rc else old.rc
  mono := if 3 ≤ p then new.mono else old.mono
  system := if 4 ≤ p then new.system else old.system
  snapshot := if 5 ≤ p then new.snapshot else old.snapshot

/-- The ring after the first `p` field writes of sample `shm.writeCounter`,
before it is published. -/
def ClockfeedShm.partialPush (shm : ClockfeedShm) (r : Reading) (p : Nat) : ClockfeedShm :=
  { shm with
    samples := Function.update shm.samples (slot shm.writeCounter)
      ((shm.samples (slot shm.writeCounter)).writeUpTo (sampleRecord shm.writeCounter r) p) }

/-- The ring after the writer's first `n` steps. -/
def ringAt (readings : Nat → Reading) (n : Nat) : ClockfeedShm :=
  (fullRing readings (n / 6)).partialPush (readings (n / 6)) (n % 6)

@[simp] theorem ringAt_writeCounter (readings : Nat → Reading) (n : Nat) :
    (ringAt readings n).writeCounter = n / 6 :=
  fullRing_writeCounter readings (n / 6)

/-- **Window lemma**: while the writer is at most 15 samples past sample `k`,
the slot of `k` holds the whole record `k`'s sampling wrote. -/
theorem ringAt_slot_of_window (sense : Sense) (id : SrcId) {n k : Nat} (hk : k < n / 6)
    (hn : n / 6 < k + maxClockSamples) :
    (ringAt (sense id) n).samples (slot k) = sampleRecord k (sense id k) := by
  simp only [ringAt, ClockfeedShm.partialPush]
  rw [Function.update_noteq (by rw [fullRing_writeCounter]; exact slot_ne hk hn)]
  exact fullRing_ringHolds sense id _ k (by rw [fullRing_writeCounter]; omega) (by simpa using hk)

/-! ## One call against the writer -/

/-- A sequentially consistent interleaving of one call with the writer: the
writer's progress at each read of the call. -/
structure Schedule where
  progress : ReadPoint → Nat
  monotone : ∀ p q : ReadPoint, p.idx ≤ q.idx → progress p ≤ progress q

/-- `clockfeed_compare_to_sys` on the source whose samplings read `readings`,
against the writer under `sched`. -/
def compareToSysAt (readings : Nat → Reading) (env : CompareEnv) (sub : Sub) (sched : Schedule) :
    CompareOut :=
  clockfeedCompareToSys env sub fun p => ringAt readings (sched.progress p)

/-- **The re-read covers the diff**: unless the call reports an overrun, the
diff it returns is zero (an early return) or that of sample `writer1 - 1`,
whatever the writer did between the reads (counters below `2^31 - 16`). -/
theorem compareToSysAt_diff (sense : Sense) (id : SrcId) (env : CompareEnv) (sub : Sub)
    (sched : Schedule) (hw : sched.progress .writer2 / 6 + maxClockSamples < 2 ^ 31)
    (hov : (compareToSysAt (sense id) env sub sched).rc ≠ ENODATA) :
    (compareToSysAt (sense id) env sub sched).diff = .zero ∨
      (compareToSysAt (sense id) env sub sched).diff =
        (sampleRecord (sched.progress .writer1 / 6 - 1) (sense id (sched.progress .writer1 / 6 - 1))).snapshot.sub
          (sampleRecord (sched.progress .writer1 / 6 - 1) (sense id (sched.progress .writer1 / 6 - 1))).system := by
  have m₁ := sched.monotone .writer1 .diffSnapshot (by decide)
  have m₂ := sched.monotone .diffSnapshot .diffSystem (by decide)
  have m₃ := sched.monotone .diffSystem .writer2 (by decide)
  have d₁ := Nat.div_le_div_right (c := 6) m₁
  have d₂ := Nat.div_le_div_right (c := 6) m₂
  have d₃ := Nat.div_le_div_right (c := 6) m₃
  have c₁ : cInt (ringAt (sense id) (sched.progress .writer1)).writeCounter = ↑(sched.progress .writer1 / 6) := by
    rw [ringAt_writeCounter]
    exact cInt_of_lt (by omega)
  have c₂ : cInt (ringAt (sense id) (sched.progress .writer2)).writeCounter = ↑(sched.progress .writer2 / 6) := by
    rw [ringAt_writeCounter]
    exact cInt_of_lt (by omega)
  unfold compareToSysAt clockfeedCompareToSys at hov ⊢
  rcases compareToSysBody_cases cInt env sub fun p => ringAt (sense id) (sched.progress p) with
    ⟨rc, he⟩ | ⟨h0, he⟩
  · rw [he]
    exact .inl rfl
  · rw [he] at hov ⊢
    rw [c₁] at h0
    have hov' := mt (checkAndCopy_overrun _ _ _ _ _ _) hov
    rw [c₁, c₂] at hov'
    have hk : 0 < sched.progress .writer1 / 6 := by omega
    rw [checkAndCopy_diff, c₁, slotOfInt_natCast_sub_one hk,
      ringAt_slot_of_window sense id (n := sched.progress .diffSnapshot) (by omega) (by unfold maxClockSamples at hov' ⊢; omega),
      ringAt_slot_of_window sense id (n := sched.progress .diffSystem) (by omega) (by unfold maxClockSamples at hov' ⊢; omega)]
    exact .inr rfl

/-! ## The copies are not covered -/

/-- Readings whose `k`-th sampling finds the clock equal to the system clock,
at `k` seconds. -/
def lapReadings (k : Nat) : Reading := ⟨0, .zero, ⟨k, 0⟩, ⟨k, 0⟩⟩

/-- The call reads up to the re-read of `write_counter` once the first sample
is published; the writer then publishes sixteen more before the copies. -/
def lapSchedule : Schedule where
  progress p := if p.idx ≤ ReadPoint.writer2.idx then 6 else 6 * 17
  monotone p q h := by
    dsimp only
    split_ifs <;> omega

/-- A call on a live clock that asks for all three copies. -/
def copyEnv : CompareEnv := ⟨false, true, none, true, true, true⟩

/-- The call returns 0 and records `read_counter = writer1 = 1`, so it read
sample 0; its diff is sample 0's, but `*t1`, `*t2` and `*mono_time` hold
sample 16's fields, written into the same slot after the overrun check. -/
theorem compareToSys_copies_later_lap :
    compareToSysAt lapReadings copyEnv (Sub.fresh 0) lapSchedule =
      ⟨0, (sampleRecord 0 (lapReadings 0)).snapshot.sub (sampleRecord 0 (lapReadings 0)).system,
        some (sampleRecord 16 (lapReadings 16)).snapshot, some (sampleRecord 16 (lapReadings 16)).system,
        some (sampleRecord 16 (lapReadings 16)).mono, { Sub.fresh 0 with readCounter := 1 }⟩ ∧
    (sampleRecord 16 (lapReadings 16)).snapshot ≠ (sampleRecord 0 (lapReadings 0)).snapshot := by
  decide

end Sfptpd.Feed
