import Sfptpd.Clockfeed.State
import Mathlib.Logic.Function.Iterate

/-!
# Sampling: `clockfeed_on_timer` and the ring (sfptpd_clockfeed.c:277–374)

On every tick the feed visits the active sources; a source whose cadence
divides the tick count gets one new sample. The write protocol
(lines 345–366) fills slot `write_counter & 15` and then publishes it by
incrementing `write_counter`.

The readings a sampling takes from the outside (the driver's clock
comparison and the two `clock_gettime` calls) are a `Sense`: the reading of the
`k`-th sampling of the source at address `id`. A source is sampled at most once
per sample number, so this loses no behaviour of the clocks.

- `RingHolds sense id shm`: the ring's representation invariant; every one of
  the last `min w 16` samples sits in its slot and is the record that sampling
  wrote (`ClockfeedShm.push_ringHolds` is its step lemma);
- `fullRing readings k`: the ring after `k` samplings; it satisfies
  `RingHolds`, and a turn of the loop takes `fullRing` to `fullRing`
  (`pollSource_fullRing`);
- `onTimer_sources`: the tick's loop, seen from one source, applies
  `pollSource` some number of times (once, on a list without repeats), so every
  property `pollSource` keeps survives a tick.
-/

namespace Sfptpd.Feed

/-- What one sampling obtains: `sfptpd_clock_compare(clock, system, &diff)`
and the `CLOCK_MONOTONIC` and `CLOCK_REALTIME` readings. -/
structure Reading where
  rc : Int
  diff : Timespec
  mono : Timespec
  system : Timespec

/-- The readings of a run, by source address and sample number. -/
abbrev Sense := SrcId → Nat → Reading

/-- The record `clockfeed_on_timer` writes as sample number `k`
(lines 349–360): `snapshot = system + diff` when the comparison succeeded,
zero otherwise. -/
def sampleRecord (k : Nat) (r : Reading) : Sample where
  seq := k
  rc := r.rc
  mono := r.mono
  system := r.system
  snapshot := if r.rc = 0 then r.system.add r.diff else Timespec.zero

/-- One sample write of the ring protocol: fill the slot the write counter
selects, then publish by incrementing the counter. -/
def ClockfeedShm.push (shm : ClockfeedShm) (r : Reading) : ClockfeedShm where
  samples := Function.update shm.samples (slot shm.writeCounter) (sampleRecord shm.writeCounter r)
  writeCounter := shm.writeCounter + 1

/-- `cadence_mask = (1 << cadence) - 1` (line 340): computed on `int`, then
widened to `uint64_t`. The shift is undefined in C for a cadence of 31 and
more (and a negative one); the model takes what the x86-64 code does, a shift
by the count modulo 32 with the `int` arithmetic wrapping in two's
complement. `clockfeed_on_add_clock` keeps the cadence non-negative. -/
def cadenceMask (cadence : Int) : BitVec 64 :=
  ((BitVec.ofNat 32 1 <<< (cadence % 32).toNat) - BitVec.ofNat 32 1).signExtend 64

/-- `(source->cycles & cadence_mask) == 0`: the source is due this tick. -/
def sampleDue (cycles : Nat) (cadence : Int) : Bool :=
  (BitVec.ofNat 64 cycles &&& cadenceMask cadence) == 0

/-- One turn of the loop of `clockfeed_on_timer` (lines 336–371), for the
source at `id`, with the module's poll period `globalLog2`. -/
def pollSource (sense : Sense) (globalLog2 : Int) (id : SrcId) (s : Source) : Source :=
  { s with
    shm := if sampleDue s.cycles (s.pollPeriodLog2 - globalLog2)
      then s.shm.push (sense id s.shm.writeCounter) else s.shm
    cycles := s.cycles + 1 }

/-- `clockfeed_send_sync_event` (lines 277–298): the threads sent a
`SYNC_EVENT`, slot by slot; `alloc i = false` when the message allocation for
slot `i` fails and that subscriber sits the event out. -/
def clockfeedSendSyncEvent (m : Clockfeed) (alloc : Fin maxEventSubscribers → Bool) :
    List ThreadId :=
  (List.finRange maxEventSubscribers).filterMap fun i => if alloc i then m.eventSubscribers i else none

/-- The loop over the active list, on the heap of sources. -/
def pollActive (sense : Sense) (globalLog2 : Int) :
    List SrcId → (SrcId → Option Source) → SrcId → Option Source
  | [], heap => heap
  | id :: ids, heap =>
    pollActive sense globalLog2 ids (Function.update heap id ((heap id).map (pollSource sense globalLog2 id)))

/-- `clockfeed_on_timer` (lines 327–374): sample the due active sources, then
send the sync events. -/
def clockfeedOnTimer (sense : Sense) (alloc : Fin maxEventSubscribers → Bool) (m : Clockfeed) :
    Clockfeed × List ThreadId :=
  let m' := { m with sources := pollActive sense m.pollPeriodLog2 m.active m.sources }
  (m', clockfeedSendSyncEvent m' alloc)

section Tick

variable (sense : Sense) (alloc : Fin maxEventSubscribers → Bool) (m : Clockfeed)

@[simp] theorem onTimer_active : (clockfeedOnTimer sense alloc m).1.active = m.active := rfl
@[simp] theorem onTimer_inactive : (clockfeedOnTimer sense alloc m).1.inactive = m.inactive := rfl
@[simp] theorem onTimer_subs : (clockfeedOnTimer sense alloc m).1.subs = m.subs := rfl
@[simp] theorem onTimer_nextId : (clockfeedOnTimer sense alloc m).1.nextId = m.nextId := rfl
@[simp] theorem onTimer_eventSubscribers :
    (clockfeedOnTimer sense alloc m).1.eventSubscribers = m.eventSubscribers := rfl

@[simp] theorem pollSource_clock (g : Int) (id : SrcId) (s : Source) :
    (pollSource sense g id s).clock = s.clock := rfl
@[simp] theorem pollSource_subscribers (g : Int) (id : SrcId) (s : Source) :
    (pollSource sense g id s).subscribers = s.subscribers := rfl
@[simp] theorem pollSource_inactive (g : Int) (id : SrcId) (s : Source) :
    (pollSource sense g id s).inactive = s.inactive := rfl
@[simp] theorem pollSource_pollPeriodLog2 (g : Int) (id : SrcId) (s : Source) :
    (pollSource sense g id s).pollPeriodLog2 = s.pollPeriodLog2 := rfl
/-- A turn of the loop writes one sample exactly when the source is due. -/
theorem pollSource_writeCounter (g : Int) (id : SrcId) (s : Source) :
    (pollSource sense g id s).shm.writeCounter =
      s.shm.writeCounter + if sampleDue s.cycles (s.pollPeriodLog2 - g) then 1 else 0 := by
  simp only [pollSource]
  split <;> rfl

/-- Seen from one address, the loop applies `pollSource` once for each time
the address is on the list. -/
theorem pollActive_count (g : Int) :
    ∀ (ids : List SrcId) (heap : SrcId → Option Source) (j : SrcId),
      pollActive sense g ids heap j = (heap j).map (pollSource sense g j)^[ids.count j]
  | [], heap, j => by simp [pollActive]
  | i :: ids, heap, j => by
    rw [pollActive, pollActive_count g ids]
    by_cases hij : j = i
    · subst hij
      rw [Function.update_same, Option.map_map, ← Function.iterate_succ, List.count_cons_self]
    · rw [Function.update_noteq hij, List.count_cons_of_ne hij]

/-- Seen from one address, the loop applies `pollSource` some number of times. -/
theorem pollActive_iterate (g : Int) (ids : List SrcId) (heap : SrcId → Option Source) (j : SrcId) :
    ∃ n, pollActive sense g ids heap j = (heap j).map (pollSource sense g j)^[n] :=
  ⟨_, pollActive_count sense g ids heap j⟩

/-- Seen from one address, a tick applies `pollSource` some number of times:
a tick allocates and frees nothing, and keeps every property of a source
record that `pollSource` keeps. -/
theorem onTimer_sources (j : SrcId) : ∃ n, (clockfeedOnTimer sense alloc m).1.sources j =
    (m.sources j).map (pollSource sense m.pollPeriodLog2 j)^[n] :=
  pollActive_iterate sense m.pollPeriodLog2 m.active m.sources j

/-- A tick keeps each source's clock, subscriber list and inactive flag. -/
theorem onTimer_sources_map (j : SrcId) :
    ((clockfeedOnTimer sense alloc m).1.sources j).map (fun s => (s.clock, s.subscribers, s.inactive)) =
      (m.sources j).map (fun s => (s.clock, s.subscribers, s.inactive)) := by
  obtain ⟨n, hn⟩ := onTimer_sources sense alloc m j
  rw [hn, Option.map_map]
  congr 1
  funext s
  exact Function.Iterate.rec (f := pollSource sense m.pollPeriodLog2 j)
    (fun t : Source => (t.clock, t.subscribers, t.inactive) = (s.clock, s.subscribers, s.inactive))
    (fun _ h => h) rfl n

end Tick

/-! ## The ring's representation invariant -/

/-- Every one of the last `min w 16` samples of the source at `id` sits in its
slot and is the record its sampling wrote. -/
def RingHolds (sense : Sense) (id : SrcId) (shm : ClockfeedShm) : Prop :=
  ∀ k, shm.writeCounter - maxClockSamples ≤ k → k < shm.writeCounter →
    shm.samples (slot k) = sampleRecord k (sense id k)

theorem ringHolds_empty (sense : Sense) (id : SrcId) : RingHolds sense id ClockfeedShm.empty :=
  fun _ _ hk => absurd hk (Nat.not_lt_zero _)

/-- Two sample numbers less than a ring apart use different slots. -/
theorem slot_ne {k w : Nat} (hk : k < w) (hw : w < k + maxClockSamples) : slot k ≠ slot w := by
  simp only [slot, maxClockSamples, ne_eq, Fin.mk.injEq] at hw ⊢
  omega

/-- **Step lemma**: the write protocol keeps the ring's invariant. -/
theorem ClockfeedShm.push_ringHolds {sense : Sense} {id : SrcId} {shm : ClockfeedShm}
    (h : RingHolds sense id shm) : RingHolds sense id (shm.push (sense id shm.writeCounter)) := by
  intro k hlo hhi
  simp only [ClockfeedShm.push] at hlo hhi ⊢
  rcases Nat.lt_or_ge k shm.writeCounter with hk | hk
  · rw [Function.update_noteq (slot_ne hk (by simp only [maxClockSamples] at hlo ⊢; omega))]
    exact h k (by omega) hk
  · obtain rfl : k = shm.writeCounter := by omega
    rw [Function.update_same]

/-- The ring after the first `k` sample writes, from the empty ring
`clockfeed_on_add_clock` allocates. -/
def fullRing (readings : Nat → Reading) : Nat → ClockfeedShm
  | 0 => ClockfeedShm.empty
  | k + 1 => (fullRing readings k).push (readings k)

@[simp] theorem fullRing_writeCounter (readings : Nat → Reading) :
    ∀ k, (fullRing readings k).writeCounter = k
  | 0 => rfl
  | k + 1 => congrArg (· + 1) (fullRing_writeCounter readings k)

theorem fullRing_ringHolds (sense : Sense) (id : SrcId) : ∀ k, RingHolds sense id (fullRing (sense id) k)
  | 0 => ringHolds_empty sense id
  | k + 1 => by
    have h := ClockfeedShm.push_ringHolds (fullRing_ringHolds sense id k)
    rwa [fullRing_writeCounter] at h

/-- **Step lemma**: a turn of the loop keeps a source's ring the one its
samplings wrote. -/
theorem pollSource_fullRing {sense : Sense} {g : Int} {id : SrcId} {s : Source}
    (h : s.shm = fullRing (sense id) s.shm.writeCounter) :
    (pollSource sense g id s).shm = fullRing (sense id) (pollSource sense g id s).shm.writeCounter := by
  simp only [pollSource]
  split
  · show _ = (fullRing (sense id) s.shm.writeCounter).push (sense id s.shm.writeCounter)
    rw [← h]
  · exact h

theorem pollSource_writeCounter_le (sense : Sense) (g : Int) (id : SrcId) (s : Source) :
    s.shm.writeCounter ≤ (pollSource sense g id s).shm.writeCounter := by
  rw [pollSource_writeCounter]
  exact Nat.le_add_right _ _

end Sfptpd.Feed
