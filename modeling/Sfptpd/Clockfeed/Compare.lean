import Sfptpd.Clockfeed.Reader
import Mathlib.Algebra.Order.Group.Unbundled.Abs
import Mathlib.Algebra.Order.Group.Int

/-!
# Comparing two clocks: `sfptpd_clockfeed_compare` (sfptpd_clockfeed.c:971–1035)

`sfptpd_clockfeed_compare(sub1, sub2, diff, t1, t2, mono)` reads each
non-`NULL` subscription with `clockfeed_compare_to_sys` and combines the two
legs: `diff` is the first leg's offset less the second's, `t1` and `t2` are
routed to the leg they belong to (a `NULL` side gets the other leg's system
reading), `*mono` is meant to be the earlier of the two samples' monotonic
times, and with two subscriptions an age-difference limit (the smaller of the
limits set) rejects samples taken too far apart.

- `Leg`: one non-`NULL` subscription, with what its read learns from outside
  the ring and the ring each of its reads sees;
- `compareToSysBody_rc_zero`: a read returns 0 either on a newest sample whose
  clock comparison failed, with nothing checked, copied or recorded (the
  `return rc` of line 922), or after every gate, with the copies from the
  newest sample and `read_counter = writer1`;
- `sfptpdClockfeedCompare`: the function, with `*mono` and the local `mono2`
  as inputs where the code reads them before writing them;
- `compare_of_rc_zero`: a call that returns 0 had every leg read return 0,
  and its `diff`, `t1` and `t2` are the legs' results combined as above;
- `compare_two_reads`, `compare_estale_iff`: with two legs whose reads pass,
  the result is 0 or `ESTALE`, `*mono` is `mono2` exactly when the
  comparison of lines 1011–1014 replaces it, and `ESTALE` exactly when the age
  difference computed after that replacement reaches the limit;
- `compare_diff_exact`: on rings written by `clockfeed_on_timer`, a call that
  returns 0 gives `diff = off(sub1) - off(sub2)` exactly and routes the clock
  readings of the samples read;
- `compare_returns_zero_unread`, `compare_age_gate_misses_older_second`,
  `compare_mono_not_earlier`: runs where a call returns 0 with nothing read,
  where the age-difference gate misses a pair of samples five seconds apart,
  and where `*mono` is not the earlier time.
-/

namespace Sfptpd.Feed

/-! ## One read -/

section Calls

variable {env : CompareEnv} {sub : Sub} {writer1 writer2 : Int} {diff : Timespec}
  {field : ReadPoint → Sample}

/-- **What a delivering check does**: a return of 0 after the diff passed the
overrun, staleness and age gates, copied the outputs from the sample and
recorded `writer1`. -/
theorem checkAndCopy_rc_zero (h : (checkAndCopy env sub writer1 writer2 diff field).rc = 0) :
    writer2 < writer1 + maxClockSamples - 1 ∧ sub.minCounter ≤ writer1 ∧
      (sub.haveMaxAge = true →
        ∃ now, env.nowMono = some now ∧ (now.sub (field .ageMono).mono).gt sub.maxAge = false) ∧
      checkAndCopy env sub writer1 writer2 diff field =
        ⟨0, diff, if env.wantT1 then some (field .t1).snapshot else none,
          if env.wantT2 then some (field .t2).system else none,
          if env.wantMono then some (field .monoTime).mono else none, { sub with readCounter := writer1 }⟩ := by
  dsimp only [checkAndCopy] at h ⊢
  by_cases hov : writer1 + maxClockSamples - 1 ≤ writer2
  · simp [hov, ENODATA] at h
  by_cases hst : writer1 < sub.minCounter
  · simp [hov, hst, ESTALE] at h
  rw [if_neg hov, if_neg hst] at h ⊢
  refine ⟨by omega, by omega, ?_⟩
  cases hmax : sub.haveMaxAge with
  | false =>
    simp only [hmax] at h ⊢
    exact ⟨nofun, trivial⟩
  | true =>
    cases hnow : env.nowMono with
    | none => simp [hmax, hnow, EAGAIN] at h
    | some now =>
      by_cases hage : (now.sub (field .ageMono).mono).gt sub.maxAge
      · simp [hmax, hnow, hage, ESTALE] at h
      · simp only [hmax, hnow, hage, if_false]
        exact ⟨fun _ => ⟨now, rfl, by simpa using hage⟩, rfl⟩

/-- A `NULL` output pointer is not written. -/
theorem checkAndCopy_unwanted :
    (env.wantT1 = false → (checkAndCopy env sub writer1 writer2 diff field).t1 = none) ∧
      (env.wantT2 = false → (checkAndCopy env sub writer1 writer2 diff field).t2 = none) ∧
      (env.wantMono = false → (checkAndCopy env sub writer1 writer2 diff field).mono = none) := by
  rcases checkAndCopy_cases env sub writer1 writer2 diff field with ⟨rc, he⟩ | he <;> rw [he]
  · exact ⟨fun _ => rfl, fun _ => rfl, fun _ => rfl⟩
  · exact ⟨fun h => by simp [h], fun h => by simp [h], fun h => by simp [h]⟩

end Calls

/-- The newest sample as the read at `p` sees it: slot `(writer1 - 1) & 15`
(line 920). -/
def newestSample (narrow : Nat → Int) (view : ReadPoint → ClockfeedShm) (p : ReadPoint) : Sample :=
  (view p).samples (slotOfInt (narrow (view .writer1).writeCounter - 1))

/-- **Inversion of a return of 0**: the source is live and `writer1` non-zero,
and either the newest sample's comparison failed and the call returns with
nothing checked, copied or recorded, or the sample's diff went through the
checks of `checkAndCopy` and they returned 0. -/
theorem compareToSysBody_rc_zero {narrow : Nat → Int} {env : CompareEnv} {sub : Sub}
    {view : ReadPoint → ClockfeedShm} (h : (compareToSysBody narrow env sub view).rc = 0) :
    env.inactive = false ∧ env.clockActive = true ∧ narrow (view .writer1).writeCounter ≠ 0 ∧
      ((newestSample narrow view .sampleRc).rc ≠ 0 ∧
          compareToSysBody narrow env sub view = ⟨0, .zero, none, none, none, sub⟩ ∨
        (newestSample narrow view .sampleRc).rc = 0 ∧
          (checkAndCopy env sub (narrow (view .writer1).writeCounter) (narrow (view .writer2).writeCounter)
            ((newestSample narrow view .diffSnapshot).snapshot.sub (newestSample narrow view .diffSystem).system)
            (newestSample narrow view)).rc = 0 ∧
          compareToSysBody narrow env sub view =
            checkAndCopy env sub (narrow (view .writer1).writeCounter) (narrow (view .writer2).writeCounter)
              ((newestSample narrow view .diffSnapshot).snapshot.sub (newestSample narrow view .diffSystem).system)
              (newestSample narrow view)) := by
  -- one case per guard, in the order of the source
  dsimp only [compareToSysBody] at h ⊢
  by_cases h₁ : env.inactive = true
  · simp [h₁, EOWNERDEAD] at h
  rw [if_neg h₁] at h ⊢
  by_cases h₂ : (!env.clockActive) = true
  · simp [h₂, ENOENT] at h
  rw [if_neg h₂] at h ⊢
  by_cases h₃ : narrow (view .writer1).writeCounter = 0
  · simp [h₃, EAGAIN] at h
  rw [if_neg h₃] at h ⊢
  refine ⟨by simpa using h₁, by simpa using h₂, h₃, ?_⟩
  by_cases h₄ : ((view .sampleRc).samples (slotOfInt (narrow (view .writer1).writeCounter - 1))).rc ≠ 0
  · exact .inl ⟨h₄, if_pos h₄⟩
  · rw [if_neg h₄] at h ⊢
    exact .inr ⟨not_not.mp h₄, h, rfl⟩

/-- A `NULL` output pointer is not written. -/
theorem compareToSysBody_unwanted (narrow : Nat → Int) (env : CompareEnv) (sub : Sub)
    (view : ReadPoint → ClockfeedShm) :
    (env.wantT1 = false → (compareToSysBody narrow env sub view).t1 = none) ∧
      (env.wantT2 = false → (compareToSysBody narrow env sub view).t2 = none) ∧
      (env.wantMono = false → (compareToSysBody narrow env sub view).mono = none) := by
  rcases compareToSysBody_cases narrow env sub view with ⟨rc, he⟩ | ⟨-, he⟩ <;> rw [he]
  · exact ⟨fun _ => rfl, fun _ => rfl, fun _ => rfl⟩
  · exact checkAndCopy_unwanted

/-! ## One leg of a comparison -/

/-- A non-`NULL` subscription argument of `sfptpd_clockfeed_compare`: the
subscription, what its `clockfeed_compare_to_sys` learns from outside the ring
(as `CompareEnv`), and the ring each of its reads sees. -/
structure Leg where
  sub : Sub
  inactive : Bool
  clockActive : Bool
  nowMono : Option Timespec
  view : ReadPoint → ClockfeedShm

/-- `clockfeed_compare_to_sys(sub, .., t1, t2, mono_time)` on the leg, with
the given output pointers non-`NULL`. -/
def Leg.read (a : Leg) (wantT1 wantT2 wantMono : Bool) : CompareOut :=
  clockfeedCompareToSys ⟨a.inactive, a.clockActive, a.nowMono, wantT1, wantT2, wantMono⟩ a.sub a.view

/-- The leg's reads all see one ring, the one the feed's samplings wrote for
the subscription's source (`RingHolds`, which `feed_ring_invariant` gives every
reachable state): a call made while the feed thread does not write. -/
def Leg.Settled (sense : Sense) (a : Leg) : Prop :=
  (∀ p, a.view p = a.view .writer1) ∧ RingHolds sense a.sub.source (a.view .writer1)

/-- A read writes no `NULL` output pointer. -/
@[simp] theorem Leg.read_t2_unwanted (a : Leg) (wantT1 wantMono : Bool) : (a.read wantT1 false wantMono).t2 = none :=
  (compareToSysBody_unwanted cInt _ a.sub a.view).2.1 rfl

@[simp] theorem Leg.read_mono_unwanted (a : Leg) (wantT1 wantT2 : Bool) : (a.read wantT1 wantT2 false).mono = none :=
  (compareToSysBody_unwanted cInt _ a.sub a.view).2.2 rfl

/-- The reading the feed took for the newest sample at the leg's first read of
`write_counter`. -/
def Leg.reading (sense : Sense) (a : Leg) : Reading :=
  sense a.sub.source ((a.view .writer1).writeCounter - 1)

theorem cInt_zero : cInt 0 = 0 := rfl

/-- On a settled leg the read uses the newest sample `clockfeed_on_timer`
wrote. -/
theorem Leg.newestSample_of_settled {sense : Sense} {a : Leg} (hs : a.Settled sense)
    (hw : cInt (a.view .writer1).writeCounter ≠ 0) (p : ReadPoint) :
    newestSample cInt a.view p = sampleRecord ((a.view .writer1).writeCounter - 1) (a.reading sense) := by
  have hpos : 0 < (a.view .writer1).writeCounter :=
    Nat.pos_of_ne_zero fun h0 => hw (by rw [h0, cInt_zero])
  rw [newestSample, slotOfInt_cInt, slotOfInt_natCast_sub_one hpos, hs.1 p]
  exact hs.2 _ (by simp only [maxClockSamples]; omega) (by omega)

/-- **A read of 0 on a settled leg**: its diff is the offset the feed's clock
comparison gave for the newest sample (zero when that comparison failed), and
what it writes through `t1`, `t2` and `mono_time` is that sample's clock,
system and monotonic reading. -/
theorem Leg.read_of_settled {sense : Sense} {a : Leg} (hs : a.Settled sense) {wantT1 wantT2 wantMono : Bool}
    (h : (a.read wantT1 wantT2 wantMono).rc = 0) :
    (a.read wantT1 wantT2 wantMono).diff.toNs =
        (if (a.reading sense).rc = 0 then (a.reading sense).diff else .zero).toNs ∧
      (∀ t ∈ (a.read wantT1 wantT2 wantMono).t1, t = (a.reading sense).system.add (a.reading sense).diff) ∧
      (∀ t ∈ (a.read wantT1 wantT2 wantMono).t2, t = (a.reading sense).system) ∧
      (∀ t ∈ (a.read wantT1 wantT2 wantMono).mono, t = (a.reading sense).mono) := by
  obtain ⟨-, -, hw, hcase⟩ := compareToSysBody_rc_zero h
  have hnew := Leg.newestSample_of_settled hs hw
  rcases hcase with ⟨hrc, he⟩ | ⟨hrc, hcc, he⟩
  · have hfail : (a.reading sense).rc ≠ 0 := by simpa [hnew, sampleRecord] using hrc
    rw [Leg.read, clockfeedCompareToSys, he]
    simp [hfail]
  · obtain ⟨-, -, -, hc⟩ := checkAndCopy_rc_zero hcc
    have hok : (a.reading sense).rc = 0 := by simpa [hnew, sampleRecord] using hrc
    rw [Leg.read, clockfeedCompareToSys, he, hc]
    simp only [hnew, sampleRecord, hok, if_true, Timespec.sub_toNs, Timespec.add_toNs]
    refine ⟨by omega, ?_, ?_, ?_⟩ <;> intro t ht <;> split at ht
    all_goals first | exact (Option.mem_some_iff.mp ht).symm | cases ht

/-! ## `sfptpd_clockfeed_compare` -/

/-- The age-difference limit of two subscriptions (lines 991–996): the first's
if set, replaced by the second's when that is set and no greater. -/
def maxAgeDiffOf (s1 s2 : Sub) : Option Timespec :=
  let m1 := if s1.haveMaxAgeDiff then some s1.maxAgeDiff else none
  if s2.haveMaxAgeDiff && (m1.map (·.ge s2.maxAgeDiff)).getD true then some s2.maxAgeDiff else m1

/-- The test of lines 1013–1015 for replacing `*mono` by `mono2`, as written:
the seconds of `mono2` are compared with the nanoseconds of `*mono`. -/
def monoReplaced (mono mono2 : Timespec) : Bool :=
  decide (mono2.sec < mono.sec) || (decide (mono2.sec = mono.nsec) && decide (mono2.nsec < mono.nsec))

/-- The age gate of lines 1020–1031: the difference of `mono2` and `*mono`,
taken the non-negative way round, reaches the limit. -/
def ageDiffReaches (mono mono2 maxAgeDiff : Timespec) : Bool :=
  (if mono2.ge mono then mono2.sub mono else mono.sub mono2).ge maxAgeDiff

/-- The age-difference limit of a call: set only when both arguments are
subscriptions (line 990). -/
def compareMaxAgeDiff : Option Leg → Option Leg → Option Timespec
  | some a, some b => maxAgeDiffOf a.sub b.sub
  | _, _ => none

/-- The return code, `*diff`, what was written through `t1`, `t2` and the
caller's `mono`, and the two subscriptions afterwards. -/
structure CompareResult where
  rc : Int
  diff : Timespec
  t1 : Option Timespec
  t2 : Option Timespec
  mono : Option Timespec
  sub1 : Option Sub
  sub2 : Option Sub
deriving DecidableEq, Repr

/-- The first read (line 1004): `clockfeed_compare_to_sys(sub1, diff, t1, t2,
mono)` for a non-`NULL` first subscription; the caller passes `t2` only when
the second subscription is `NULL`. -/
def compareFirst (leg1 : Option Leg) (wantT1 wantT2 monoPtr : Bool) : CompareResult :=
  match leg1 with
  | none => ⟨0, .zero, none, none, none, none, none⟩
  | some a =>
    let r := a.read wantT1 wantT2 monoPtr
    ⟨r.rc, r.diff, r.t1, r.t2, r.mono, some r.sub, none⟩

/-- The second read and what follows it (lines 1006–1017):
`clockfeed_compare_to_sys(sub2, &diff2, t2, t1, &mono2)`, with `wantT1` and
`wantT2` the read's own output pointers (its `t1` is the caller's `t2`, its
`t2` the caller's `t1`); on success `*diff -= diff2` and `*mono` is replaced by
`mono2` when the test of line 1013 holds. Also returns the local `mono2`. -/
def compareSecond (s1 : CompareResult) (b : Leg) (wantT1 wantT2 monoPtr : Bool) (monoInit mono2Init : Timespec) :
    CompareResult × Timespec :=
  let r := b.read wantT1 wantT2 monoPtr
  let mono2 := r.mono.getD mono2Init
  if r.rc = 0 then
    ({ s1 with
        diff := s1.diff.sub r.diff, t1 := r.t2.or s1.t1, t2 := r.t1.or s1.t2,
        mono := if monoPtr && monoReplaced (s1.mono.getD monoInit) mono2 then some mono2 else s1.mono,
        sub2 := some r.sub }, mono2)
  else ({ s1 with rc := r.rc, sub2 := some r.sub }, mono2)

/-- The age-difference check (lines 1020–1032) on `*mono` and `mono2`. -/
def compareAgeGate (maxAgeDiff : Option Timespec) (monoInit mono2 : Timespec) (s : CompareResult) :
    CompareResult :=
  match maxAgeDiff with
  | some d => if s.rc = 0 && ageDiffReaches (s.mono.getD monoInit) mono2 d then { s with rc := ESTALE } else s
  | none => s

/-- `sfptpd_clockfeed_compare(sub1, sub2, diff, t1, t2, mono)` (lines 971–1035);
`none` is a `NULL` subscription (the system clock) and `wantT1`, `wantT2`,
`wantMono` say which output pointers are non-`NULL`. `monoInit` is what
`*mono` holds before the call: the caller's timespec, or the uninitialised
local `mono1` when only the age check needs one. `mono2Init` is the local
`mono2` before the second read writes it; lines 1013 and 1025 read it even when
that read wrote nothing. -/
def sfptpdClockfeedCompare (leg1 leg2 : Option Leg) (wantT1 wantT2 wantMono : Bool)
    (monoInit mono2Init : Timespec) : CompareResult :=
  let maxAgeDiff := compareMaxAgeDiff leg1 leg2
  -- `mono` is non-`NULL` when the caller passed one or the age check needs it
  let monoPtr := wantMono || maxAgeDiff.isSome
  let s1 := compareFirst leg1 wantT1 (wantT2 && leg2.isNone) monoPtr
  let second := match leg2 with
    | some b => if s1.rc = 0 then compareSecond s1 b wantT2 (wantT1 && leg1.isNone) monoPtr monoInit mono2Init
      else (s1, mono2Init)
    | none => (s1, mono2Init)
  let s3 := compareAgeGate maxAgeDiff monoInit second.2 second.1
  { s3 with mono := if wantMono then s3.mono else none }

section Compare

/-- The age check only ever fails a call. -/
theorem compareAgeGate_of_rc_zero {maxAgeDiff : Option Timespec} {monoInit mono2 : Timespec} {s : CompareResult}
    (h : (compareAgeGate maxAgeDiff monoInit mono2 s).rc = 0) : compareAgeGate maxAgeDiff monoInit mono2 s = s := by
  rcases maxAgeDiff with _ | d
  · rfl
  · dsimp only [compareAgeGate] at h ⊢
    split_ifs at h ⊢
    · simp [ESTALE] at h
    · rfl

/-- A second read that leaves the return code 0 returned 0 itself, and the
call takes its diff, `t1` and `t2` from it. -/
theorem compareSecond_of_rc_zero {s1 : CompareResult} {b : Leg} {wantT1 wantT2 monoPtr : Bool}
    {monoInit mono2Init : Timespec} (h : (compareSecond s1 b wantT1 wantT2 monoPtr monoInit mono2Init).1.rc = 0) :
    (b.read wantT1 wantT2 monoPtr).rc = 0 ∧ s1.rc = 0 ∧
      (compareSecond s1 b wantT1 wantT2 monoPtr monoInit mono2Init).1.diff = s1.diff.sub (b.read wantT1 wantT2 monoPtr).diff ∧
      (compareSecond s1 b wantT1 wantT2 monoPtr monoInit mono2Init).1.t1 = (b.read wantT1 wantT2 monoPtr).t2.or s1.t1 ∧
      (compareSecond s1 b wantT1 wantT2 monoPtr monoInit mono2Init).1.t2 = (b.read wantT1 wantT2 monoPtr).t1.or s1.t2 := by
  dsimp only [compareSecond] at h ⊢
  by_cases hr : (b.read wantT1 wantT2 monoPtr).rc = 0
  · rw [if_pos hr] at h ⊢
    exact ⟨hr, h, rfl, rfl, rfl⟩
  · rw [if_neg hr] at h
    exact absurd h hr

variable {leg1 leg2 : Option Leg} {wantT1 wantT2 wantMono : Bool} {monoInit mono2Init : Timespec}

/-- **Inversion of a return of 0**: every subscription's read returned 0;
`*diff` is the first read's diff less the second's (zero for a `NULL`
side), and `t1`, `t2` are what the reads wrote, the second read writing `t1`
only for a `NULL` first subscription and the first writing `t2` only for a
`NULL` second one. -/
theorem compare_of_rc_zero
    (h : (sfptpdClockfeedCompare leg1 leg2 wantT1 wantT2 wantMono monoInit mono2Init).rc = 0) :
    let monoPtr := wantMono || (compareMaxAgeDiff leg1 leg2).isSome
    let read1 := fun a : Leg => a.read wantT1 (wantT2 && leg2.isNone) monoPtr
    let read2 := fun b : Leg => b.read wantT2 (wantT1 && leg1.isNone) monoPtr
    (∀ a ∈ leg1, (read1 a).rc = 0) ∧ (∀ b ∈ leg2, (read2 b).rc = 0) ∧
      (sfptpdClockfeedCompare leg1 leg2 wantT1 wantT2 wantMono monoInit mono2Init).diff.toNs =
        (leg1.map fun a => (read1 a).diff.toNs).getD 0 - (leg2.map fun b => (read2 b).diff.toNs).getD 0 ∧
      (sfptpdClockfeedCompare leg1 leg2 wantT1 wantT2 wantMono monoInit mono2Init).t1 =
        (leg2.bind fun b => (read2 b).t2).or (leg1.bind fun a => (read1 a).t1) ∧
      (sfptpdClockfeedCompare leg1 leg2 wantT1 wantT2 wantMono monoInit mono2Init).t2 =
        (leg2.bind fun b => (read2 b).t1).or (leg1.bind fun a => (read1 a).t2) := by
  dsimp only [sfptpdClockfeedCompare] at h ⊢
  have hg := compareAgeGate_of_rc_zero h
  rw [hg] at h ⊢
  clear hg
  rcases leg2 with _ | b
  · rcases leg1 with _ | a
    · simp [compareFirst]
    · simp only [compareFirst, compareMaxAgeDiff, Option.isNone_none, Option.isSome_none, Bool.and_true,
        Bool.or_false] at h ⊢
      simp [h]
  · dsimp only at h ⊢
    by_cases h1 : (compareFirst leg1 wantT1 (wantT2 && (some b).isNone)
        (wantMono || (compareMaxAgeDiff leg1 (some b)).isSome)).rc = 0
    · rw [if_pos h1] at h ⊢
      obtain ⟨hr2, -, hd, ht1, ht2⟩ := compareSecond_of_rc_zero h
      rw [hd, ht1, ht2, Timespec.sub_toNs]
      clear h hd ht1 ht2
      rcases leg1 with _ | a
      · simp only [compareFirst] at hr2 ⊢
        simpa using hr2
      · simp only [compareFirst] at h1 ⊢
        simp only [Option.isNone_some, Bool.and_false] at hr2 h1 ⊢
        simpa using ⟨h1, hr2⟩
    · rw [if_neg h1] at h
      exact absurd h h1

/-- A live leg whose reads see the ring written with `readings`, the
monotonic clock at `now`. -/
def ringLeg (sub : Sub) (now : Timespec) (readings : List Reading) : Leg :=
  ⟨sub, false, true, some now, fun _ => readings.foldl ClockfeedShm.push ClockfeedShm.empty⟩

/-- A successful sampling with the monotonic clock at `mono`, the system clock
at 1000 s and no offset. -/
def monoReading (mono : Timespec) : Reading := ⟨0, .zero, mono, ⟨1000, 0⟩⟩

/-- A subscription with a maximum age of 1 s that consumed sample 1 and then
asked for a fresh one (`min_counter = 2`). -/
def freshAfterFirst : Sub :=
  sfptpdClockfeedRequireFresh { Sub.fresh 0 with readCounter := 1, haveMaxAge := true, maxAge := ⟨1, 0⟩ }

/-- The second sampling of the source failed its clock comparison (`rc = 5`)
and the sample is 899 s old: a comparison against the system clock asking for
`t1`, `t2` and `mono` returns 0, with a zero diff, nothing written and
`read_counter` still 1, no gate checked. With a `NULL` first subscription and a
caller's `mono` holding 0, a comparison reads the second's sample, writes `t1`
and `t2` from it and returns 0, but leaves `*mono` unwritten. -/
theorem compare_returns_zero_unread :
    sfptpdClockfeedCompare
        (some (ringLeg freshAfterFirst ⟨1000, 0⟩ [⟨0, .zero, ⟨100, 0⟩, ⟨1000, 0⟩⟩, ⟨5, .zero, ⟨101, 0⟩, ⟨1001, 0⟩⟩]))
        none true true true .zero .zero = ⟨0, .zero, none, none, none, some freshAfterFirst, none⟩ ∧
      (sfptpdClockfeedCompare none (some (ringLeg (Sub.fresh 0) ⟨100, 0⟩ [monoReading ⟨100, 0⟩]))
          true true true .zero .zero).rc = 0 ∧
      (sfptpdClockfeedCompare none (some (ringLeg (Sub.fresh 0) ⟨100, 0⟩ [monoReading ⟨100, 0⟩]))
          true true true .zero .zero).t1 = some ⟨1000, 0⟩ ∧
      (sfptpdClockfeedCompare none (some (ringLeg (Sub.fresh 0) ⟨100, 0⟩ [monoReading ⟨100, 0⟩]))
          true true true .zero .zero).mono = none := by
  decide

/-- **Two delivering reads**: when both reads return 0 with monotonic times
`m1` and `m2`, `*mono` ends as `m2` exactly when the test of line 1013 holds,
and the age check compares the limit with the difference of `mono2` and
`*mono` after that replacement. -/
theorem compare_two_reads {a b : Leg} {m1 m2 : Timespec}
    (h1 : (a.read wantT1 false (wantMono || (maxAgeDiffOf a.sub b.sub).isSome)).rc = 0)
    (hm1 : (a.read wantT1 false (wantMono || (maxAgeDiffOf a.sub b.sub).isSome)).mono = some m1)
    (h2 : (b.read wantT2 false (wantMono || (maxAgeDiffOf a.sub b.sub).isSome)).rc = 0)
    (hm2 : (b.read wantT2 false (wantMono || (maxAgeDiffOf a.sub b.sub).isSome)).mono = some m2) :
    (sfptpdClockfeedCompare (some a) (some b) wantT1 wantT2 wantMono monoInit mono2Init).rc =
        (match maxAgeDiffOf a.sub b.sub with
          | some d => if ageDiffReaches (if monoReplaced m1 m2 then m2 else m1) m2 d then ESTALE else 0
          | none => 0) ∧
      (sfptpdClockfeedCompare (some a) (some b) wantT1 wantT2 wantMono monoInit mono2Init).mono =
        if wantMono then some (if monoReplaced m1 m2 then m2 else m1) else none := by
  -- a read writes `mono_time` only through a non-`NULL` pointer
  have hmp : (wantMono || (maxAgeDiffOf a.sub b.sub).isSome) = true := by
    cases hf : (wantMono || (maxAgeDiffOf a.sub b.sub).isSome)
    · rw [hf, Leg.read_mono_unwanted] at hm1
      cases hm1
    · rfl
  rw [hmp] at h1 hm1 h2 hm2
  simp only [sfptpdClockfeedCompare, compareMaxAgeDiff, compareFirst, compareSecond, Option.isNone_some,
    Bool.and_false, hmp, h1, hm1, h2, hm2, if_true, Option.getD_some, Bool.true_and]
  rw [← apply_ite some]
  rcases maxAgeDiffOf a.sub b.sub with _ | d
  · exact ⟨rfl, rfl⟩
  · simp only [compareAgeGate, Option.getD_some, decide_True, Bool.true_and]
    split_ifs <;> exact ⟨rfl, rfl⟩

/-- Two subscriptions of the same second, the second's sample earlier, keep
the first's time; and a first sample at 3 s 7 ns is replaced by a later
second one at 7 s 1 ns, whose seconds equal the first's nanoseconds. -/
theorem compare_mono_not_earlier :
    (sfptpdClockfeedCompare (some (ringLeg (Sub.fresh 0) ⟨5, 500⟩ [monoReading ⟨5, 500⟩]))
        (some (ringLeg (Sub.fresh 1) ⟨5, 500⟩ [monoReading ⟨5, 100⟩])) false false true .zero .zero).rc = 0 ∧
      (sfptpdClockfeedCompare (some (ringLeg (Sub.fresh 0) ⟨5, 500⟩ [monoReading ⟨5, 500⟩]))
        (some (ringLeg (Sub.fresh 1) ⟨5, 500⟩ [monoReading ⟨5, 100⟩])) false false true .zero .zero).mono =
        some ⟨5, 500⟩ ∧
      (sfptpdClockfeedCompare (some (ringLeg (Sub.fresh 0) ⟨7, 1⟩ [monoReading ⟨3, 7⟩]))
        (some (ringLeg (Sub.fresh 1) ⟨7, 1⟩ [monoReading ⟨7, 1⟩])) false false true .zero .zero).rc = 0 ∧
      (sfptpdClockfeedCompare (some (ringLeg (Sub.fresh 0) ⟨7, 1⟩ [monoReading ⟨3, 7⟩]))
        (some (ringLeg (Sub.fresh 1) ⟨7, 1⟩ [monoReading ⟨7, 1⟩])) false false true .zero .zero).mono =
        some ⟨7, 1⟩ := by
  decide

/-- The age check on normalised times: the difference of the two, either way
round, reaches the limit. -/
theorem ageDiffReaches_iff (mono mono2 d : Timespec) :
    ageDiffReaches mono mono2 d = true ↔ d.toNs ≤ |mono.toNs - mono2.toNs| := by
  unfold ageDiffReaches Timespec.ge
  split_ifs with h <;> simp only [decide_eq_true_eq, Timespec.sub_toNs] at h ⊢
  · rw [abs_of_nonpos (by omega)]
    constructor <;> intro <;> omega
  · rw [abs_of_nonneg (by omega)]

/-- **When two delivering reads are rejected**: with a limit `d`, a call
returns `ESTALE` exactly when the two monotonic times are at least `d` apart,
unless the test of line 1013 replaced `*mono` by `mono2`; then it returns
`ESTALE` only for a limit of zero or less. -/
theorem compare_estale_iff {a b : Leg} {m1 m2 d : Timespec} (hd : maxAgeDiffOf a.sub b.sub = some d)
    (h1 : (a.read wantT1 false (wantMono || (maxAgeDiffOf a.sub b.sub).isSome)).rc = 0)
    (hm1 : (a.read wantT1 false (wantMono || (maxAgeDiffOf a.sub b.sub).isSome)).mono = some m1)
    (h2 : (b.read wantT2 false (wantMono || (maxAgeDiffOf a.sub b.sub).isSome)).rc = 0)
    (hm2 : (b.read wantT2 false (wantMono || (maxAgeDiffOf a.sub b.sub).isSome)).mono = some m2) :
    (sfptpdClockfeedCompare (some a) (some b) wantT1 wantT2 wantMono monoInit mono2Init).rc = ESTALE ↔
      if monoReplaced m1 m2 then d.toNs ≤ 0 else d.toNs ≤ |m1.toNs - m2.toNs| := by
  have hite : ∀ c : Bool, (if c = true then ESTALE else 0) = ESTALE ↔ c = true := by decide
  rw [(compare_two_reads h1 hm1 h2 hm2).1, hd]
  dsimp only
  rw [hite, ageDiffReaches_iff]
  by_cases hr : monoReplaced m1 m2 = true
  · simp only [hr, if_true, sub_self, abs_zero]
  · simp only [hr, Bool.false_eq_true, if_false]

/-- A limit of 1 s on both subscriptions, samples taken at 10 s and at 5 s:
both reads succeed, but with the older sample second the call returns 0, with
or without a `mono` pointer; the other way round it returns `ESTALE`. -/
theorem compare_age_gate_misses_older_second :
    ((ringLeg { Sub.fresh 0 with haveMaxAgeDiff := true, maxAgeDiff := ⟨1, 0⟩ } ⟨10, 0⟩ [monoReading ⟨10, 0⟩]).read
        false false true).rc = 0 ∧
      ((ringLeg { Sub.fresh 1 with haveMaxAgeDiff := true, maxAgeDiff := ⟨1, 0⟩ } ⟨10, 0⟩ [monoReading ⟨5, 0⟩]).read
        false false true).rc = 0 ∧
      (sfptpdClockfeedCompare
        (some (ringLeg { Sub.fresh 0 with haveMaxAgeDiff := true, maxAgeDiff := ⟨1, 0⟩ } ⟨10, 0⟩ [monoReading ⟨10, 0⟩]))
        (some (ringLeg { Sub.fresh 1 with haveMaxAgeDiff := true, maxAgeDiff := ⟨1, 0⟩ } ⟨10, 0⟩ [monoReading ⟨5, 0⟩]))
        false false false .zero .zero).rc = 0 ∧
      (sfptpdClockfeedCompare
        (some (ringLeg { Sub.fresh 0 with haveMaxAgeDiff := true, maxAgeDiff := ⟨1, 0⟩ } ⟨10, 0⟩ [monoReading ⟨10, 0⟩]))
        (some (ringLeg { Sub.fresh 1 with haveMaxAgeDiff := true, maxAgeDiff := ⟨1, 0⟩ } ⟨10, 0⟩ [monoReading ⟨5, 0⟩]))
        false false true .zero .zero).rc = 0 ∧
      (sfptpdClockfeedCompare
        (some (ringLeg { Sub.fresh 1 with haveMaxAgeDiff := true, maxAgeDiff := ⟨1, 0⟩ } ⟨10, 0⟩ [monoReading ⟨5, 0⟩]))
        (some (ringLeg { Sub.fresh 0 with haveMaxAgeDiff := true, maxAgeDiff := ⟨1, 0⟩ } ⟨10, 0⟩ [monoReading ⟨10, 0⟩]))
        false false false .zero .zero).rc = ESTALE := by
  decide

/-- `diff_A` of the compare algorithm in the spec (`sfptpd_clockfeed_compare`,
lines 971–1035): the offset `sfptpd_clock_compare` gave `clockfeed_on_timer`
for the sample the leg reads, zero when that comparison failed, and zero for
the system clock. -/
def legOffset (sense : Sense) : Option Leg → Timespec
  | none => .zero
  | some a => if (a.reading sense).rc = 0 then (a.reading sense).diff else .zero

/-- The reading of the clock of `own` in the sample it reads (the system
reading plus the offset, as `clockfeed_on_timer` stored it), and for the system
clock the system reading of the sample `other` reads. -/
def legClockReading (sense : Sense) : Option Leg → Option Leg → Timespec
  | some a, _ => (a.reading sense).system.add (a.reading sense).diff
  | none, some b => (b.reading sense).system
  | none, none => .zero

/-- **The difference of two clocks**: on settled rings, a comparison that
returns 0 gives `*diff = off(sub1) - off(sub2)` exactly, and what it writes
through `t1` and `t2` is the clock reading of the sample each side read, the
system reading for a `NULL` side. -/
theorem compare_diff_exact {sense : Sense} (h₁ : ∀ a ∈ leg1, a.Settled sense) (h₂ : ∀ b ∈ leg2, b.Settled sense)
    (hrc : (sfptpdClockfeedCompare leg1 leg2 wantT1 wantT2 wantMono monoInit mono2Init).rc = 0) :
    (sfptpdClockfeedCompare leg1 leg2 wantT1 wantT2 wantMono monoInit mono2Init).diff.toNs =
        (legOffset sense leg1).toNs - (legOffset sense leg2).toNs ∧
      (∀ t ∈ (sfptpdClockfeedCompare leg1 leg2 wantT1 wantT2 wantMono monoInit mono2Init).t1,
        t = legClockReading sense leg1 leg2) ∧
      (∀ t ∈ (sfptpdClockfeedCompare leg1 leg2 wantT1 wantT2 wantMono monoInit mono2Init).t2,
        t = legClockReading sense leg2 leg1) := by
  obtain ⟨hr1, hr2, hd, ht1, ht2⟩ := compare_of_rc_zero hrc
  rw [hd, ht1, ht2]
  clear hd ht1 ht2 hrc
  rcases leg1 with _ | a <;> rcases leg2 with _ | b
  · simp [legOffset]
  · obtain ⟨hd, hc, hs, -⟩ := Leg.read_of_settled (h₂ b rfl) (hr2 b rfl)
    simp only [Option.some_bind, Option.none_bind, Option.or_none, Option.map_some', Option.map_none',
      Option.getD_some, Option.getD_none, legOffset, legClockReading, Timespec.zero_toNs] at hd ⊢
    exact ⟨by omega, hs, hc⟩
  · obtain ⟨hd, hc, hs, -⟩ := Leg.read_of_settled (h₁ a rfl) (hr1 a rfl)
    simp only [Option.some_bind, Option.none_bind, Option.none_or, Option.map_some', Option.map_none',
      Option.getD_some, Option.getD_none, legOffset, legClockReading, Timespec.zero_toNs] at hd ⊢
    exact ⟨by omega, hc, hs⟩
  · obtain ⟨hd₁, hc₁, -, -⟩ := Leg.read_of_settled (h₁ a rfl) (hr1 a rfl)
    obtain ⟨hd₂, hc₂, -, -⟩ := Leg.read_of_settled (h₂ b rfl) (hr2 b rfl)
    simp only [Option.some_bind, Option.map_some', Option.getD_some, legOffset, legClockReading,
      Option.isNone_some, Bool.and_false, Leg.read_t2_unwanted, Option.none_or, Option.or_none] at hd₁ hd₂ hc₁ hc₂ ⊢
    exact ⟨by omega, hc₁, hc₂⟩

/-- Two clocks on the ring addresses 0 and 1: the first runs 250 ns ahead of
the system clock, the second 1 µs behind it; the `k`-th sampling sees the
monotonic clock at `k` s and the system clock at `1000 + k` s. -/
def twoClockSense : Sense := fun id k =>
  ⟨0, if id = 0 then ⟨0, 250⟩ else ⟨-1, 999999000⟩, ⟨k, 0⟩, ⟨1000 + k, 0⟩⟩

/-- A fresh subscription to the source at `id` on a live clock, read while
the feed is idle after `k` samplings. -/
def settledLeg (sense : Sense) (id : SrcId) (k : Nat) : Leg :=
  ⟨Sub.fresh id, false, true, some ⟨k, 0⟩, fun _ => fullRing (sense id) k⟩

theorem settledLeg_settled (sense : Sense) (id : SrcId) (k : Nat) : (settledLeg sense id k).Settled sense :=
  ⟨fun _ => rfl, fullRing_ringHolds sense id k⟩

theorem compare_diff_exact_two_clocks :
    (sfptpdClockfeedCompare (some (settledLeg twoClockSense 0 3)) (some (settledLeg twoClockSense 1 2))
        true true true .zero .zero).rc = 0 ∧
      ((sfptpdClockfeedCompare (some (settledLeg twoClockSense 0 3)) (some (settledLeg twoClockSense 1 2))
          true true true .zero .zero).diff.toNs =
        (legOffset twoClockSense (some (settledLeg twoClockSense 0 3))).toNs -
          (legOffset twoClockSense (some (settledLeg twoClockSense 1 2))).toNs ∧
      (∀ t ∈ (sfptpdClockfeedCompare (some (settledLeg twoClockSense 0 3)) (some (settledLeg twoClockSense 1 2))
          true true true .zero .zero).t1,
        t = legClockReading twoClockSense (some (settledLeg twoClockSense 0 3)) (some (settledLeg twoClockSense 1 2))) ∧
      (∀ t ∈ (sfptpdClockfeedCompare (some (settledLeg twoClockSense 0 3)) (some (settledLeg twoClockSense 1 2))
          true true true .zero .zero).t2,
        t = legClockReading twoClockSense (some (settledLeg twoClockSense 1 2)) (some (settledLeg twoClockSense 0 3)))) :=
  have hrc : (sfptpdClockfeedCompare (some (settledLeg twoClockSense 0 3)) (some (settledLeg twoClockSense 1 2))
      true true true .zero .zero).rc = 0 := by decide
  ⟨hrc, compare_diff_exact (fun _ ha => Option.some_inj.mp ha ▸ settledLeg_settled _ _ _)
    (fun _ hb => Option.some_inj.mp hb ▸ settledLeg_settled _ _ _) hrc⟩

end Compare

end Sfptpd.Feed
