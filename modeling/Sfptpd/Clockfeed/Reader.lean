import Sfptpd.Clockfeed.Registry

/-!
# The subscriber's read: `clockfeed_compare_to_sys` (sfptpd_clockfeed.c:883–969)

A subscriber reads its source's ring without taking a lock: it reads
`write_counter`, the newest sample's fields, `write_counter` again, and then
copies fields out. Each of these shared reads is a `ReadPoint`, and a call is
evaluated against a `view`, the ring each read sees. A call made while the
feed thread is idle sees one ring at every point; `Interleave` lets the feed
write between the reads.

`write_counter` is a `uint64_t` but the function keeps it in `int writer1,
writer2` (and stores `writer1` into the `int64_t read_counter`). The body is
written once, with the conversion as a parameter:

- `clockfeedCompareToSys`: the code, with C's conversion to `int` (`cInt`);
- `compareToSysUnbounded`: the same body over the true counter values, the
  reading that the 64-bit `read_counter` and `min_counter` fields ask for;
- `compareToSys_eq_unbounded`: the two agree while `writer1` is below
  `2^31 - 15`, so that the `int` sum `writer1 + MAX_CLOCK_SAMPLES - 1` does
  not overflow, and `writer2` is below `2^31`;
- `compareToSys_diverges_past_int_max`: at `2^31 + 1` samples the code
  rejects a fresh subscription as stale where the unbounded reading delivers
  the sample, and at `2^32 + 1` it stores `read_counter = 1`;
- `requireFresh_never_delivers`: after a read at `2^31 - 1` samples and
  `sfptpd_clockfeed_require_fresh`, no later call delivers a sample.
-/

namespace Sfptpd.Feed

/-- The reads of shared memory in `clockfeed_compare_to_sys`, in program order. -/
inductive ReadPoint
  | writer1
  | sampleRc
  | diffSnapshot
  | diffSystem
  | writer2
  | ageMono
  | t1
  | t2
  | monoTime
deriving DecidableEq, Repr

/-- The position of a read in program order. -/
def ReadPoint.idx : ReadPoint → Nat
  | .writer1 => 0
  | .sampleRc => 1
  | .diffSnapshot => 2
  | .diffSystem => 3
  | .writer2 => 4
  | .ageMono => 5
  | .t1 => 6
  | .t2 => 7
  | .monoTime => 8

/-- What a call learns from outside the ring, and which output pointers are
non-`NULL`. -/
structure CompareEnv where
  /-- `sub->source->inactive`. -/
  inactive : Bool
  /-- `sfptpd_clock_is_active(clock)`. -/
  clockActive : Bool
  /-- `clock_gettime(CLOCK_MONOTONIC, &now_mono)`; `none` when it fails. -/
  nowMono : Option Timespec
  wantT1 : Bool
  wantT2 : Bool
  wantMono : Bool
deriving DecidableEq, Repr

/-- The return code, `*diff`, what was written through `t1`, `t2` and
`mono_time`, and the subscription afterwards. -/
structure CompareOut where
  rc : Int
  diff : Timespec
  t1 : Option Timespec
  t2 : Option Timespec
  mono : Option Timespec
  sub : Sub
deriving DecidableEq, Repr

/-- `(writer1 - 1) & index_mask`: the `int` is converted to `uint32_t`
(modulo `2^32`) and masked with 15. -/
def slotOfInt (x : Int) : Fin maxClockSamples := slot (x % 2 ^ 32).toNat

/-- The end of `clockfeed_compare_to_sys` (lines 926–968), once the diff has
been computed: the overrun, staleness and age checks, then the copies into the
output pointers and `read_counter = writer1`. `field p` is the newest sample
as the read at `p` sees it. The sum `writer1 + MAX_CLOCK_SAMPLES - 1` is an
`int` sum, which overflows, undefined in C, for `writer1 ≥ 2^31 - 15`; it is
computed here without wrapping. -/
def checkAndCopy (env : CompareEnv) (sub : Sub) (writer1 writer2 : Int) (diff : Timespec)
    (field : ReadPoint → Sample) : CompareOut :=
  let fail (rc : Int) : CompareOut := ⟨rc, diff, none, none, none, sub⟩
  let copy : CompareOut :=
    ⟨0, diff, if env.wantT1 then some (field .t1).snapshot else none,
      if env.wantT2 then some (field .t2).system else none,
      if env.wantMono then some (field .monoTime).mono else none,
      { sub with readCounter := writer1 }⟩
  if writer1 + maxClockSamples - 1 ≤ writer2 then fail ENODATA
  else if writer1 < sub.minCounter then fail ESTALE
  else match sub.haveMaxAge, env.nowMono with
    | true, none => fail EAGAIN
    | true, some now => if (now.sub (field .ageMono).mono).gt sub.maxAge then fail ESTALE else copy
    | false, _ => copy

/-- The body of `clockfeed_compare_to_sys`, with `narrow` the conversion of
the 64-bit counter into `writer1` and `writer2`. An early return leaves the
output pointers alone; `return rc` after a failed sample returns the local
`rc`, which is still 0. -/
def compareToSysBody (narrow : Nat → Int) (env : CompareEnv) (sub : Sub)
    (view : ReadPoint → ClockfeedShm) : CompareOut :=
  let writer1 := narrow (view .writer1).writeCounter
  let fail (rc : Int) : CompareOut := ⟨rc, .zero, none, none, none, sub⟩
  if env.inactive then fail EOWNERDEAD
  else if !env.clockActive then fail ENOENT
  else if writer1 = 0 then fail EAGAIN
  else
    let field (p : ReadPoint) : Sample := (view p).samples (slotOfInt (writer1 - 1))
    if (field .sampleRc).rc ≠ 0 then fail 0
    else checkAndCopy env sub writer1 (narrow (view .writer2).writeCounter)
      ((field .diffSnapshot).snapshot.sub (field .diffSystem).system) field

/-- `clockfeed_compare_to_sys` (lines 883–969). -/
def clockfeedCompareToSys (env : CompareEnv) (sub : Sub) (view : ReadPoint → ClockfeedShm) :
    CompareOut :=
  compareToSysBody cInt env sub view

/-- The same body over the true values of `write_counter`. -/
def compareToSysUnbounded (env : CompareEnv) (sub : Sub) (view : ReadPoint → ClockfeedShm) :
    CompareOut :=
  compareToSysBody Int.ofNat env sub view

/-- `sfptpd_clockfeed_require_fresh` (lines 1037–1049). -/
def sfptpdClockfeedRequireFresh (sub : Sub) : Sub := { sub with minCounter := sub.readCounter + 1 }

/-! ## The narrowing -/

theorem cInt_emod (w : Nat) : cInt w % 2 ^ 32 = w % 2 ^ 32 := by
  simp only [cInt, BitVec.toInt, BitVec.toNat_ofNat]
  split <;> omega

theorem cInt_lt (w : Nat) : cInt w < 2 ^ 31 := by
  simp only [cInt, BitVec.toInt, BitVec.toNat_ofNat]
  split <;> omega

/-- The ring index is right whatever the narrowing did: `2^32` is a multiple
of the ring's size. -/
theorem slotOfInt_cInt (w : Nat) : slotOfInt (cInt w - 1) = slotOfInt ((w : Int) - 1) := by
  have h := cInt_emod w
  have hmod : (cInt w - 1) % 2 ^ 32 = ((w : Int) - 1) % 2 ^ 32 := by omega
  rw [slotOfInt, hmod, slotOfInt]

/-! ## What a call can do -/

section Calls

variable (env : CompareEnv) (sub : Sub) (writer1 writer2 : Int) (diff : Timespec)
  (field : ReadPoint → Sample)

/-- A check either fails, writing nothing, or copies the outputs. -/
theorem checkAndCopy_cases :
    (∃ rc, checkAndCopy env sub writer1 writer2 diff field = ⟨rc, diff, none, none, none, sub⟩) ∨
      checkAndCopy env sub writer1 writer2 diff field =
        ⟨0, diff, if env.wantT1 then some (field .t1).snapshot else none,
          if env.wantT2 then some (field .t2).system else none,
          if env.wantMono then some (field .monoTime).mono else none, { sub with readCounter := writer1 }⟩ := by
  dsimp only [checkAndCopy]
  by_cases hov : writer1 + maxClockSamples - 1 ≤ writer2
  · exact .inl ⟨_, if_pos hov⟩
  by_cases hst : writer1 < sub.minCounter
  · exact .inl ⟨_, by rw [if_neg hov, if_pos hst]⟩
  rw [if_neg hov, if_neg hst]
  rcases sub.haveMaxAge with _ | _
  · exact .inr rfl
  rcases env.nowMono with _ | now
  · exact .inl ⟨_, rfl⟩
  by_cases hage : (now.sub (field .ageMono).mono).gt sub.maxAge
  · exact .inl ⟨_, if_pos hage⟩
  · exact .inr (if_neg hage)

/-- Every return after the diff hands the diff back. -/
@[simp] theorem checkAndCopy_diff : (checkAndCopy env sub writer1 writer2 diff field).diff = diff := by
  rcases checkAndCopy_cases env sub writer1 writer2 diff field with ⟨rc, he⟩ | he <;> rw [he]

/-- The re-read of `write_counter` reports an overrun. -/
theorem checkAndCopy_overrun (h : writer1 + maxClockSamples - 1 ≤ writer2) :
    (checkAndCopy env sub writer1 writer2 diff field).rc = ENODATA := by
  dsimp only [checkAndCopy]
  rw [if_pos h]

/-- Below `min_counter` nothing is delivered: the subscription is unchanged
and no output pointer is written. -/
theorem checkAndCopy_of_lt_minCounter (h : writer1 < sub.minCounter) :
    (checkAndCopy env sub writer1 writer2 diff field).sub = sub ∧
      (checkAndCopy env sub writer1 writer2 diff field).t1 = none := by
  dsimp only [checkAndCopy]
  by_cases hov : writer1 + maxClockSamples - 1 ≤ writer2
  · rw [if_pos hov]
    exact ⟨rfl, rfl⟩
  · rw [if_neg hov, if_pos h]
    exact ⟨rfl, rfl⟩

end Calls

/-- **Inversion of the body**: an early return with a zero diff, or the checks
and copies on the newest sample, once `writer1` is non-zero and that sample's
comparison succeeded. -/
theorem compareToSysBody_cases (narrow : Nat → Int) (env : CompareEnv) (sub : Sub)
    (view : ReadPoint → ClockfeedShm) :
    (∃ rc, compareToSysBody narrow env sub view = ⟨rc, .zero, none, none, none, sub⟩) ∨
      (narrow (view .writer1).writeCounter ≠ 0 ∧
        compareToSysBody narrow env sub view =
          checkAndCopy env sub (narrow (view .writer1).writeCounter) (narrow (view .writer2).writeCounter)
            (((view .diffSnapshot).samples (slotOfInt (narrow (view .writer1).writeCounter - 1))).snapshot.sub
              ((view .diffSystem).samples (slotOfInt (narrow (view .writer1).writeCounter - 1))).system)
            fun p => (view p).samples (slotOfInt (narrow (view .writer1).writeCounter - 1))) := by
  -- one case per guard, in the order of the source
  dsimp only [compareToSysBody]
  by_cases h₁ : env.inactive = true
  · exact .inl ⟨_, if_pos h₁⟩
  rw [if_neg h₁]
  by_cases h₂ : (!env.clockActive) = true
  · exact .inl ⟨_, if_pos h₂⟩
  rw [if_neg h₂]
  by_cases h₃ : narrow (view .writer1).writeCounter = 0
  · exact .inl ⟨_, if_pos h₃⟩
  rw [if_neg h₃]
  by_cases h₄ : ((view .sampleRc).samples (slotOfInt (narrow (view .writer1).writeCounter - 1))).rc ≠ 0
  · exact .inl ⟨_, if_pos h₄⟩
  · exact .inr ⟨h₃, if_neg h₄⟩

/-- Read through a counter that did not wrap, the index is the sample's slot. -/
theorem slotOfInt_natCast_sub_one {k : Nat} (h : 0 < k) : slotOfInt ((k : Int) - 1) = slot (k - 1) := by
  simp only [slotOfInt, slot, Fin.mk.injEq, maxClockSamples]
  omega

/-- The body reads `narrow` only at the two counters. -/
theorem compareToSysBody_congr {n₁ n₂ : Nat → Int} {env : CompareEnv} {sub : Sub}
    {view : ReadPoint → ClockfeedShm}
    (h₁ : n₁ (view .writer1).writeCounter = n₂ (view .writer1).writeCounter)
    (h₂ : n₁ (view .writer2).writeCounter = n₂ (view .writer2).writeCounter) :
    compareToSysBody n₁ env sub view = compareToSysBody n₂ env sub view := by
  simp only [compareToSysBody, h₁, h₂]

/-- **Where C's `int` arithmetic is defined, the code decides as with
unbounded counters**: `writer1` below `2^31 - 15`, so that the overrun test's
sum does not overflow, and `writer2` below `2^31`. -/
theorem compareToSys_eq_unbounded (env : CompareEnv) (sub : Sub) (view : ReadPoint → ClockfeedShm)
    (h₁ : (view .writer1).writeCounter < 2 ^ 31 - 15) (h₂ : (view .writer2).writeCounter < 2 ^ 31) :
    clockfeedCompareToSys env sub view = compareToSysUnbounded env sub view :=
  compareToSysBody_congr (cInt_of_lt (Nat.lt_of_lt_of_le h₁ (Nat.sub_le _ _))) (cInt_of_lt h₂)

/-- A call whose `writer1` is below `min_counter` delivers nothing. -/
theorem compareToSysBody_of_lt_minCounter {narrow : Nat → Int} {env : CompareEnv} {sub : Sub}
    {view : ReadPoint → ClockfeedShm} (h : narrow (view .writer1).writeCounter < sub.minCounter) :
    (compareToSysBody narrow env sub view).sub = sub ∧ (compareToSysBody narrow env sub view).t1 = none := by
  rcases compareToSysBody_cases narrow env sub view with ⟨rc, he⟩ | ⟨-, he⟩
  · rw [he]
    exact ⟨rfl, rfl⟩
  · rw [he]
    exact checkAndCopy_of_lt_minCounter _ _ _ _ _ _ h

/-- **Stale for ever**: once `require_fresh` has followed a read at `2^31 - 1`
samples, `min_counter` is `2^31`, which no `int` reaches, so no later call
delivers a sample, however many more are written. The overrun test of that
read sums past `INT_MAX`, undefined in C, and is not wrapped here. -/
theorem requireFresh_never_delivers (env : CompareEnv) (sub : Sub) (view : ReadPoint → ClockfeedShm)
    (h : sub.readCounter = 2 ^ 31 - 1) :
    (clockfeedCompareToSys env (sfptpdClockfeedRequireFresh sub) view).sub =
      sfptpdClockfeedRequireFresh sub ∧
    (clockfeedCompareToSys env (sfptpdClockfeedRequireFresh sub) view).t1 = none := by
  have hlt : cInt (view .writer1).writeCounter < (sfptpdClockfeedRequireFresh sub).minCounter := by
    have := cInt_lt (view .writer1).writeCounter
    simp only [sfptpdClockfeedRequireFresh, h]
    omega
  exact compareToSysBody_of_lt_minCounter hlt

/-! ## The failing counters -/

/-- A call on a live clock with no output pointers. -/
def liveEnv : CompareEnv := ⟨false, true, none, false, false, false⟩

/-- The ring of a source after `w` successful samplings of a clock that agrees
with the system clock at time zero: slot `i` holds the newest sample `k < w`
with `k % 16 = i`. -/
def quietRing (w : Nat) : ClockfeedShm :=
  ⟨fun i => sampleRecord (w - 1 - (w - 1 - i.val) % maxClockSamples) ⟨0, .zero, .zero, .zero⟩, w⟩

/-- At `2^31 + 1` samples `writer1` is `-2^31 + 1`, below a fresh
subscription's `min_counter = -1`: the code returns `ESTALE` where the true
counter delivers the sample. At `2^32 + 1` samples the code delivers it and
stores `read_counter = 1`. -/
theorem compareToSys_diverges_past_int_max :
    (clockfeedCompareToSys liveEnv (Sub.fresh 0) fun _ => quietRing 2147483649).rc = ESTALE ∧
    compareToSysUnbounded liveEnv (Sub.fresh 0) (fun _ => quietRing 2147483649) =
      ⟨0, .zero, none, none, none, { Sub.fresh 0 with readCounter := 2147483649 }⟩ ∧
    (clockfeedCompareToSys liveEnv (Sub.fresh 0) fun _ => quietRing 4294967297).sub.readCounter = 1 := by
  decide

end Sfptpd.Feed
