import Mathlib.Data.Int.Defs
import Mathlib.Logic.Function.Basic
import Mathlib.Algebra.Group.Int

/-!
# Shared vocabulary: timespecs, errno values and C integer narrowing

Both modelled files (`sfptpd_clockfeed.c` and `shm/sfptpd_shm_module.c`) work
on `struct timespec` / `struct sfptpd_timespec` values through the helpers of
`sfptpd_time.c`, return Linux `errno` codes, and copy 64-bit counters into
`int` locals. This module fixes one spelling of each:

- `Timespec`: seconds and nanoseconds as unbounded integers, with the
  arithmetic of `sfptpd_time.c` on normalised values (`Timespec.add`,
  `Timespec.sub`, `Timespec.ge`, `Timespec.gt`);
- the `errno` constants the two files return (Linux values);
- `cInt`: the conversion of a `uint64_t` into a 32-bit `int`, as GCC performs
  it (the value modulo `2^32`, read in two's complement).
-/

namespace Sfptpd

/-! ## Timespecs -/

/-- `struct timespec` / `struct sfptpd_timespec`: whole seconds and
nanoseconds. -/
structure Timespec where
  sec : Int
  nsec : Int
deriving DecidableEq, Repr

namespace Timespec

/-- `sfptpd_time_zero` / `sfptpd_time_null()`. -/
def zero : Timespec := ⟨0, 0⟩

/-- The value in nanoseconds. -/
def toNs (t : Timespec) : Int := t.sec * 1000000000 + t.nsec

/-- The normalised timespec of a nanosecond count (`0 ≤ nsec < 10^9`). -/
def ofNs (n : Int) : Timespec := ⟨n / 1000000000, n % 1000000000⟩

/-- Modelled from the spec: `sfptpd_time_add` (sfptpd_time.c, not under
src/), exact addition of the two values, normalised. -/
def add (a b : Timespec) : Timespec := ofNs (a.toNs + b.toNs)

/-- Modelled from the spec: `sfptpd_time_subtract(c, a, b)` (sfptpd_time.c,
not under src/), `c = a - b`, normalised. -/
def sub (a b : Timespec) : Timespec := ofNs (a.toNs - b.toNs)

/-- Modelled from the spec: `sfptpd_time_is_greater_or_equal(a, b)`. -/
def ge (a b : Timespec) : Bool := decide (b.toNs ≤ a.toNs)

/-- Modelled from the spec: `sfptpd_time_cmp(a, b) > 0`. -/
def gt (a b : Timespec) : Bool := decide (b.toNs < a.toNs)

/-- `sfptpd_time_is_zero`. -/
def isZero (t : Timespec) : Bool := t.sec == 0 && t.nsec == 0

@[simp] theorem toNs_ofNs (n : Int) : (ofNs n).toNs = n := by
  simp only [ofNs, toNs]
  omega

theorem sub_toNs (a b : Timespec) : (sub a b).toNs = a.toNs - b.toNs := toNs_ofNs _

theorem add_toNs (a b : Timespec) : (add a b).toNs = a.toNs + b.toNs := toNs_ofNs _

@[simp] theorem zero_toNs : zero.toNs = 0 := rfl

end Timespec

/-! ## `errno` values (Linux) -/

/-- `EPERM`. -/
def EPERM : Int := 1
/-- `ENOENT`. -/
def ENOENT : Int := 2
/-- `EIO`. -/
def EIO : Int := 5
/-- `EAGAIN`. -/
def EAGAIN : Int := 11
/-- `ENOMEM`. -/
def ENOMEM : Int := 12
/-- `EBUSY`. -/
def EBUSY : Int := 16
/-- `ENODEV`. -/
def ENODEV : Int := 19
/-- `EINVAL`. -/
def EINVAL : Int := 22
/-- `ENOSPC`. -/
def ENOSPC : Int := 28
/-- `ERANGE`. -/
def ERANGE : Int := 34
/-- `ENODATA`. -/
def ENODATA : Int := 61
/-- `ESTALE`. -/
def ESTALE : Int := 116
/-- `EOWNERDEAD`. -/
def EOWNERDEAD : Int := 130

/-! ## Narrowing a 64-bit counter into `int` -/

/-- `int x = (uint64_t)w;`: GCC keeps the low 32 bits and reads them in two's
complement. -/
def cInt (w : Nat) : Int := (BitVec.ofNat 32 w).toInt

/-- Below `2^31` the narrowing is the identity. -/
theorem cInt_of_lt {w : Nat} (h : w < 2 ^ 31) : cInt w = w := by
  have hw : w % 2 ^ 32 = w := Nat.mod_eq_of_lt (by omega)
  simp only [cInt, BitVec.toInt, BitVec.toNat_ofNat, hw]
  split <;> omega

end Sfptpd
