import Sfptpd.Basic
import Mathlib.Data.List.Basic

/-!
# The clock feed's data model (sfptpd_clockfeed.c:141–223)

The feed thread owns a list of *active* clock sources and a list of
*inactive* (zombie) sources; each source owns a 16-slot ring of samples and a
list of subscriptions. In C the lists are intrusive (`next` fields); here the
memory of the feed is

- two heaps, `sources` and `subs`, from addresses to records (`none` once the
  record has been freed), with one `calloc` counter `nextId`;
- the lists `active` and `inactive` of source addresses, and in each source
  the list `subscribers` of subscription addresses, in `next` order;
- the four `event_subscribers` slots.

The `magic` fields are not modelled: every `assert` on a magic number is an
assertion that the record is allocated, which the heaps express directly.
-/

namespace Sfptpd.Feed

/-- The address of a `struct clockfeed_source`. -/
abbrev SrcId := Nat
/-- The address of a `struct sfptpd_clockfeed_sub`. -/
abbrev SubId := Nat
/-- A `struct sfptpd_clock *` handle. -/
abbrev ClockId := Nat
/-- A `struct sfptpd_thread *` handle. -/
abbrev ThreadId := Nat

/-- `MAX_CLOCK_SAMPLES = 1 << MAX_CLOCK_SAMPLES_LOG2`, with the log being 4. -/
def maxClockSamples : Nat := 16

/-- `MAX_EVENT_SUBSCRIBERS`. -/
def maxEventSubscribers : Nat := 4

/-! ## Samples and the ring -/

/-- `struct sfptpd_clockfeed_sample`: one slot of a source's ring. -/
structure Sample where
  seq : Nat
  rc : Int
  mono : Timespec
  system : Timespec
  snapshot : Timespec
deriving DecidableEq, Repr

/-- The slot `calloc` leaves: every field zero. -/
def Sample.empty : Sample := ⟨0, 0, .zero, .zero, .zero⟩

/-- The slot a counter value selects: `w & index_mask`, `index_mask = 15`. -/
def slot (w : Nat) : Fin maxClockSamples := ⟨w % maxClockSamples, Nat.mod_lt _ (by decide)⟩

/-- `struct clockfeed_shm`: the samples and the write counter (`uint64_t`,
which 2^64 increments would be needed to wrap). -/
structure ClockfeedShm where
  samples : Fin maxClockSamples → Sample
  writeCounter : Nat

/-- A freshly allocated ring. -/
def ClockfeedShm.empty : ClockfeedShm := ⟨fun _ => Sample.empty, 0⟩

/-! ## Subscriptions, sources and the module -/

/-- `struct sfptpd_clockfeed_sub`. -/
structure Sub where
  source : SrcId
  readCounter : Int
  minCounter : Int
  haveMaxAge : Bool
  haveMaxAgeDiff : Bool
  maxAge : Timespec
  maxAgeDiff : Timespec
deriving DecidableEq, Repr

/-- `struct clockfeed_source`. -/
structure Source where
  clock : ClockId
  pollPeriodLog2 : Int
  cycles : Nat
  shm : ClockfeedShm
  subscribers : List SubId
  inactive : Bool

/-- `struct sfptpd_clockfeed`, with the memory it reaches. -/
structure Clockfeed where
  pollPeriodLog2 : Int
  runningPhase : Bool
  active : List SrcId
  inactive : List SrcId
  eventSubscribers : Fin maxEventSubscribers → Option ThreadId
  sources : SrcId → Option Source
  subs : SubId → Option Sub
  nextId : Nat

/-- The module `sfptpd_clockfeed_create` allocates (`calloc`, then the global
poll period). -/
def Clockfeed.init (minPollPeriodLog2 : Int) : Clockfeed where
  pollPeriodLog2 := minPollPeriodLog2
  runningPhase := false
  active := []
  inactive := []
  eventSubscribers := fun _ => none
  sources := fun _ => none
  subs := fun _ => none
  nextId := 0

/-- Write (or free, with `none`) the source record at `id`. -/
def Clockfeed.setSource (m : Clockfeed) (id : SrcId) (s : Option Source) : Clockfeed :=
  { m with sources := Function.update m.sources id s }

/-- Write (or free, with `none`) the subscription record at `k`. -/
def Clockfeed.setSub (m : Clockfeed) (k : SubId) (s : Option Sub) : Clockfeed :=
  { m with subs := Function.update m.subs k s }

section Frame

variable (m : Clockfeed) (id : SrcId) (s : Option Source)

@[simp] theorem setSource_sources (j : SrcId) :
    (m.setSource id s).sources j = if j = id then s else m.sources j := by
  simp [Clockfeed.setSource, Function.update_apply]

@[simp] theorem setSource_active : (m.setSource id s).active = m.active := rfl
@[simp] theorem setSource_inactive : (m.setSource id s).inactive = m.inactive := rfl
@[simp] theorem setSource_subs : (m.setSource id s).subs = m.subs := rfl
@[simp] theorem setSource_nextId : (m.setSource id s).nextId = m.nextId := rfl

@[simp] theorem setSub_subs (k : SubId) (t : Option Sub) (j : SubId) :
    (m.setSub k t).subs j = if j = k then t else m.subs j := by
  simp [Clockfeed.setSub, Function.update_apply]

@[simp] theorem setSub_sources (k : SubId) (t : Option Sub) :
    (m.setSub k t).sources = m.sources := rfl
@[simp] theorem setSub_active (k : SubId) (t : Option Sub) :
    (m.setSub k t).active = m.active := rfl
@[simp] theorem setSub_inactive (k : SubId) (t : Option Sub) :
    (m.setSub k t).inactive = m.inactive := rfl
@[simp] theorem setSub_nextId (k : SubId) (t : Option Sub) :
    (m.setSub k t).nextId = m.nextId := rfl

end Frame

/-- The search loops of `clockfeed_on_remove_clock` and
`clockfeed_on_subscribe`: the first source on a list whose clock is `clock`. -/
def Clockfeed.findClock (m : Clockfeed) (clock : ClockId) : List SrcId → Option (SrcId × Source)
  | [] => none
  | id :: ids =>
    match m.sources id with
    | some s => if s.clock = clock then some (id, s) else m.findClock clock ids
    | none => m.findClock clock ids

/-- What the search found is on the list, allocated, and for `clock`. -/
theorem findClock_spec {m : Clockfeed} {clock : ClockId} {ids : List SrcId} {id : SrcId}
    {s : Source} (h : m.findClock clock ids = some (id, s)) :
    id ∈ ids ∧ m.sources id = some s ∧ s.clock = clock := by
  induction ids with
  | nil => cases h
  | cons j ids ih =>
    simp only [Clockfeed.findClock] at h
    split at h
    · split at h
      · cases h
        exact ⟨List.mem_cons_self _ _, ‹_›, ‹_›⟩
      · obtain ⟨h1, h2, h3⟩ := ih h
        exact ⟨List.mem_cons_of_mem _ h1, h2, h3⟩
    · obtain ⟨h1, h2, h3⟩ := ih h
      exact ⟨List.mem_cons_of_mem _ h1, h2, h3⟩

/-- The search finds nothing exactly when no allocated source on the list is
for `clock`. -/
theorem findClock_eq_none {m : Clockfeed} {clock : ClockId} {ids : List SrcId} :
    m.findClock clock ids = none ↔ ∀ id ∈ ids, ∀ s, m.sources id = some s → s.clock ≠ clock := by
  induction ids with
  | nil => simp [Clockfeed.findClock]
  | cons j ids ih =>
    simp only [Clockfeed.findClock, List.mem_cons, forall_eq_or_imp, ← ih]
    cases m.sources j with
    | none => simp
    | some s => by_cases hc : s.clock = clock <;> simp [hc]

end Sfptpd.Feed
