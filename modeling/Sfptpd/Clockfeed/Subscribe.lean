import Sfptpd.Clockfeed.Run

/-!
# Subscribing from a client, and the registry's round trips
(sfptpd_clockfeed.c:422–576, 818–855)

`sfptpd_clockfeed_subscribe` sends `SUBSCRIBE` to the feed thread and waits for
the reply. `clockfeed_on_subscribe` answers with a new subscription to the
first active source of the clock, else to its first zombie, and with `NULL`
for a clock it has no source of; the client then asserts that the answer is
not `NULL`.

- `sfptpdClockfeedSubscribe`: the client call against the feed's memory;
- `subscribe_registered`, `subscribe_unregistered`: a registered clock gets a
  fresh handle on one of its sources, and any other clock fails the client's
  assertion;
- `subscribe_after_reap_asserts`: the run of adding a clock, subscribing,
  removing the clock and unsubscribing, after which subscribing to the clock
  again fails that assertion;
- `removeClock_addClock`, `unsubscribe_subscribe`, `registry_round_trips`:
  `add_clock` then `remove_clock`, and `subscribe` then `unsubscribe`, give back
  the memory they started from, but for the allocation counter. The second
  needs the registry invariant: a zombie keeps a subscriber, so the
  `unsubscribe` does not reap it.
-/

namespace Sfptpd.Feed

/-- `sfptpd_clockfeed_subscribe(clock, &sub)` (lines 818–855) against the
feed's memory `m`: the return code, what is written to `*sub` (`none` for
`NULL`; on an error nothing is written) and the memory afterwards.
`isSystem` is `sfptpd_clock_is_system(clock)` and `msgAlloc` whether
`sfptpd_msg_alloc` succeeds; `SFPTPD_MSG_SEND_WAIT` has the feed thread run
`clockfeed_on_subscribe` and returns 0 on its reply. `none` when
`assert(msg->u.subscribe_resp.sub)` fails. -/
def sfptpdClockfeedSubscribe (m : Clockfeed) (clock : ClockId) (isSystem msgAlloc : Bool) :
    Option (Int × Option SubId × Clockfeed) :=
  if isSystem then some (0, none, m)
  else if !msgAlloc then some (ENOMEM, none, m)
  else match clockfeedOnSubscribe m clock with
    | (_, none) => none
    | (m', some k) => some (0, some k, m')

/-! ## What a subscription returns -/

/-- The feed's side of a subscription to a clock it has a source of. -/
theorem onSubscribe_of_lookup {m : Clockfeed} {clock : ClockId} {id : SrcId} {s : Source}
    (h : m.lookupClock clock = some (id, s)) :
    clockfeedOnSubscribe m clock =
      ({ (m.setSub m.nextId (some (Sub.fresh id))).setSource id
          (some { s with subscribers := m.nextId :: s.subscribers }) with nextId := m.nextId + 1 },
        some m.nextId) := by
  rw [clockfeedOnSubscribe, h]

/-- **A registered clock**: the call returns 0 with a fresh handle, on the
subscriber list of a source of the clock that is on the active or the
inactive list. -/
theorem subscribe_registered {m : Clockfeed} {clock : ClockId} {id : SrcId} {s : Source}
    (h : m.lookupClock clock = some (id, s)) :
    ∃ m', sfptpdClockfeedSubscribe m clock false true = some (0, some m.nextId, m') ∧
      m'.subs m.nextId = some (Sub.fresh id) ∧ id ∈ m'.active ++ m'.inactive ∧
      ∃ s', m'.sources id = some s' ∧ s'.clock = clock ∧ m.nextId ∈ s'.subscribers := by
  obtain ⟨hid, -, hclock⟩ := lookupClock_spec h
  rw [sfptpdClockfeedSubscribe, onSubscribe_of_lookup h]
  exact ⟨_, rfl, by simp, hid, { s with subscribers := m.nextId :: s.subscribers }, by simp, hclock,
    List.mem_cons_self _ _⟩

/-- **An unregistered clock**: the feed replies `NULL` and the client's
assertion fails. -/
theorem subscribe_unregistered {m : Clockfeed} {clock : ClockId} (h : m.lookupClock clock = none) :
    sfptpdClockfeedSubscribe m clock false true = none := by
  simp only [sfptpdClockfeedSubscribe, clockfeedOnSubscribe, h]
  rfl

/-- The spec's scenario: clock 7 is added, subscribed to, and removed, which
leaves its source a zombie; the unsubscribe reaps the zombie, and subscribing
to clock 7 again fails the client's assertion. -/
theorem subscribe_after_reap_asserts :
    ∃ m, Reachable quietSense m ∧ sfptpdClockfeedSubscribe m 7 false true = none :=
  ⟨_, @Reachable.message _ _ _ (.unsubscribe 1) _
      (@Reachable.message _ _ _ (.removeClock 7) _
        (@Reachable.message _ _ _ (.subscribe 7) _
          (@Reachable.message _ _ _ (.addClock 7 0) _ (.init 0) rfl) rfl) rfl) rfl,
    rfl⟩

/-! ## Round trips -/

/-- **`add_clock` then `remove_clock`**: the new source is the first of the
clock on the active list, so it is the one removed, and with no subscriber the
reaper frees it at once. -/
theorem removeClock_addClock {m : Clockfeed} (hfresh : m.sources m.nextId = none) (clock : ClockId) (p : Int) :
    clockfeedOnRemoveClock (clockfeedOnAddClock m clock p) clock = some { m with nextId := m.nextId + 1 } := by
  simpa [clockfeedOnRemoveClock, clockfeedOnAddClock, Clockfeed.findClock, newSource, clockfeedReapZombies,
    Clockfeed.setSource] using hfresh.symm

/-- **`subscribe` then `unsubscribe`** of the handle it returned, on a source
that is live or a zombie with a subscriber: the source's list gets its old
value back, and the reaper, finding the source live or still subscribed,
frees nothing. -/
theorem unsubscribe_subscribe {m : Clockfeed} (hfresh : m.subs m.nextId = none) {clock : ClockId} {id : SrcId}
    {s : Source} (h : m.lookupClock clock = some (id, s)) (hkeep : ¬ (s.inactive = true ∧ s.subscribers = [])) :
    clockfeedOnUnsubscribe (clockfeedOnSubscribe m clock).1 m.nextId = some { m with nextId := m.nextId + 1 } := by
  obtain ⟨-, hs, -⟩ := lookupClock_spec h
  rw [onSubscribe_of_lookup h]
  simp [clockfeedOnUnsubscribe, clockfeedReapZombies, Clockfeed.setSource, Clockfeed.setSub, Sub.fresh, hkeep,
    Function.update_idem, Function.update_eq_self_iff, hs, hfresh]

/-- The subscribe search finds a source whenever one of the clock is listed. -/
theorem lookupClock_isSome {m : Clockfeed} {clock : ClockId} {id : SrcId} {s : Source}
    (hid : id ∈ m.active ++ m.inactive) (hs : m.sources id = some s) (hclock : s.clock = clock) :
    (m.lookupClock clock).isSome := by
  rw [Option.isSome_iff_ne_none]
  intro hnone
  unfold Clockfeed.lookupClock at hnone
  split at hnone
  · cases hnone
  · rename_i ha
    rcases List.mem_append.mp hid with h | h
    · exact findClock_eq_none.mp ha id h s hs hclock
    · exact findClock_eq_none.mp hnone id h s hs hclock

/-- In the registry invariant no listed source is a zombie without
subscribers: the reaper leaves every listed source alone. -/
theorem RegistryInv.listed_kept {m : Clockfeed} (h : RegistryInv m) {id : SrcId} {s : Source}
    (hid : id ∈ m.active ++ m.inactive) (hs : m.sources id = some s) : ¬ (s.inactive = true ∧ s.subscribers = []) := by
  rintro ⟨hin, hnil⟩
  rcases List.mem_append.mp hid with ha | hi
  · obtain ⟨s', hs', hlive⟩ := h.active_live id ha
    obtain rfl : s' = s := Option.some_inj.mp (hs'.symm.trans hs)
    exact Bool.false_ne_true (hlive.symm.trans hin)
  · obtain ⟨s', hs', -, hsubs⟩ := h.inactive_zombie id hi
    obtain rfl : s' = s := Option.some_inj.mp (hs'.symm.trans hs)
    exact hsubs hnil

/-- **The registry's round trips** in a reachable state: `add_clock(C, p)`
then `remove_clock(C)`, whether or not `C` already has sources, and, for a
clock with a source on either list, `subscribe(C)` then `unsubscribe` of the
handle, each give back the memory they started from (both lists, every source
record with its subscriber list, every subscription), all but the allocation
counter. -/
theorem registry_round_trips {sense : Sense} {m : Clockfeed} (hm : Reachable sense m) (clock : ClockId) (p : Int) :
    clockfeedOnRemoveClock (clockfeedOnAddClock m clock p) clock = some { m with nextId := m.nextId + 1 } ∧
      ∀ id s, id ∈ m.active ++ m.inactive → m.sources id = some s → s.clock = clock →
        ∃ k, (clockfeedOnSubscribe m clock).2 = some k ∧
          clockfeedOnUnsubscribe (clockfeedOnSubscribe m clock).1 k = some { m with nextId := m.nextId + 1 } := by
  have hinv := reachable_registryInv hm
  obtain ⟨hsrc, hsub⟩ := hinv.fresh m.nextId le_rfl
  refine ⟨removeClock_addClock hsrc clock p, fun id s hid hs hclock => ?_⟩
  obtain ⟨⟨id', s'⟩, hl⟩ := Option.isSome_iff_exists.mp (lookupClock_isSome hid hs hclock)
  obtain ⟨hid', hs', -⟩ := lookupClock_spec hl
  exact ⟨m.nextId, by rw [onSubscribe_of_lookup hl], unsubscribe_subscribe hsub hl (hinv.listed_kept hid' hs')⟩

theorem registry_round_trips_sampled :
    Reachable quietSense sampledFeed ∧
      (clockfeedOnRemoveClock (clockfeedOnAddClock sampledFeed 7 0) 7 =
          some { sampledFeed with nextId := sampledFeed.nextId + 1 } ∧
        ∀ id s, id ∈ sampledFeed.active ++ sampledFeed.inactive → sampledFeed.sources id = some s → s.clock = 7 →
          ∃ k, (clockfeedOnSubscribe sampledFeed 7).2 = some k ∧
            clockfeedOnUnsubscribe (clockfeedOnSubscribe sampledFeed 7).1 k =
              some { sampledFeed with nextId := sampledFeed.nextId + 1 }) :=
  ⟨sampledFeed_reachable, registry_round_trips sampledFeed_reachable 7 0⟩

end Sfptpd.Feed
