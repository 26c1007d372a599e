import Sfptpd.Clockfeed.Run
import Mathlib.Data.Fintype.Card

/-!
# The event-subscriber table (sfptpd_clockfeed.c:277–298, 578–620)

`clockfeed_on_subscribe_events` puts the thread in the first free slot of
`event_subscribers` without looking whether it is there already;
`clockfeed_on_unsubscribe_events` clears every slot that holds it; and each
`clockfeed_on_timer` tick sends one `SYNC_EVENT` per occupied slot. The table
therefore counts a thread's requests, up to `MAX_EVENT_SUBSCRIBERS` slots in
all; it is not a set.

- `Clockfeed.slotsOf`: the slots that hold a thread;
- `subscribeEvents_slotsOf`, `unsubscribeEvents_slotsOf`: a subscribe adds
  the free slot it takes to the thread's slots, and an unsubscribe empties
  them; no other thread's slots change;
- `eventRun_slots`: after any sequence of requests that the feed handles
  without exiting, a thread holds one slot for each `subscribe_events` since
  its last `unsubscribe_events` (`heldAfter`). So it is in the table exactly
  when its last request was a subscribe (`subscribedAfter`);
- `sendSyncEvent_count`: a tick sends a thread one event for each slot it
  holds, except where the message allocation failed, and none to a thread
  that holds no slot;
- `duplicate_subscriber_gets_two_events`: a thread that subscribes twice
  holds two slots and gets two `SYNC_EVENT`s on each tick.
-/

namespace Sfptpd.Feed

/-- The slots of `event_subscribers` that hold `thread`. -/
def Clockfeed.slotsOf (m : Clockfeed) (thread : ThreadId) : Finset (Fin maxEventSubscribers) :=
  Finset.univ.filter fun i => m.eventSubscribers i = some thread

/-! ## One request -/

/-- **`subscribe_events`** takes a free slot: the thread holds one slot more
than before, and every other thread holds the same slots. -/
theorem subscribeEvents_slotsOf {m m' : Clockfeed} {thread : ThreadId}
    (h : clockfeedOnSubscribeEvents m thread = some m') :
    (m'.slotsOf thread).card = (m.slotsOf thread).card + 1 ∧ ∀ u, u ≠ thread → m'.slotsOf u = m.slotsOf u := by
  obtain ⟨i, hi, rfl⟩ := Option.map_eq_some'.mp h
  have hfree : m.eventSubscribers i = none := by simpa using List.find?_some hi
  have hslots : ∀ u, Clockfeed.slotsOf { m with eventSubscribers := Function.update m.eventSubscribers i (some thread) } u =
      if u = thread then insert i (m.slotsOf u) else m.slotsOf u := by
    intro u
    ext j
    by_cases hj : j = i
    · subst hj
      by_cases hu : u = thread
      · simp [Clockfeed.slotsOf, hu]
      · simp [Clockfeed.slotsOf, hfree, hu, Ne.symm hu]
    · split_ifs <;> simp [Clockfeed.slotsOf, hj, Function.update_noteq hj]
  refine ⟨?_, fun u hu => by rw [hslots, if_neg hu]⟩
  rw [hslots, if_pos rfl, Finset.card_insert_of_not_mem]
  simp [Clockfeed.slotsOf, hfree]

/-- **`unsubscribe_events`** clears every slot of the thread and no other. -/
theorem unsubscribeEvents_slotsOf (m : Clockfeed) (thread : ThreadId) :
    (clockfeedOnUnsubscribeEvents m thread).slotsOf thread = ∅ ∧
      ∀ u, u ≠ thread → (clockfeedOnUnsubscribeEvents m thread).slotsOf u = m.slotsOf u := by
  refine ⟨by ext j; simp [Clockfeed.slotsOf, clockfeedOnUnsubscribeEvents], fun u hu => ?_⟩
  ext j
  by_cases hj : m.eventSubscribers j = some thread <;>
    simp [Clockfeed.slotsOf, clockfeedOnUnsubscribeEvents, hj, Ne.symm hu]

/-! ## A sequence of requests -/

/-- A `subscribe_events` or `unsubscribe_events` request from a thread. -/
inductive EventReq
  | subscribe (thread : ThreadId)
  | unsubscribe (thread : ThreadId)
deriving DecidableEq, Repr

/-- The message a request sends to the feed thread. -/
def EventReq.msg : EventReq → ClockfeedMsg
  | .subscribe thread => .subscribeEvents thread
  | .unsubscribe thread => .unsubscribeEvents thread

/-- The feed thread handling `reqs` in order through `clockfeed_on_message`,
from `m`. The result is `none` once a `subscribe_events` finds every slot taken,
because the feed thread then exits without replying (lines 594–597). -/
def eventRun (m : Clockfeed) : List EventReq → Option Clockfeed
  | [] => some m
  | r :: rs =>
    match clockfeedOnMessage m r.msg with
    | some (m', [.reply]) => eventRun m' rs
    | _ => none

/-- How many slots a table that counts requests gives `thread` after one
request, from `n`. -/
def heldStep (thread : ThreadId) (n : Nat) : EventReq → Nat
  | .subscribe t => if t = thread then n + 1 else n
  | .unsubscribe t => if t = thread then 0 else n

/-- How many slots a table that counts requests gives `thread` after `reqs`,
from `n`. -/
def heldAfter (thread : ThreadId) (n : Nat) (reqs : List EventReq) : Nat :=
  reqs.foldl (heldStep thread) n

/-- Whether the last request of `thread` in `reqs` was a subscribe (`b` when
the thread made none): the set the table is meant to be. -/
def subscribedAfter (thread : ThreadId) (b : Bool) (reqs : List EventReq) : Bool :=
  reqs.foldl (fun b r => match r with
    | .subscribe t => if t = thread then true else b
    | .unsubscribe t => if t = thread then false else b) b

/-- A thread holds a slot in the counting table exactly when it is in the
set. -/
theorem heldAfter_pos_iff (thread : ThreadId) :
    ∀ (reqs : List EventReq) (n : Nat), 0 < heldAfter thread n reqs ↔ subscribedAfter thread (decide (0 < n)) reqs
  | [], n => by simp [heldAfter, subscribedAfter]
  | r :: rs, n => by
    have ih := heldAfter_pos_iff thread rs (heldStep thread n r)
    simp only [heldAfter, subscribedAfter, List.foldl_cons] at ih ⊢
    rw [ih]
    cases r with
    | subscribe t => by_cases ht : t = thread <;> simp [heldStep, ht]
    | unsubscribe t => by_cases ht : t = thread <;> simp [heldStep, ht]

/-- **Step lemma**: a request the feed replies to changes the thread's slots
as `heldStep` counts them. -/
theorem eventStep_slots {m m' : Clockfeed} {r : EventReq} (h : clockfeedOnMessage m r.msg = some (m', [.reply]))
    (thread : ThreadId) : (m'.slotsOf thread).card = heldStep thread (m.slotsOf thread).card r := by
  cases r with
  | subscribe t =>
    simp only [EventReq.msg, clockfeedOnMessage] at h
    split at h
    · obtain ⟨hs, hu⟩ := subscribeEvents_slotsOf ‹_›
      cases h
      by_cases ht : t = thread
      · subst ht
        rw [hs, heldStep, if_pos rfl]
      · rw [hu thread (Ne.symm ht), heldStep, if_neg ht]
    · cases h
  | unsubscribe t =>
    cases h
    obtain ⟨he, hu⟩ := unsubscribeEvents_slotsOf m t
    by_cases ht : t = thread
    · subst ht
      rw [he, heldStep, if_pos rfl, Finset.card_empty]
    · rw [hu thread (Ne.symm ht), heldStep, if_neg ht]

/-- **Run lemma**: a thread holds one slot per `subscribe_events` since its
last `unsubscribe_events`, over any requests the feed handles without
exiting; it is in the table exactly when its last request was a
subscribe. -/
theorem eventRun_slots :
    ∀ (reqs : List EventReq) {m m' : Clockfeed}, eventRun m reqs = some m' → ∀ thread,
      (m'.slotsOf thread).card = heldAfter thread (m.slotsOf thread).card reqs ∧
        (0 < (m'.slotsOf thread).card ↔ subscribedAfter thread (decide (0 < (m.slotsOf thread).card)) reqs)
  | [], m, m', h, thread => by
    cases h
    exact ⟨rfl, by simp [subscribedAfter]⟩
  | r :: rs, m, m', h, thread => by
    simp only [eventRun] at h
    split at h
    · rename_i m₁ hstep
      have hcount := (eventRun_slots rs h thread).1
      rw [eventStep_slots hstep] at hcount
      exact ⟨hcount, hcount ▸ heldAfter_pos_iff thread (r :: rs) _⟩
    · cases h

/-- The feed reaches what it reaches through requests. -/
theorem eventRun_reachable {sense : Sense} :
    ∀ (reqs : List EventReq) {m m' : Clockfeed}, Reachable sense m → eventRun m reqs = some m' → Reachable sense m'
  | [], _, _, hm, h => by
    cases h
    exact hm
  | r :: rs, m, m', hm, h => by
    simp only [eventRun] at h
    split at h
    · exact eventRun_reachable rs (hm.message ‹_›) h
    · cases h

/-! ## A tick -/

/-- **What a tick sends a thread**: one `SYNC_EVENT` for each slot it holds
whose message allocation succeeded. -/
theorem sendSyncEvent_count (m : Clockfeed) (alloc : Fin maxEventSubscribers → Bool) (thread : ThreadId) :
    (clockfeedSendSyncEvent m alloc).count thread = ((m.slotsOf thread).filter fun i => alloc i = true).card := by
  rw [clockfeedSendSyncEvent, List.count_filterMap, Clockfeed.slotsOf, Finset.filter_filter, Fin.univ_def]
  show _ = (List.filter _ _).length
  rw [← List.countP_eq_length_filter]
  congr 1
  funext i
  cases h : alloc i <;> simp [h, Bool.beq_eq_decide_eq]

/-- Thread 1 subscribes twice after `sfptpd_clockfeed_create`. It holds two
slots, where a set would hold it once, and a tick in which every message
allocation succeeds sends it two `SYNC_EVENT`s. -/
theorem duplicate_subscriber_gets_two_events (sense : Sense) :
    ∃ m, eventRun (Clockfeed.init 0) [.subscribe 1, .subscribe 1] = some m ∧ Reachable sense m ∧
      (m.slotsOf 1).card = 2 ∧ (clockfeedOnTimer sense (fun _ => true) m).2 = [1, 1] :=
  ⟨_, rfl, eventRun_reachable [.subscribe 1, .subscribe 1] (.init 0) rfl, by decide, rfl⟩

end Sfptpd.Feed
