import Sfptpd.Clockfeed.Timer

/-!
# The feed's message handlers (sfptpd_clockfeed.c:300–712)

Registration is serialised on the feed thread: every change to the source and
subscription lists happens in a handler of `clockfeed_on_message`. A handler is
modelled as a function of the module's memory; it is partial (`Option`) where
the C code can fail an `assert` or follow a dangling or `NULL` pointer:

- `clockfeedReapZombies`: frees a tombstoned source that has no subscribers;
  fails if that source is not on the inactive list (`assert(*nextp == source)`);
- `clockfeedOnUnsubscribe`: fails on a freed subscription (the magic `assert`),
  on a subscription whose source has been freed, and when the subscription is
  not on its source's list (the search loop then dereferences `NULL`).

`clockfeedOnMessage` pairs each handler with what the C handler does with the
message: `SFPTPD_MSG_REPLY`, `SFPTPD_MSG_FREE` or `sfptpd_thread_exit`.
-/

namespace Sfptpd.Feed

/-- A fresh subscription to the source at `source` (lines 524–530): both
counters `-1`, no age limits. -/
def Sub.fresh (source : SrcId) : Sub := ⟨source, -1, -1, false, false, .zero, .zero⟩

/-- `clockfeed_reap_zombies` (lines 300–325). -/
def clockfeedReapZombies (m : Clockfeed) (id : SrcId) : Option Clockfeed :=
  match m.sources id with
  | none => none
  | some s =>
    if s.inactive && s.subscribers.isEmpty then
      if id ∈ m.inactive then some { m.setSource id none with inactive := m.inactive.erase id }
      else none
    else some m

/-- The source `clockfeed_on_add_clock` allocates (lines 433–449): the
requested poll period, raised to the module's when it is smaller. -/
def newSource (m : Clockfeed) (clock : ClockId) (pollPeriodLog2 : Int) : Source where
  clock := clock
  pollPeriodLog2 := if pollPeriodLog2 < m.pollPeriodLog2 then m.pollPeriodLog2 else pollPeriodLog2
  cycles := 0
  shm := ClockfeedShm.empty
  subscribers := []
  inactive := false

/-- `clockfeed_on_add_clock` (lines 422–460): allocate, push on the active list. -/
def clockfeedOnAddClock (m : Clockfeed) (clock : ClockId) (pollPeriodLog2 : Int) : Clockfeed :=
  { m.setSource m.nextId (some (newSource m clock pollPeriodLog2)) with
    active := m.nextId :: m.active, nextId := m.nextId + 1 }

/-- `clockfeed_on_remove_clock` (lines 462–497): move the first active source
of `clock` to the inactive list, tombstone it, and reap it. -/
def clockfeedOnRemoveClock (m : Clockfeed) (clock : ClockId) : Option Clockfeed :=
  match m.findClock clock m.active with
  | none => some m
  | some (id, s) =>
    clockfeedReapZombies
      { m.setSource id (some { s with inactive := true }) with
        active := m.active.erase id, inactive := id :: m.inactive } id

/-- The two search loops of `clockfeed_on_subscribe`: the active list first,
then the zombies. -/
def Clockfeed.lookupClock (m : Clockfeed) (clock : ClockId) : Option (SrcId × Source) :=
  match m.findClock clock m.active with
  | some r => some r
  | none => m.findClock clock m.inactive

/-- `clockfeed_on_subscribe` (lines 499–544): the new subscription, pushed on
its source's list, and the reply's `sub` (`NULL` for an unknown clock). -/
def clockfeedOnSubscribe (m : Clockfeed) (clock : ClockId) : Clockfeed × Option SubId :=
  match m.lookupClock clock with
  | none => (m, none)
  | some (id, s) =>
    ({ (m.setSub m.nextId (some (Sub.fresh id))).setSource id
        (some { s with subscribers := m.nextId :: s.subscribers }) with nextId := m.nextId + 1 },
      some m.nextId)

/-- `clockfeed_on_unsubscribe` (lines 546–576): unlink the subscription, reap
its source, free the subscription. -/
def clockfeedOnUnsubscribe (m : Clockfeed) (k : SubId) : Option Clockfeed := do
  let sub ← m.subs k
  let s ← m.sources sub.source
  if k ∈ s.subscribers then
    let m' ← clockfeedReapZombies
      (m.setSource sub.source (some { s with subscribers := s.subscribers.erase k })) sub.source
    pure (m'.setSub k none)
  else none

/-- `clockfeed_on_subscribe_events` (lines 578–598): the first free slot takes
the thread; `none` when all `MAX_EVENT_SUBSCRIBERS` slots are taken. -/
def clockfeedOnSubscribeEvents (m : Clockfeed) (thread : ThreadId) : Option Clockfeed :=
  ((List.finRange maxEventSubscribers).find? fun i => m.eventSubscribers i = none).map fun i =>
    { m with eventSubscribers := Function.update m.eventSubscribers i (some thread) }

/-- `clockfeed_on_unsubscribe_events` (lines 600–620): clear every slot that
holds the thread. -/
def clockfeedOnUnsubscribeEvents (m : Clockfeed) (thread : ThreadId) : Clockfeed :=
  { m with eventSubscribers := fun i =>
      if m.eventSubscribers i = some thread then none else m.eventSubscribers i }

/-! ## Dispatch -/

/-- The messages `clockfeed_on_message` handles (lines 668–712); `unexpected`
is any other message id. -/
inductive ClockfeedMsg
  | run
  | addClock (clock : ClockId) (pollPeriodLog2 : Int)
  | removeClock (clock : ClockId)
  | subscribe (clock : ClockId)
  | unsubscribe (sub : SubId)
  | subscribeEvents (thread : ThreadId)
  | unsubscribeEvents (thread : ThreadId)
  | unexpected (id : Nat)

/-- What a handler does with the message it was given. -/
inductive MsgAction
  | reply
  | replySub (sub : Option SubId)
  | free
  | threadExit (code : Int)
deriving DecidableEq, Repr

/-- `clockfeed_on_message`: the new memory and what was done with the message;
`none` when the handler fails an assertion or follows a dangling pointer. -/
def clockfeedOnMessage (m : Clockfeed) : ClockfeedMsg → Option (Clockfeed × List MsgAction)
  | .run => some ({ m with runningPhase := true }, [.free])
  | .addClock clock p => some (clockfeedOnAddClock m clock p, [.reply])
  | .removeClock clock => (clockfeedOnRemoveClock m clock).map fun m' => (m', [.reply])
  | .subscribe clock =>
    some ((clockfeedOnSubscribe m clock).1, [.replySub (clockfeedOnSubscribe m clock).2])
  | .unsubscribe k => (clockfeedOnUnsubscribe m k).map fun m' => (m', [.reply])
  | .subscribeEvents thread =>
    match clockfeedOnSubscribeEvents m thread with
    | some m' => some (m', [.reply])
    | none => some (m, [.threadExit ENOSPC])
  | .unsubscribeEvents thread => some (clockfeedOnUnsubscribeEvents m thread, [.reply])
  | .unexpected _ => some (m, [.free])

/-! ## What each handler can do -/

/-- **Inversion of the reaper**: it either frees a tombstoned source with no
subscribers, found on the inactive list, or changes nothing. -/
theorem reapZombies_spec {m m' : Clockfeed} {id : SrcId} (h : clockfeedReapZombies m id = some m') :
    ∃ s, m.sources id = some s ∧
      ((s.inactive = true ∧ s.subscribers = [] ∧ id ∈ m.inactive ∧
          m' = { m.setSource id none with inactive := m.inactive.erase id }) ∨
        (¬ (s.inactive = true ∧ s.subscribers = []) ∧ m' = m)) := by
  unfold clockfeedReapZombies at h
  split at h
  · cases h
  · rename_i s hs
    refine ⟨s, hs, ?_⟩
    split at h
    · rename_i hc
      simp only [Bool.and_eq_true, List.isEmpty_iff] at hc
      split at h
      · exact .inl ⟨hc.1, hc.2, ‹_›, (Option.some.inj h).symm⟩
      · cases h
    · rename_i hc
      simp only [Bool.and_eq_true, List.isEmpty_iff] at hc
      exact .inr ⟨hc, (Option.some.inj h).symm⟩

/-- The reaper succeeds on an allocated source that is on the inactive list
whenever it is tombstoned and unsubscribed. -/
theorem reapZombies_isSome {m : Clockfeed} {id : SrcId} {s : Source} (hs : m.sources id = some s)
    (hmem : s.inactive = true → s.subscribers = [] → id ∈ m.inactive) :
    (clockfeedReapZombies m id).isSome := by
  unfold clockfeedReapZombies
  rw [hs]
  simp only [Bool.and_eq_true, List.isEmpty_iff]
  split
  · rename_i hc
    rw [if_pos (hmem hc.1 hc.2)]
    rfl
  · rfl

/-- **Inversion of the dispatch**: the memory after a message is one
handler's result, or unchanged. -/
theorem clockfeedOnMessage_cases {m m' : Clockfeed} {msg : ClockfeedMsg} {acts : List MsgAction}
    (h : clockfeedOnMessage m msg = some (m', acts)) :
    m' = m ∨ m' = { m with runningPhase := true } ∨
      (∃ clock p, m' = clockfeedOnAddClock m clock p) ∨
      (∃ clock, clockfeedOnRemoveClock m clock = some m') ∨
      (∃ clock, m' = (clockfeedOnSubscribe m clock).1) ∨
      (∃ k, clockfeedOnUnsubscribe m k = some m') ∨
      (∃ thread, clockfeedOnSubscribeEvents m thread = some m') ∨
      (∃ thread, m' = clockfeedOnUnsubscribeEvents m thread) := by
  cases msg with
  | run => cases h; exact .inr (.inl rfl)
  | addClock clock p => cases h; exact .inr (.inr (.inl ⟨clock, p, rfl⟩))
  | removeClock clock =>
    obtain ⟨m₁, h₁, he⟩ := Option.map_eq_some'.mp h
    cases he
    exact .inr (.inr (.inr (.inl ⟨clock, h₁⟩)))
  | subscribe clock => cases h; exact .inr (.inr (.inr (.inr (.inl ⟨clock, rfl⟩))))
  | unsubscribe k =>
    obtain ⟨m₁, h₁, he⟩ := Option.map_eq_some'.mp h
    cases he
    exact .inr (.inr (.inr (.inr (.inr (.inl ⟨k, h₁⟩)))))
  | subscribeEvents thread =>
    simp only [clockfeedOnMessage] at h
    split at h
    · cases h
      exact .inr (.inr (.inr (.inr (.inr (.inr (.inl ⟨thread, ‹_›⟩))))))
    · cases h
      exact .inl rfl
  | unsubscribeEvents thread => cases h; exact .inr (.inr (.inr (.inr (.inr (.inr (.inr ⟨thread, rfl⟩))))))
  | unexpected _ => cases h; exact .inl rfl

/-- **Inversion of `clockfeed_on_unsubscribe`**. -/
theorem onUnsubscribe_spec {m m' : Clockfeed} {k : SubId} (h : clockfeedOnUnsubscribe m k = some m') :
    ∃ sub s m₁, m.subs k = some sub ∧ m.sources sub.source = some s ∧ k ∈ s.subscribers ∧
      clockfeedReapZombies (m.setSource sub.source (some { s with subscribers := s.subscribers.erase k }))
        sub.source = some m₁ ∧ m' = m₁.setSub k none := by
  simp only [clockfeedOnUnsubscribe, Option.bind_eq_bind, Option.bind_eq_some] at h
  obtain ⟨sub, hsub, s, hs, h⟩ := h
  split at h
  · obtain ⟨m₁, h₁, h₂⟩ := Option.bind_eq_some.mp h
    exact ⟨sub, s, m₁, hsub, hs, ‹_›, h₁, (Option.some.inj h₂).symm⟩
  · cases h

/-- What the subscribe search finds is allocated, for the clock, and on one
of the two lists. -/
theorem lookupClock_spec {m : Clockfeed} {clock : ClockId} {id : SrcId} {s : Source}
    (h : m.lookupClock clock = some (id, s)) :
    id ∈ m.active ++ m.inactive ∧ m.sources id = some s ∧ s.clock = clock := by
  unfold Clockfeed.lookupClock at h
  split at h
  · cases h
    obtain ⟨h1, h2, h3⟩ := findClock_spec ‹_›
    exact ⟨List.mem_append_left _ h1, h2, h3⟩
  · obtain ⟨h1, h2, h3⟩ := findClock_spec h
    exact ⟨List.mem_append_right _ h1, h2, h3⟩

end Sfptpd.Feed
