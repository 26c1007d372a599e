import Sfptpd.Clockfeed.Invariant

/-!
# Runs of the feed thread

`Reachable sense m`: the memory `m` is reached from `sfptpd_clockfeed_create`
by handling any sequence of messages (through `clockfeed_on_message`) and timer
ticks (`clockfeed_on_timer`, with the readings `sense`). Over every run:

- `feed_registry_invariant`: the registry invariant holds, a tombstoned source
  without subscribers has been freed, no source a live subscription points to
  has been freed, and `unsubscribe` of a live subscription and `remove_clock`
  never fail;
- `feed_ring_invariant`: every allocated source's ring holds its last `min w 16`
  samples, each the record its sampling wrote, and no step decreases a write
  counter;
- `subscribeEvents_full_exits_feed`: a fifth `subscribe_events` request makes
  the feed thread exit without replying.
-/

namespace Sfptpd.Feed

/-- The memory the feed thread reaches (sfptpd_clockfeed.c:668–712). -/
inductive Reachable (sense : Sense) : Clockfeed → Prop
  | init (p : Int) : Reachable sense (Clockfeed.init p)
  | message {m m' : Clockfeed} {msg : ClockfeedMsg} {acts : List MsgAction} :
      Reachable sense m → clockfeedOnMessage m msg = some (m', acts) → Reachable sense m'
  | timer {m : Clockfeed} (alloc : Fin maxEventSubscribers → Bool) :
      Reachable sense m → Reachable sense (clockfeedOnTimer sense alloc m).1

/-- Readings of a clock that always agrees with the system clock at time zero. -/
def quietSense : Sense := fun _ _ => ⟨0, .zero, .zero, .zero⟩

/-- The memory after `add_clock` of clock 7, a `subscribe` to it and one tick. -/
def sampledFeed : Clockfeed :=
  (clockfeedOnTimer quietSense (fun _ => true)
    (clockfeedOnSubscribe (clockfeedOnAddClock (Clockfeed.init 0) 7 0) 7).1).1

/-- The run that builds it. -/
theorem sampledFeed_reachable : Reachable quietSense sampledFeed :=
  .timer _ (@Reachable.message _ _ _ (.subscribe 7) _
    (@Reachable.message _ _ _ (.addClock 7 0) _ (.init 0) rfl) rfl)

namespace RegistryInv

variable {m : Clockfeed}

/-- **Message step**: every handler keeps the invariant. -/
theorem onMessage (h : RegistryInv m) {msg : ClockfeedMsg} {m' : Clockfeed} {acts : List MsgAction}
    (hstep : clockfeedOnMessage m msg = some (m', acts)) : RegistryInv m' := by
  rcases clockfeedOnMessage_cases hstep with
    rfl | rfl | ⟨clock, p, rfl⟩ | ⟨clock, h₁⟩ | ⟨clock, rfl⟩ | ⟨k, h₁⟩ | ⟨thread, h₁⟩ | ⟨thread, rfl⟩
  · exact h
  · exact h.of_registry_eq rfl rfl rfl rfl rfl
  · exact h.addClock clock p
  · obtain ⟨m₁, h₂, hinv⟩ := h.removeClock clock
    rw [h₁] at h₂
    exact Option.some.inj h₂ ▸ hinv
  · exact h.subscribe clock
  · obtain ⟨sub, -, -, hk, -⟩ := onUnsubscribe_spec h₁
    obtain ⟨m₂, h₂, hinv⟩ := h.unsubscribe hk
    rw [h₁] at h₂
    exact Option.some.inj h₂ ▸ hinv
  · simp only [clockfeedOnSubscribeEvents, Option.map_eq_some'] at h₁
    obtain ⟨i, -, rfl⟩ := h₁
    exact h.of_registry_eq rfl rfl rfl rfl rfl
  · exact h.of_registry_eq rfl rfl rfl rfl rfl

end RegistryInv

/-- **Run lemma**: the registry invariant holds in every reachable state. -/
theorem reachable_registryInv {sense : Sense} {m : Clockfeed} (h : Reachable sense m) :
    RegistryInv m := by
  induction h with
  | init p => exact registryInv_init p
  | message _ hstep ih => exact ih.onMessage hstep
  | timer alloc _ ih => exact ih.onTimer sense alloc

/-- In every reachable state of the feed: the two lists are consistent with
the inactive flags, disjoint and without repeats, every allocated source is
listed, no zombie is left without a subscriber, and every live subscription is
on its source's list exactly once, with that source listed (`RegistryInv`);
hence a tombstoned source without subscribers has been freed, no source a live
subscription points to is freed, and the search loops of
`clockfeed_on_unsubscribe` and `clockfeed_reap_zombies` (reached from
`unsubscribe` and `remove_clock`) always find their target. -/
theorem feed_registry_invariant {sense : Sense} {m : Clockfeed} (h : Reachable sense m) :
    RegistryInv m ∧
      (∀ id s, m.sources id = some s → s.inactive = true → s.subscribers ≠ []) ∧
      (∀ k sub, m.subs k = some sub → (m.sources sub.source).isSome) ∧
      (∀ k sub, m.subs k = some sub → (clockfeedOnUnsubscribe m k).isSome) ∧
      (∀ clock, (clockfeedOnRemoveClock m clock).isSome) := by
  have hinv := reachable_registryInv h
  refine ⟨hinv, fun _ _ => hinv.subscribed_of_inactive, fun k sub hk => ?_, fun k sub hk => ?_,
    fun clock => ?_⟩
  · obtain ⟨-, s, hs, -⟩ := hinv.sub_linked k sub hk
    rw [hs]
    rfl
  · obtain ⟨m', hm', -⟩ := hinv.unsubscribe hk
    rw [hm']
    rfl
  · obtain ⟨m', hm', -⟩ := hinv.removeClock clock
    rw [hm']
    rfl

theorem feed_registry_invariant_sampled :
    Reachable quietSense sampledFeed ∧ (RegistryInv sampledFeed ∧
      (∀ id s, sampledFeed.sources id = some s → s.inactive = true → s.subscribers ≠ []) ∧
      (∀ k sub, sampledFeed.subs k = some sub → (sampledFeed.sources sub.source).isSome) ∧
      (∀ k sub, sampledFeed.subs k = some sub → (clockfeedOnUnsubscribe sampledFeed k).isSome) ∧
      (∀ clock, (clockfeedOnRemoveClock sampledFeed clock).isSome)) :=
  ⟨sampledFeed_reachable, feed_registry_invariant sampledFeed_reachable⟩

/-! ## The rings over a run -/

/-- A handler leaves every ring alone: a source it keeps has the ring it had,
and one it allocates has an empty ring. -/
def ShmFrame (m m' : Clockfeed) : Prop :=
  ∀ j s', m'.sources j = some s' →
    (m.sources j = none ∧ s'.shm = ClockfeedShm.empty) ∨ ∃ s, m.sources j = some s ∧ s'.shm = s.shm

/-- The fields of a source that `clockfeed_on_timer` reads and writes: its
poll period, its tick count and its ring. -/
def Source.sampling (s : Source) : Int × Nat × ClockfeedShm := (s.pollPeriodLog2, s.cycles, s.shm)

/-- A handler leaves the sampling fields of every source it keeps alone, and
a source it allocates has not been sampled. -/
def RecordFrame (m m' : Clockfeed) : Prop :=
  ∀ j s', m'.sources j = some s' →
    (m.sources j = none ∧ s'.cycles = 0 ∧ s'.shm = ClockfeedShm.empty) ∨
      ∃ s, m.sources j = some s ∧ s'.sampling = s.sampling

/-- No write counter of a source that stays allocated decreases. -/
def CountersGrow (m m' : Clockfeed) : Prop :=
  ∀ id s s', m.sources id = some s → m'.sources id = some s' →
    s.shm.writeCounter ≤ s'.shm.writeCounter

/-- The reaper allocates nothing and rewrites no record. -/
theorem reapZombies_sources {m m' : Clockfeed} {id : SrcId} (h : clockfeedReapZombies m id = some m')
    {j : SrcId} {s' : Source} (hs' : m'.sources j = some s') : m.sources j = some s' := by
  obtain ⟨s, -, ⟨-, -, -, rfl⟩ | ⟨-, rfl⟩⟩ := reapZombies_spec h
  · simp only [setSource_sources] at hs'
    split at hs'
    · cases hs'
    · exact hs'
  · exact hs'

/-- Reading a record changed in fields other than the sampling ones. -/
theorem keep_of_update {m : Clockfeed} {id : SrcId} {s t : Source} (hs : m.sources id = some s)
    {j : SrcId} {s' : Source} (hs' : (if j = id then some t else m.sources j) = some s')
    (ht : t.sampling = s.sampling) :
    ∃ s₀, m.sources j = some s₀ ∧ s'.sampling = s₀.sampling := by
  split at hs'
  · cases hs'
    subst_vars
    exact ⟨s, hs, ht⟩
  · exact ⟨s', hs', rfl⟩

/-- **Step lemma**: a message leaves every source's sampling fields alone. -/
theorem RegistryInv.onMessage_recordFrame {m : Clockfeed} (h : RegistryInv m) {msg : ClockfeedMsg}
    {m' : Clockfeed} {acts : List MsgAction} (hstep : clockfeedOnMessage m msg = some (m', acts)) :
    RecordFrame m m' := by
  have keep : ∀ {m'' : Clockfeed}, (∀ j s', m''.sources j = some s' →
      ∃ s, m.sources j = some s ∧ s'.sampling = s.sampling) → RecordFrame m m'' :=
    fun hk j s' hs' => .inr (hk j s' hs')
  rcases clockfeedOnMessage_cases hstep with
    rfl | rfl | ⟨clock, p, rfl⟩ | ⟨clock, h₁⟩ | ⟨clock, rfl⟩ | ⟨k, h₁⟩ | ⟨thread, h₁⟩ | ⟨thread, rfl⟩
  · exact keep fun j s' hs' => ⟨s', hs', rfl⟩
  · exact keep fun j s' hs' => ⟨s', hs', rfl⟩
  · intro j s' hs'
    simp only [clockfeedOnAddClock, setSource_sources] at hs'
    split at hs'
    · cases hs'
      subst_vars
      exact .inl ⟨(h.fresh _ le_rfl).1, rfl, rfl⟩
    · exact .inr ⟨s', hs', rfl⟩
  · refine keep fun j s' hs' => ?_
    unfold clockfeedOnRemoveClock at h₁
    split at h₁
    · cases h₁
      exact ⟨s', hs', rfl⟩
    · rename_i id s hfind
      have := reapZombies_sources h₁ hs'
      simp only [setSource_sources] at this
      exact keep_of_update (findClock_spec hfind).2.1 this rfl
  · refine keep fun j s' hs' => ?_
    unfold clockfeedOnSubscribe at hs'
    split at hs'
    · exact ⟨s', hs', rfl⟩
    · rename_i id s hlook
      simp only [setSource_sources, setSub_sources] at hs'
      exact keep_of_update (lookupClock_spec hlook).2.1 hs' rfl
  · obtain ⟨sub, s, m₂, -, hs, -, h₂, rfl⟩ := onUnsubscribe_spec h₁
    refine keep fun j s' hs' => ?_
    have := reapZombies_sources h₂ hs'
    simp only [setSource_sources] at this
    exact keep_of_update hs this rfl
  · simp only [clockfeedOnSubscribeEvents, Option.map_eq_some'] at h₁
    obtain ⟨i, -, rfl⟩ := h₁
    exact keep fun j s' hs' => ⟨s', hs', rfl⟩
  · exact keep fun j s' hs' => ⟨s', hs', rfl⟩

theorem RegistryInv.onMessage_shmFrame {m : Clockfeed} (h : RegistryInv m) {msg : ClockfeedMsg}
    {m' : Clockfeed} {acts : List MsgAction} (hstep : clockfeedOnMessage m msg = some (m', acts)) :
    ShmFrame m m' := fun j s' hs' =>
  (h.onMessage_recordFrame hstep j s' hs').imp (fun ⟨hn, _, he⟩ => ⟨hn, he⟩)
    fun ⟨s, hs, he⟩ => ⟨s, hs, congrArg (·.2.2) he⟩

/-- Every allocated source holds the ring its samplings wrote. -/
def RingInv (sense : Sense) (m : Clockfeed) : Prop :=
  ∀ id s, m.sources id = some s → s.shm = fullRing (sense id) s.shm.writeCounter

theorem RingInv.of_shmFrame {sense : Sense} {m m' : Clockfeed} (h : RingInv sense m)
    (hf : ShmFrame m m') : RingInv sense m' := fun id s' hs' => by
  rcases hf id s' hs' with ⟨-, he⟩ | ⟨s, hs, he⟩
  · rw [he]
    rfl
  · rw [he]
    exact h id s hs

theorem RingInv.onTimer {sense : Sense} {m : Clockfeed} (h : RingInv sense m)
    (alloc : Fin maxEventSubscribers → Bool) : RingInv sense (clockfeedOnTimer sense alloc m).1 :=
  fun id s' hs' => by
    obtain ⟨n, hn⟩ := onTimer_sources sense alloc m id
    rw [hn] at hs'
    obtain ⟨s, hs, rfl⟩ := Option.map_eq_some'.mp hs'
    exact Function.Iterate.rec (fun t : Source => t.shm = fullRing (sense id) t.shm.writeCounter)
      (fun _ ht => pollSource_fullRing ht) (h id s hs) n

theorem shmFrame_countersGrow {m m' : Clockfeed} (hf : ShmFrame m m') : CountersGrow m m' :=
  fun id s s' hs hs' => by
    rcases hf id s' hs' with ⟨hnone, -⟩ | ⟨s₀, hs₀, he⟩
    · rw [hs] at hnone
      cases hnone
    · rw [hs] at hs₀
      cases hs₀
      rw [he]

theorem onTimer_countersGrow (sense : Sense) (alloc : Fin maxEventSubscribers → Bool) (m : Clockfeed) :
    CountersGrow m (clockfeedOnTimer sense alloc m).1 := fun id s s' hs hs' => by
  obtain ⟨n, hn⟩ := onTimer_sources sense alloc m id
  rw [hn, hs, Option.map_some', Option.some.injEq] at hs'
  subst hs'
  exact Function.Iterate.rec (fun t : Source => s.shm.writeCounter ≤ t.shm.writeCounter)
    (fun t ht => ht.trans (pollSource_writeCounter_le sense _ id t)) le_rfl n

/-- **Run lemma** for the rings. -/
theorem reachable_ringInv {sense : Sense} {m : Clockfeed} (h : Reachable sense m) : RingInv sense m := by
  induction h with
  | init p => intro id s hs; cases hs
  | message hr hstep ih => exact ih.of_shmFrame ((reachable_registryInv hr).onMessage_shmFrame hstep)
  | timer alloc _ ih => exact ih.onTimer alloc

/-- In every reachable state, every allocated source with write counter `w`
holds, for each `k` with `w - 16 ≤ k < w`, the record of its `k`-th sampling
(sequence number `k`) in slot `k & 15`; in particular slot `(w - 1) & 15` holds
the newest sample. No message and no tick decreases a write counter. -/
theorem feed_ring_invariant {sense : Sense} {m : Clockfeed} (h : Reachable sense m) :
    (∀ id s, m.sources id = some s → RingHolds sense id s.shm ∧
      (0 < s.shm.writeCounter → s.shm.samples (slot (s.shm.writeCounter - 1)) =
        sampleRecord (s.shm.writeCounter - 1) (sense id (s.shm.writeCounter - 1)))) ∧
    (∀ msg m' acts, clockfeedOnMessage m msg = some (m', acts) → CountersGrow m m') ∧
    (∀ alloc, CountersGrow m (clockfeedOnTimer sense alloc m).1) := by
  refine ⟨fun id s hs => ?_,
    fun msg m' acts hstep => shmFrame_countersGrow ((reachable_registryInv h).onMessage_shmFrame hstep),
    fun alloc => onTimer_countersGrow sense alloc m⟩
  have hring : RingHolds sense id s.shm := by
    rw [reachable_ringInv h id s hs]
    exact fullRing_ringHolds sense id _
  exact ⟨hring, fun hw => hring _ (by unfold maxClockSamples; omega) (by omega)⟩

theorem feed_ring_invariant_sampled :
    Reachable quietSense sampledFeed ∧
    ((∀ id s, sampledFeed.sources id = some s → RingHolds quietSense id s.shm ∧
      (0 < s.shm.writeCounter → s.shm.samples (slot (s.shm.writeCounter - 1)) =
        sampleRecord (s.shm.writeCounter - 1) (quietSense id (s.shm.writeCounter - 1)))) ∧
    (∀ msg m' acts, clockfeedOnMessage sampledFeed msg = some (m', acts) → CountersGrow sampledFeed m') ∧
    (∀ alloc, CountersGrow sampledFeed (clockfeedOnTimer quietSense alloc sampledFeed).1)) :=
  ⟨sampledFeed_reachable, feed_ring_invariant sampledFeed_reachable⟩

/-! ## Message disposal -/

/-- Four threads take the four event slots; a fifth `subscribe_events` request
then gets no reply: `clockfeed_on_subscribe_events` calls
`sfptpd_thread_exit(ENOSPC)` on the feed thread itself (lines 594–597). -/
theorem subscribeEvents_full_exits_feed (sense : Sense) :
    ∃ m, Reachable sense m ∧
      clockfeedOnMessage m (.subscribeEvents 5) = some (m, [.threadExit ENOSPC]) :=
  ⟨_, @Reachable.message sense _ _ (.subscribeEvents 4) _
      (@Reachable.message sense _ _ (.subscribeEvents 3) _
        (@Reachable.message sense _ _ (.subscribeEvents 2) _
          (@Reachable.message sense _ _ (.subscribeEvents 1) _ (.init 0) rfl) rfl) rfl) rfl, rfl⟩

end Sfptpd.Feed
