import Sfptpd.Clockfeed.Registry
import Mathlib.Data.List.Nodup

/-!
# The registry invariant (deferred reclamation of sources)

`RegistryInv` is what holds of the feed's memory after any sequence of
handled messages and timer ticks:

- `active_live`, `inactive_zombie`: a source on the active list is allocated
  and not tombstoned; one on the inactive list is allocated, tombstoned and
  still has a subscriber (the reaper runs whenever it could lose its last);
- `listed`: conversely, every allocated source is on one of the lists, so the
  reaper frees the zombie it unlinks and no tombstoned source without
  subscribers stays allocated (`subscribed_of_inactive`);
- `nodup`: the two lists are disjoint and neither repeats a source;
- `sub_linked`: a live subscription appears exactly once on the subscriber list
  of its source, and that source is on one of the lists, so it is not freed;
- `linked_sub`: a subscriber list holds only live subscriptions of that source;
- `fresh`: `calloc` returns memory that is not in use.

There is one preservation lemma per handler (`RegistryInv.addClock`, ...), and
`reachable_registryInv` assembles them by induction on the run.
-/

namespace Sfptpd.Feed

/-- The registry invariant of sfptpd_clockfeed.c:300–576. -/
structure RegistryInv (m : Clockfeed) : Prop where
  active_live : ∀ id ∈ m.active, ∃ s, m.sources id = some s ∧ s.inactive = false
  inactive_zombie : ∀ id ∈ m.inactive,
    ∃ s, m.sources id = some s ∧ s.inactive = true ∧ s.subscribers ≠ []
  listed : ∀ id s, m.sources id = some s → id ∈ m.active ++ m.inactive
  nodup : (m.active ++ m.inactive).Nodup
  sub_linked : ∀ k sub, m.subs k = some sub → sub.source ∈ m.active ++ m.inactive ∧
    ∃ s, m.sources sub.source = some s ∧ s.subscribers.count k = 1
  linked_sub : ∀ id s, m.sources id = some s →
    ∀ k ∈ s.subscribers, ∃ sub, m.subs k = some sub ∧ sub.source = id
  fresh : ∀ id, m.nextId ≤ id → m.sources id = none ∧ m.subs id = none

theorem registryInv_init (p : Int) : RegistryInv (Clockfeed.init p) where
  active_live := by simp [Clockfeed.init]
  inactive_zombie := by simp [Clockfeed.init]
  listed := by simp [Clockfeed.init]
  nodup := List.nodup_nil
  sub_linked := by simp [Clockfeed.init]
  linked_sub := by simp [Clockfeed.init]
  fresh := by simp [Clockfeed.init]

namespace RegistryInv

variable {m : Clockfeed}

/-- A listed source is allocated. -/
theorem listed_alloc (h : RegistryInv m) {id : SrcId} (hid : id ∈ m.active ++ m.inactive) :
    ∃ s, m.sources id = some s := by
  rcases List.mem_append.mp hid with hid | hid
  · obtain ⟨s, hs, -⟩ := h.active_live id hid
    exact ⟨s, hs⟩
  · obtain ⟨s, hs, -⟩ := h.inactive_zombie id hid
    exact ⟨s, hs⟩

/-- An allocated address lies below the `calloc` counter. -/
theorem lt_nextId (h : RegistryInv m) {id : Nat} {s : Source} (hs : m.sources id = some s) :
    id < m.nextId :=
  Nat.lt_of_not_le fun hle => by simp [(h.fresh id hle).1] at hs

/-- A live subscription lies below the `calloc` counter. -/
theorem sub_lt_nextId (h : RegistryInv m) {k : Nat} {sub : Sub} (hk : m.subs k = some sub) :
    k < m.nextId :=
  Nat.lt_of_not_le fun hle => by simp [(h.fresh k hle).2] at hk

/-- A tombstoned source that has lost its last subscriber has been freed: every
allocated source that is inactive still has a subscriber. -/
theorem subscribed_of_inactive (h : RegistryInv m) {id : SrcId} {s : Source}
    (hs : m.sources id = some s) (hin : s.inactive = true) : s.subscribers ≠ [] := by
  rcases List.mem_append.mp (h.listed id s hs) with ha | hi
  · obtain ⟨s₀, hs₀, hf⟩ := h.active_live id ha
    cases hs.symm.trans hs₀
    simp [hin] at hf
  · obtain ⟨s₀, hs₀, -, hne⟩ := h.inactive_zombie id hi
    cases hs.symm.trans hs₀
    exact hne

/-- The shape of a source record the invariant reads. -/
def shape (s : Source) : List SubId × Bool := (s.subscribers, s.inactive)

theorem exists_of_map_eq {f : Source → List SubId × Bool} {a b : Option Source}
    (h : a.map f = b.map f) {s : Source} (hs : b = some s) : ∃ s', a = some s' ∧ f s' = f s := by
  subst hs
  cases a with
  | none => cases h
  | some s' => exact ⟨s', rfl, Option.some.inj h⟩

/-- The invariant reads of a source record only its subscriber list and its
inactive flag. -/
theorem of_shape (h : RegistryInv m) {m' : Clockfeed} (ha : m'.active = m.active)
    (hi : m'.inactive = m.inactive) (hsub : m'.subs = m.subs) (hn : m'.nextId = m.nextId)
    (hsrc : ∀ j, (m'.sources j).map shape = (m.sources j).map shape) : RegistryInv m' where
  active_live id hid := by
    obtain ⟨s, hs, hin⟩ := h.active_live id (ha ▸ hid)
    obtain ⟨s', hs', he⟩ := exists_of_map_eq (hsrc id) hs
    exact ⟨s', hs', by simp only [shape, Prod.mk.injEq] at he; rw [he.2, hin]⟩
  inactive_zombie id hid := by
    obtain ⟨s, hs, hin, hne⟩ := h.inactive_zombie id (hi ▸ hid)
    obtain ⟨s', hs', he⟩ := exists_of_map_eq (hsrc id) hs
    simp only [shape, Prod.mk.injEq] at he
    exact ⟨s', hs', he.2 ▸ hin, he.1 ▸ hne⟩
  listed id s' hs' := by
    obtain ⟨s, hs, -⟩ := exists_of_map_eq (hsrc id).symm hs'
    exact ha ▸ hi ▸ h.listed id s hs
  nodup := ha ▸ hi ▸ h.nodup
  sub_linked k sub hk := by
    obtain ⟨hmem, s, hs, hc⟩ := h.sub_linked k sub (hsub ▸ hk)
    obtain ⟨s', hs', he⟩ := exists_of_map_eq (hsrc _) hs
    simp only [shape, Prod.mk.injEq] at he
    exact ⟨ha ▸ hi ▸ hmem, s', hs', he.1 ▸ hc⟩
  linked_sub id s' hs' k hk := by
    obtain ⟨s, hs, he⟩ := exists_of_map_eq (hsrc id).symm hs'
    simp only [shape, Prod.mk.injEq] at he
    exact hsub ▸ h.linked_sub id s hs k (he.1 ▸ hk)
  fresh id hid := by
    obtain ⟨h1, h2⟩ := h.fresh id (hn ▸ hid)
    have := hsrc id
    rw [h1, Option.map_none'] at this
    exact ⟨Option.map_eq_none'.mp this, hsub ▸ h2⟩

/-- **Tick**: sampling keeps the invariant. -/
theorem onTimer (h : RegistryInv m) (sense : Sense) (alloc : Fin maxEventSubscribers → Bool) :
    RegistryInv (clockfeedOnTimer sense alloc m).1 :=
  h.of_shape rfl rfl rfl rfl fun j => by
    have := congrArg (Option.map fun x : ClockId × List SubId × Bool => x.2)
      (onTimer_sources_map sense alloc m j)
    simpa only [Option.map_map] using this

/-- Handlers that only touch the event slots or the run flag keep the invariant. -/
theorem of_registry_eq (h : RegistryInv m) {m' : Clockfeed} (ha : m'.active = m.active)
    (hi : m'.inactive = m.inactive) (hsub : m'.subs = m.subs) (hn : m'.nextId = m.nextId)
    (hsrc : m'.sources = m.sources) : RegistryInv m' :=
  h.of_shape ha hi hsub hn fun j => by rw [hsrc]

/-- **`add_clock`** keeps the invariant. -/
theorem addClock (h : RegistryInv m) (clock : ClockId) (p : Int) :
    RegistryInv (clockfeedOnAddClock m clock p) := by
  have hnot : m.nextId ∉ m.active ++ m.inactive := fun hmem => by
    obtain ⟨s, hs⟩ := h.listed_alloc hmem
    exact absurd (h.lt_nextId hs) (Nat.lt_irrefl _)
  have hne : ∀ j ∈ m.active ++ m.inactive, j ≠ m.nextId := fun j hj he => hnot (he ▸ hj)
  constructor
  · intro id hid
    simp only [clockfeedOnAddClock, List.mem_cons] at hid ⊢
    rcases hid with rfl | hid
    · simp [newSource]
    · simpa [hne id (List.mem_append_left _ hid)] using h.active_live id hid
  · intro id hid
    simpa [clockfeedOnAddClock, hne id (List.mem_append_right _ hid)] using h.inactive_zombie id hid
  · intro id s hs
    simp only [clockfeedOnAddClock, setSource_sources, setSource_inactive, List.cons_append,
      List.mem_cons] at hs ⊢
    split at hs
    · exact .inl ‹_›
    · exact .inr (h.listed id s hs)
  · exact List.nodup_cons.mpr ⟨hnot, h.nodup⟩
  · intro k sub hk
    obtain ⟨hmem, s, hs, hc⟩ := h.sub_linked k sub hk
    simp only [clockfeedOnAddClock, setSource_sources, List.cons_append, List.mem_cons,
      if_neg (hne _ hmem)]
    exact ⟨.inr hmem, s, hs, hc⟩
  · intro id s hs k hk
    simp only [clockfeedOnAddClock, setSource_sources] at hs
    split at hs
    · cases hs
      simp [newSource] at hk
    · exact h.linked_sub id s hs k hk
  · intro id hid
    have hid : m.nextId + 1 ≤ id := hid
    simp only [clockfeedOnAddClock, setSource_sources, setSource_subs]
    rw [if_neg (show id ≠ m.nextId by omega)]
    exact h.fresh id (by omega)

/-! ### `remove_clock`: tombstone, then perhaps reap -/

theorem active_nodup (h : RegistryInv m) : m.active.Nodup := (List.nodup_append.mp h.nodup).1

theorem inactive_nodup (h : RegistryInv m) : m.inactive.Nodup := (List.nodup_append.mp h.nodup).2.1

theorem not_mem_inactive (h : RegistryInv m) {id : SrcId} (hid : id ∈ m.active) : id ∉ m.inactive :=
  fun hi => (List.nodup_append.mp h.nodup).2.2 hid hi

/-- A tombstoned source that keeps its subscribers moves to the inactive list. -/
theorem tombstone (h : RegistryInv m) {id : SrcId} {s : Source} (hid : id ∈ m.active)
    (hs : m.sources id = some s) (hsub : s.subscribers ≠ []) {m' : Clockfeed}
    (ha : m'.active = m.active.erase id) (hi : m'.inactive = id :: m.inactive)
    (hsubs : m'.subs = m.subs) (hn : m'.nextId = m.nextId)
    (hsrc : ∀ j, m'.sources j = if j = id then some { s with inactive := true } else m.sources j) :
    RegistryInv m' := by
  have hperm : (m'.active ++ m'.inactive).Perm (m.active ++ m.inactive) := by
    rw [ha, hi]
    exact List.perm_middle.trans ((List.perm_cons_erase hid).symm.append_right _)
  have hlt := h.lt_nextId hs
  constructor
  · intro j hj
    rw [ha, h.active_nodup.mem_erase_iff] at hj
    rw [hsrc, if_neg hj.1]
    exact h.active_live j hj.2
  · intro j hj
    rw [hi] at hj
    rw [hsrc]
    rcases List.mem_cons.mp hj with rfl | hj
    · exact ⟨_, if_pos rfl, rfl, hsub⟩
    · rw [if_neg fun (he : j = id) => h.not_mem_inactive hid (he ▸ hj)]
      exact h.inactive_zombie j hj
  · intro j s' hs'
    rw [hsrc] at hs'
    split at hs'
    · exact hperm.mem_iff.mpr (‹j = id› ▸ List.mem_append_left _ hid)
    · exact hperm.mem_iff.mpr (h.listed j s' hs')
  · exact hperm.nodup_iff.mpr h.nodup
  · intro k sub hk
    obtain ⟨hmem, s₀, hs₀, hc⟩ := h.sub_linked k sub (hsubs ▸ hk)
    refine ⟨hperm.mem_iff.mpr hmem, ?_⟩
    rw [hsrc]
    split
    · subst_vars
      cases hs.symm.trans hs₀
      exact ⟨_, rfl, hc⟩
    · exact ⟨s₀, hs₀, hc⟩
  · intro j s' hs' k hk
    rw [hsrc] at hs'
    rw [hsubs]
    split at hs'
    · cases hs'
      subst_vars
      exact h.linked_sub _ s hs k hk
    · exact h.linked_sub j s' hs' k hk
  · intro j hj
    rw [hn] at hj
    rw [hsrc, if_neg (show j ≠ id by omega), hsubs]
    exact h.fresh j hj

/-- An active source without subscribers is unlinked and freed. -/
theorem freeActive (h : RegistryInv m) {id : SrcId} {s : Source} (hid : id ∈ m.active)
    (hs : m.sources id = some s) (hsub : s.subscribers = []) {m' : Clockfeed}
    (ha : m'.active = m.active.erase id) (hi : m'.inactive = m.inactive)
    (hsubs : m'.subs = m.subs) (hn : m'.nextId = m.nextId)
    (hsrc : ∀ j, m'.sources j = if j = id then none else m.sources j) : RegistryInv m' := by
  have hlt := h.lt_nextId hs
  constructor
  · intro j hj
    rw [ha, h.active_nodup.mem_erase_iff] at hj
    rw [hsrc, if_neg hj.1]
    exact h.active_live j hj.2
  · intro j hj
    rw [hi] at hj
    rw [hsrc, if_neg fun (he : j = id) => h.not_mem_inactive hid (he ▸ hj)]
    exact h.inactive_zombie j hj
  · intro j s' hs'
    rw [hsrc] at hs'
    split at hs'
    · cases hs'
    · rw [ha, hi, List.mem_append, List.mem_erase_of_ne ‹_›]
      exact List.mem_append.mp (h.listed j s' hs')
  · rw [ha, hi]
    exact h.nodup.sublist ((List.erase_sublist _ _).append_right _)
  · intro k sub hk
    obtain ⟨hmem, s₀, hs₀, hc⟩ := h.sub_linked k sub (hsubs ▸ hk)
    have hne : sub.source ≠ id := by
      rintro he
      rw [he, hs] at hs₀
      cases hs₀
      simp [hsub] at hc
    rw [ha, hi, hsrc, if_neg hne, List.mem_append, List.mem_erase_of_ne hne]
    exact ⟨List.mem_append.mp hmem, s₀, hs₀, hc⟩
  · intro j s' hs' k hk
    rw [hsrc] at hs'
    rw [hsubs]
    split at hs'
    · cases hs'
    · exact h.linked_sub j s' hs' k hk
  · intro j hj
    rw [hn] at hj
    rw [hsrc, if_neg (show j ≠ id by omega), hsubs]
    exact h.fresh j hj

/-- The tombstoned source goes through the reaper, which always finds it on the
inactive list. -/
theorem removeSource (h : RegistryInv m) {id : SrcId} {s : Source} (hid : id ∈ m.active)
    (hs : m.sources id = some s) {m₁ : Clockfeed}
    (ha : m₁.active = m.active.erase id) (hi : m₁.inactive = id :: m.inactive)
    (hsubs : m₁.subs = m.subs) (hn : m₁.nextId = m.nextId)
    (hsrc : ∀ j, m₁.sources j = if j = id then some { s with inactive := true } else m.sources j) :
    ∃ m', clockfeedReapZombies m₁ id = some m' ∧ RegistryInv m' := by
  have hs₁ : m₁.sources id = some { s with inactive := true } := by rw [hsrc, if_pos rfl]
  obtain ⟨m', hm'⟩ := Option.isSome_iff_exists.mp
    (reapZombies_isSome hs₁ fun _ _ => hi ▸ List.mem_cons_self _ _)
  refine ⟨m', hm', ?_⟩
  obtain ⟨s₁, hs₁', ⟨-, hnil, -, rfl⟩ | ⟨hkeep, rfl⟩⟩ := reapZombies_spec hm'
  · rw [hs₁] at hs₁'
    cases hs₁'
    refine h.freeActive hid hs hnil ha (by simp [hi]) hsubs hn fun j => ?_
    simp only [setSource_sources, hsrc]
    split <;> rfl
  · rw [hs₁] at hs₁'
    cases hs₁'
    exact h.tombstone hid hs (fun hnil => hkeep ⟨rfl, hnil⟩) ha hi hsubs hn hsrc

/-- **`remove_clock`** never fails and keeps the invariant. -/
theorem removeClock (h : RegistryInv m) (clock : ClockId) :
    ∃ m', clockfeedOnRemoveClock m clock = some m' ∧ RegistryInv m' := by
  unfold clockfeedOnRemoveClock
  split
  · exact ⟨m, rfl, h⟩
  · rename_i id s hfind
    obtain ⟨hid, hs, -⟩ := findClock_spec hfind
    exact h.removeSource hid hs rfl rfl rfl rfl fun j => by simp

/-! ### `subscribe` and `unsubscribe` -/

/-- A new subscription is pushed on the subscriber list of a listed source. -/
theorem addSub (h : RegistryInv m) {id : SrcId} {s : Source} (hid : id ∈ m.active ++ m.inactive)
    (hs : m.sources id = some s) {m' : Clockfeed}
    (ha : m'.active = m.active) (hi : m'.inactive = m.inactive) (hn : m'.nextId = m.nextId + 1)
    (hsubs : ∀ k, m'.subs k = if k = m.nextId then some (Sub.fresh id) else m.subs k)
    (hsrc : ∀ j, m'.sources j =
      if j = id then some { s with subscribers := m.nextId :: s.subscribers } else m.sources j) :
    RegistryInv m' := by
  have hlt := h.lt_nextId hs
  have hlive : ∀ {k sub}, m.subs k = some sub → k ≠ m.nextId := fun hk => Nat.ne_of_lt (h.sub_lt_nextId hk)
  have hnew : m.nextId ∉ s.subscribers := fun hk => by
    obtain ⟨sub, hsub, -⟩ := h.linked_sub id s hs _ hk
    exact hlive hsub rfl
  constructor
  · intro j hj
    rw [ha] at hj
    obtain ⟨s₀, hs₀, hf⟩ := h.active_live j hj
    rw [hsrc]
    split
    · subst_vars
      cases hs.symm.trans hs₀
      exact ⟨_, rfl, hf⟩
    · exact ⟨s₀, hs₀, hf⟩
  · intro j hj
    rw [hi] at hj
    obtain ⟨s₀, hs₀, hf, hne⟩ := h.inactive_zombie j hj
    rw [hsrc]
    split
    · subst_vars
      cases hs.symm.trans hs₀
      exact ⟨_, rfl, hf, List.cons_ne_nil _ _⟩
    · exact ⟨s₀, hs₀, hf, hne⟩
  · intro j s' hs'
    rw [hsrc] at hs'
    rw [ha, hi]
    split at hs'
    · exact ‹j = id› ▸ hid
    · exact h.listed j s' hs'
  · rw [ha, hi]
    exact h.nodup
  · intro k sub hk
    rw [ha, hi]
    rw [hsubs] at hk
    split at hk
    · cases hk
      subst_vars
      refine ⟨hid, _, (hsrc _).trans (if_pos rfl), ?_⟩
      simp [List.count_eq_zero.mpr hnew]
    · obtain ⟨hmem, s₀, hs₀, hc⟩ := h.sub_linked k sub hk
      refine ⟨hmem, ?_⟩
      rw [hsrc]
      split
      · rename_i hsrcid
        rw [hsrcid, hs] at hs₀
        cases hs₀
        exact ⟨_, rfl, by rwa [List.count_cons_of_ne ‹_›]⟩
      · exact ⟨s₀, hs₀, hc⟩
  · intro j s' hs' k hk
    rw [hsrc] at hs'
    split at hs'
    · cases hs'
      subst_vars
      rcases List.mem_cons.mp hk with rfl | hk
      · exact ⟨_, (hsubs _).trans (if_pos rfl), rfl⟩
      · obtain ⟨sub, hsub, hsrc'⟩ := h.linked_sub _ s hs k hk
        exact ⟨sub, (hsubs k).trans ((if_neg (hlive hsub)).trans hsub), hsrc'⟩
    · obtain ⟨sub, hsub, hsrc'⟩ := h.linked_sub j s' hs' k hk
      exact ⟨sub, (hsubs k).trans ((if_neg (hlive hsub)).trans hsub), hsrc'⟩
  · intro j hj
    rw [hn] at hj
    rw [hsrc, if_neg (show j ≠ id by omega), hsubs, if_neg (show j ≠ m.nextId by omega)]
    exact h.fresh j (by omega)

/-- **`subscribe`** keeps the invariant. -/
theorem subscribe (h : RegistryInv m) (clock : ClockId) :
    RegistryInv (clockfeedOnSubscribe m clock).1 := by
  unfold clockfeedOnSubscribe
  split
  · exact h
  · rename_i id s hlook
    obtain ⟨hid, hs, -⟩ := lookupClock_spec hlook
    exact h.addSub hid hs rfl rfl rfl (fun k => by simp) fun j => by simp

/-- A subscription listed by another source than its own is another one. -/
theorem ne_of_linked (h : RegistryInv m) {k : SubId} {sub : Sub} (hk : m.subs k = some sub)
    {j : SrcId} {s' : Source} (hs' : m.sources j = some s') {k' : SubId} (hk' : k' ∈ s'.subscribers)
    (hj : j ≠ sub.source) : k' ≠ k := fun he => by
  obtain ⟨sub', hsub', hsrc'⟩ := h.linked_sub _ _ hs' _ hk'
  rw [he, hk] at hsub'
  cases hsub'
  exact hj hsrc'.symm

/-- Unlinking a subscription from a source that stays: one still active, or a
zombie with another subscriber. -/
theorem unlinkKeep (h : RegistryInv m) {k : SubId} {sub : Sub} {s : Source}
    (hk : m.subs k = some sub) (hs : m.sources sub.source = some s)
    (hkeep : ¬ (s.inactive = true ∧ s.subscribers.erase k = [])) {m' : Clockfeed}
    (ha : m'.active = m.active) (hi : m'.inactive = m.inactive) (hn : m'.nextId = m.nextId)
    (hsubs : ∀ k', m'.subs k' = if k' = k then none else m.subs k')
    (hsrc : ∀ j, m'.sources j = if j = sub.source
      then some { s with subscribers := s.subscribers.erase k } else m.sources j) :
    RegistryInv m' := by
  have hlt := h.lt_nextId hs
  have hc : s.subscribers.count k = 1 := by
    obtain ⟨-, s₀, hs₀, hc⟩ := h.sub_linked k sub hk
    cases hs.symm.trans hs₀
    exact hc
  have hgone : k ∉ s.subscribers.erase k := fun hm => by
    have := List.count_pos_iff.mpr hm
    rw [List.count_erase_self, hc] at this
    exact Nat.lt_irrefl _ this
  constructor
  · intro j hj
    rw [ha] at hj
    obtain ⟨s₀, hs₀, hf⟩ := h.active_live j hj
    rw [hsrc]
    split
    · subst_vars
      cases hs.symm.trans hs₀
      exact ⟨_, rfl, hf⟩
    · exact ⟨s₀, hs₀, hf⟩
  · intro j hj
    rw [hi] at hj
    obtain ⟨s₀, hs₀, hf, hne⟩ := h.inactive_zombie j hj
    rw [hsrc]
    split
    · rename_i hj'
      rw [hj', hs] at hs₀
      cases hs₀
      exact ⟨_, rfl, hf, fun hnil => hkeep ⟨hf, hnil⟩⟩
    · exact ⟨s₀, hs₀, hf, hne⟩
  · intro j s' hs'
    rw [hsrc] at hs'
    rw [ha, hi]
    split at hs'
    · exact ‹j = sub.source› ▸ (h.sub_linked k sub hk).1
    · exact h.listed j s' hs'
  · rw [ha, hi]
    exact h.nodup
  · intro k' sub' hk'
    rw [hsubs] at hk'
    split at hk'
    · cases hk'
    · rename_i hne
      obtain ⟨hmem, s₀, hs₀, hc'⟩ := h.sub_linked k' sub' hk'
      rw [ha, hi, hsrc]
      refine ⟨hmem, ?_⟩
      split
      · rename_i hsrcid
        rw [hsrcid, hs] at hs₀
        cases hs₀
        exact ⟨_, rfl, by rwa [List.count_erase_of_ne hne]⟩
      · exact ⟨s₀, hs₀, hc'⟩
  · intro j s' hs' k' hk'
    rw [hsrc] at hs'
    split at hs'
    · cases hs'
      rename_i hj
      have hne : k' ≠ k := fun he => hgone (he ▸ hk')
      obtain ⟨sub', hsub', hsrc'⟩ := h.linked_sub _ s hs k' (List.mem_of_mem_erase hk')
      exact ⟨sub', (hsubs k').trans ((if_neg hne).trans hsub'), hsrc'.trans hj.symm⟩
    · rename_i hj
      obtain ⟨sub', hsub', hsrc'⟩ := h.linked_sub j s' hs' k' hk'
      exact ⟨sub', (hsubs k').trans ((if_neg (h.ne_of_linked hk hs' hk' hj)).trans hsub'), hsrc'⟩
  · intro j hj
    rw [hn] at hj
    rw [hsrc, if_neg (show j ≠ sub.source by omega), hsubs]
    obtain ⟨h1, h2⟩ := h.fresh j hj
    exact ⟨h1, by split <;> simp_all⟩

/-- Unlinking the last subscription of a zombie frees it. -/
theorem unlinkFree (h : RegistryInv m) {k : SubId} {sub : Sub} {s : Source}
    (hk : m.subs k = some sub) (hs : m.sources sub.source = some s)
    (hin : s.inactive = true) (hnil : s.subscribers.erase k = []) {m' : Clockfeed}
    (ha : m'.active = m.active) (hi : m'.inactive = m.inactive.erase sub.source)
    (hn : m'.nextId = m.nextId) (hsubs : ∀ k', m'.subs k' = if k' = k then none else m.subs k')
    (hsrc : ∀ j, m'.sources j = if j = sub.source then none else m.sources j) :
    RegistryInv m' := by
  have hlt := h.lt_nextId hs
  obtain ⟨hmem, -⟩ := h.sub_linked k sub hk
  have hzombie : sub.source ∉ m.active := fun ha' => by
    obtain ⟨s₀, hs₀, hf⟩ := h.active_live _ ha'
    cases hs.symm.trans hs₀
    rw [hin] at hf
    cases hf
  constructor
  · intro j hj
    rw [ha] at hj
    rw [hsrc, if_neg fun (he : j = sub.source) => hzombie (he ▸ hj)]
    exact h.active_live j hj
  · intro j hj
    rw [hi, h.inactive_nodup.mem_erase_iff] at hj
    rw [hsrc, if_neg hj.1]
    exact h.inactive_zombie j hj.2
  · intro j s' hs'
    rw [hsrc] at hs'
    split at hs'
    · cases hs'
    · rw [ha, hi, List.mem_append, List.mem_erase_of_ne ‹_›]
      exact List.mem_append.mp (h.listed j s' hs')
  · rw [ha, hi]
    exact h.nodup.sublist ((List.erase_sublist _ _).append_left _)
  · intro k' sub' hk'
    rw [hsubs] at hk'
    split at hk'
    · cases hk'
    · rename_i hne
      obtain ⟨hmem', s₀, hs₀, hc'⟩ := h.sub_linked k' sub' hk'
      have hsne : sub'.source ≠ sub.source := fun he => by
        rw [he, hs] at hs₀
        cases hs₀
        rw [← List.count_erase_of_ne hne, hnil] at hc'
        cases hc'
      rw [ha, hi, hsrc, if_neg hsne, List.mem_append, List.mem_erase_of_ne hsne]
      exact ⟨List.mem_append.mp hmem', s₀, hs₀, hc'⟩
  · intro j s' hs' k' hk'
    rw [hsrc] at hs'
    split at hs'
    · cases hs'
    · rename_i hj
      obtain ⟨sub', hsub', hsrc'⟩ := h.linked_sub j s' hs' k' hk'
      exact ⟨sub', (hsubs k').trans ((if_neg (h.ne_of_linked hk hs' hk' hj)).trans hsub'), hsrc'⟩
  · intro j hj
    rw [hn] at hj
    rw [hsrc, if_neg (show j ≠ sub.source by omega), hsubs]
    obtain ⟨h1, h2⟩ := h.fresh j hj
    exact ⟨h1, by split <;> simp_all⟩

/-- **`unsubscribe`** of a live subscription never fails (its search loop and
the reaper both find their target) and keeps the invariant. -/
theorem unsubscribe (h : RegistryInv m) {k : SubId} {sub : Sub} (hk : m.subs k = some sub) :
    ∃ m', clockfeedOnUnsubscribe m k = some m' ∧ RegistryInv m' := by
  obtain ⟨hmem, s, hs, hc⟩ := h.sub_linked k sub hk
  have hkin : k ∈ s.subscribers := List.count_pos_iff.mp (by omega)
  have hs₁ : (m.setSource sub.source (some { s with subscribers := s.subscribers.erase k })).sources
      sub.source = some { s with subscribers := s.subscribers.erase k } := by simp
  have hzombie : s.inactive = true → sub.source ∈ m.inactive := fun hin => by
    rcases List.mem_append.mp hmem with ha | hi
    · obtain ⟨s₀, hs₀, hf⟩ := h.active_live _ ha
      cases hs.symm.trans hs₀
      rw [hin] at hf
      cases hf
    · exact hi
  obtain ⟨m₂, hm₂⟩ := Option.isSome_iff_exists.mp (reapZombies_isSome hs₁ fun hin _ => hzombie hin)
  refine ⟨m₂.setSub k none, ?_, ?_⟩
  · simp [clockfeedOnUnsubscribe, hk, hs, hkin, hm₂]
  obtain ⟨s₁, hs₁', ⟨hin, hnil, -, rfl⟩ | ⟨hkeep, rfl⟩⟩ := reapZombies_spec hm₂
  · rw [hs₁] at hs₁'
    cases hs₁'
    refine h.unlinkFree hk hs hin hnil rfl rfl rfl (fun k' => by simp) fun j => ?_
    simp only [setSub_sources, setSource_sources]
    split <;> rfl
  · rw [hs₁] at hs₁'
    cases hs₁'
    exact h.unlinkKeep hk hs hkeep rfl rfl rfl (fun k' => by simp) fun j => by simp

end RegistryInv

end Sfptpd.Feed
