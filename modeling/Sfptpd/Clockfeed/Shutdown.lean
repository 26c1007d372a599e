import Sfptpd.Clockfeed.Run

/-!
# Shutting the feed down: `clockfeed_on_shutdown` (sfptpd_clockfeed.c:622–665)

The shutdown marks every active source inactive, splices the active list in
front of the inactive one, and walks the spliced list reaping each source:
`for (s = module->inactive; s; s = s->next) clockfeed_reap_zombies(module, s)`.
When the reaper frees `s`, the loop's `s = s->next` reads the record it has
just freed. That read is undefined behaviour; as for the reaper's other reads
of freed memory, the model makes it fail (`none`).

- `markInactive_eq`: the mark loop tombstones each active source of a registry
  without repeats;
- `reapLoop_of_subscribed`, `reapLoop_of_unsubscribed`: the reap loop frees
  nothing on a list of subscribed sources, and reads a freed record as soon
  as it reaches one without subscribers;
- `shutdown_spec`: in a reachable state the shutdown leaves the spliced list,
  all sources marked, when every active source has a subscriber, and
  otherwise reads a freed record;
- `shutdown_reads_freed_source`: the state after one `add_clock`.
-/

namespace Sfptpd.Feed

/-- The mark loop (lines 636–643): each active source, in list order, is
asserted live and marked inactive; `none` on a freed record or a failed
assertion. -/
def markInactive (sources : SrcId → Option Source) : List SrcId → Option (SrcId → Option Source)
  | [] => some sources
  | id :: ids =>
    match sources id with
    | none => none
    | some s => if s.inactive then none
      else markInactive (Function.update sources id (some { s with inactive := true })) ids

/-- The reap loop (lines 651–653) from the record `id` on: reap it, then read
its `next`, which fails when the reaper has just freed it. -/
def reapLoop (m : Clockfeed) : List SrcId → Option Clockfeed
  | [] => some m
  | id :: ids => do
    let m' ← clockfeedReapZombies m id
    if (m'.sources id).isSome then reapLoop m' ids else none

/-- `clockfeed_on_shutdown` (lines 622–665): the memory before the final
`free(module)`. -/
def clockfeedOnShutdown (m : Clockfeed) : Option Clockfeed := do
  let sources ← markInactive m.sources m.active
  reapLoop { m with sources := sources, active := [], inactive := m.active ++ m.inactive } (m.active ++ m.inactive)

/-! ## The two loops -/

/-- The sources with the records at `ids` tombstoned. -/
def tombstoned (sources : SrcId → Option Source) (ids : List SrcId) : SrcId → Option Source :=
  fun j => if j ∈ ids then (sources j).map fun s => { s with inactive := true } else sources j

/-- **The mark loop** on distinct live sources tombstones each of them. -/
theorem markInactive_eq :
    ∀ (ids : List SrcId) (sources : SrcId → Option Source), ids.Nodup →
      (∀ id ∈ ids, ∃ s, sources id = some s ∧ s.inactive = false) →
      markInactive sources ids = some (tombstoned sources ids)
  | [], sources, _, _ => by
    rw [markInactive]
    congr 1
  | id :: ids, sources, hnd, hlive => by
    obtain ⟨s, hs, hin⟩ := hlive id (List.mem_cons_self _ _)
    have hnot : id ∉ ids := (List.nodup_cons.mp hnd).1
    rw [markInactive, hs]
    simp only [hin, Bool.false_eq_true, if_false]
    rw [markInactive_eq ids _ (List.nodup_cons.mp hnd).2 fun j hj => ?_]
    · congr 1
      funext j
      by_cases hj : j = id
      · subst hj
        simp [tombstoned, hnot, hs]
      · simp [tombstoned, hj, Function.update_noteq hj]
    · obtain ⟨t, ht, htin⟩ := hlive j (List.mem_cons_of_mem _ hj)
      have hji : j ≠ id := fun h => hnot (h ▸ hj)
      exact ⟨t, by rw [Function.update_noteq hji, ht], htin⟩

/-- **The reap loop on subscribed sources** frees nothing. -/
theorem reapLoop_of_subscribed (m : Clockfeed) :
    ∀ ids : List SrcId, (∀ id ∈ ids, ∃ s, m.sources id = some s ∧ s.subscribers ≠ []) → reapLoop m ids = some m
  | [], _ => rfl
  | id :: ids, h => by
    obtain ⟨s, hs, hsubs⟩ := h id (List.mem_cons_self _ _)
    have hreap : clockfeedReapZombies m id = some m := by
      simp [clockfeedReapZombies, hs, hsubs]
    simp only [reapLoop, hreap, Option.bind_eq_bind, Option.some_bind, hs, Option.isSome_some, if_true]
    exact reapLoop_of_subscribed m ids fun j hj => h j (List.mem_cons_of_mem _ hj)

/-- **The reap loop reads a freed record** once it reaches a tombstoned
source without subscribers, every source before it being subscribed. -/
theorem reapLoop_of_unsubscribed (m : Clockfeed) :
    ∀ ids : List SrcId, (∀ id ∈ ids, id ∈ m.inactive ∧ ∃ s, m.sources id = some s ∧ s.inactive = true) →
      (∃ id ∈ ids, ∀ s, m.sources id = some s → s.subscribers = []) → reapLoop m ids = none
  | [], _, ⟨_, hmem, _⟩ => absurd hmem (List.not_mem_nil _)
  | id :: ids, h, hex => by
    obtain ⟨hid, s, hs, hin⟩ := h id (List.mem_cons_self _ _)
    by_cases hsubs : s.subscribers = []
    · have hreap : clockfeedReapZombies m id = some { m.setSource id none with inactive := m.inactive.erase id } := by
        simp [clockfeedReapZombies, hs, hsubs, hin, hid]
      simp [reapLoop, hreap]
    · have hreap : clockfeedReapZombies m id = some m := by
        simp [clockfeedReapZombies, hs, hsubs]
      simp only [reapLoop, hreap, Option.bind_eq_bind, Option.some_bind, hs, Option.isSome_some, if_true]
      refine reapLoop_of_unsubscribed m ids (fun j hj => h j (List.mem_cons_of_mem _ hj)) ?_
      obtain ⟨j, hj, hjs⟩ := hex
      rcases List.mem_cons.mp hj with rfl | hj
      · exact absurd (hjs s hs) hsubs
      · exact ⟨j, hj, hjs⟩

/-! ## The shutdown of a reachable state -/

/-- In a reachable state every source on the spliced list is allocated and
tombstoned after the mark loop, with the subscribers it had. -/
theorem tombstoned_listed {m : Clockfeed} (h : RegistryInv m) {id : SrcId} (hid : id ∈ m.active ++ m.inactive) :
    ∃ s, m.sources id = some s ∧ tombstoned m.sources m.active id = some { s with inactive := true } ∧
      (id ∈ m.inactive → s.subscribers ≠ []) := by
  rcases List.mem_append.mp hid with ha | hi
  · obtain ⟨s, hs, -⟩ := h.active_live id ha
    exact ⟨s, hs, by simp [tombstoned, ha, hs], fun hi => absurd hi (h.not_mem_inactive ha)⟩
  · obtain ⟨s, hs, hin, hsubs⟩ := h.inactive_zombie id hi
    have hna : id ∉ m.active := fun ha => h.not_mem_inactive ha hi
    -- a zombie is already marked, so tombstoning leaves it as it is
    have hself : { s with inactive := true } = s := by cases s; cases hin; rfl
    exact ⟨s, hs, by simp [tombstoned, hna, hs, hself], fun _ => hsubs⟩

/-- **The shutdown of a reachable state**: when every active source has a
subscriber, the feed ends with no active source and the spliced list, active
sources first, all tombstoned; otherwise its reap loop reads a record it has
freed. -/
theorem shutdown_spec {sense : Sense} {m : Clockfeed} (hm : Reachable sense m) :
    clockfeedOnShutdown m =
      if ∀ id ∈ m.active, ∀ s, m.sources id = some s → s.subscribers ≠ [] then
        some { m with sources := tombstoned m.sources m.active, active := [], inactive := m.active ++ m.inactive }
      else none := by
  have h := reachable_registryInv hm
  rw [clockfeedOnShutdown, markInactive_eq m.active m.sources h.active_nodup h.active_live]
  simp only [Option.bind_eq_bind, Option.some_bind]
  split_ifs with hall
  · refine reapLoop_of_subscribed _ _ fun id hid => ?_
    obtain ⟨s, hs, ht, hz⟩ := tombstoned_listed h hid
    refine ⟨_, ht, ?_⟩
    rcases List.mem_append.mp hid with ha | hi
    · exact hall id ha s hs
    · exact hz hi
  · refine reapLoop_of_unsubscribed _ _ (fun id hid => ⟨hid, ?_⟩) ?_
    · obtain ⟨s, -, ht, -⟩ := tombstoned_listed h hid
      exact ⟨_, ht, rfl⟩
    · push_neg at hall
      obtain ⟨id, ha, s, hs, hnil⟩ := hall
      obtain ⟨s', hs', ht', -⟩ := tombstoned_listed h (List.mem_append_left _ ha)
      obtain rfl : s' = s := Option.some_inj.mp (hs'.symm.trans hs)
      refine ⟨id, List.mem_append_left _ ha, fun t ht => ?_⟩
      obtain rfl : { s' with inactive := true } = t := Option.some_inj.mp (ht'.symm.trans ht)
      exact hnil

/-- The state after one `add_clock`: its source has no subscriber, the reap
loop frees it and then reads its `next`. -/
theorem shutdown_reads_freed_source :
    Reachable quietSense (clockfeedOnAddClock (Clockfeed.init 0) 7 0) ∧
      clockfeedOnShutdown (clockfeedOnAddClock (Clockfeed.init 0) 7 0) = none :=
  ⟨@Reachable.message _ _ _ (.addClock 7 0) _ (.init 0) rfl, rfl⟩

end Sfptpd.Feed
