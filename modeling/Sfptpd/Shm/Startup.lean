import Sfptpd.Shm.Module

/-!
# Starting the SHM module: `shm_on_startup`
(shm/sfptpd_shm_module.c:925–971, 1071–1183, 2181–2247, 2313–2351)

`shm_on_startup` subscribes to the servo multicasts, starts the instances in
list order, creates the poll timer and looks for the time-of-day module. An
instance's start creates its statistics, its outlier filter when configured,
and configures its clock: the interface, a clock no other instance uses, the
frequency, the SHM events and a clock-feed subscription. A failure stops the
loop, and `shm_destroy_instances` releases what each instance records and
empties the list.

The resources a start acquires are tracked as a list beside the instances, so
that what is acquired can be compared with what `shm_destroy_instance`
releases from the instance's fields.

- `shmStartInstance_acquired`, `startLoop_acquired`: whatever a start
  acquires is recorded in its instance, where the destroy finds it;
- `shmOnStartup_failure`: a start-up that fails has released every resource
  it acquired and emptied the instance list, unless it failed at the first
  step, before any instance was touched;
- `shmOnStartup_ok`: a start-up that returns 0 has given its instances
  pairwise distinct clocks, and has reset each with its clock set or left it
  as allocated;
- `startup_succeeds_half_started`: a failed outlier-filter allocation, whose
  `goto fail` returns the 0 left by the statistics, and a failed clock-feed
  subscription, whose result is ignored, each give a start-up that returns 0
  with an instance lacking its clock or its feed.
-/

namespace Sfptpd.Shm

/-- What starting one instance reads: its configuration's outlier-filter flag
and what each fallible step returns. -/
structure StartInput where
  /-- `config->outlier_filter.enabled`. -/
  outlierEnabled : Bool
  /-- `sfptpd_stats_collection_create`. -/
  statsRc : Int
  /-- Whether `sfptpd_peirce_filter_create` returns a filter. -/
  outlierAlloc : Bool
  /-- `config->interface_name[0] != '\0'`. -/
  interfaceNamed : Bool
  /-- `sfptpd_interface_find_by_name`: the interface's clock and whether it
  supports SHM; `none` when there is no such interface. -/
  interface : Option (Nat × Bool)
  /-- `sfptpd_clock_get_discipline(clock)`. -/
  discipline : Bool
  /-- `sfptpd_clock_adjust_frequency`. -/
  adjustRc : Int
  /-- `sfptpd_clock_shm_enable`. -/
  shmEnableRc : Int
  /-- What `sfptpd_clockfeed_subscribe` writes to `instance->feed`: the
  subscription, or `none` when it fails. -/
  feed : Option Nat
deriving DecidableEq, Repr

/-- What start-up reads once. -/
structure StartGlobal where
  /-- `sfptpd_multicast_subscribe(SFPTPD_SERVO_MSG_PID_ADJUST)`. -/
  multicastRc : Int
  /-- `general_config->ignore_critical[SFPTPD_CRITICAL_NO_PTP_CLOCK]`. -/
  ignoreNoPtpClock : Bool
  /-- `sfptpd_thread_timer_create`. -/
  timerRc : Int
deriving DecidableEq, Repr

/-- A resource acquired for the instance at position `k` of the list. -/
inductive Resource
  | stats (k : Nat)
  | outlierFilter (k : Nat)
  | shmEnabled (clock : Nat)
  | feed (sub : Nat)
deriving DecidableEq, Repr

/-- The fields of an instance that start-up sets and `shm_destroy_instance`
releases, and whether the state machine and servo were reset. -/
structure StartingInstance where
  clock : Option Nat
  feed : Option Nat
  outlierFilter : Bool
  reset : Bool
deriving DecidableEq, Repr

/-- An instance as `shm_create_instances` allocates it (`calloc`). -/
def StartingInstance.empty : StartingInstance := ⟨none, none, false, false⟩

/-- `shm_configure_clock` (lines 1071–1183) on the instance `i`, with `insts`
the module's instance list as it stands: the return code, the instance, and
what was acquired. -/
def shmConfigureClock (insts : List StartingInstance) (ignoreNoPtpClock : Bool) (inp : StartInput)
    (i : StartingInstance) : Int × StartingInstance × List Resource :=
  if !inp.interfaceNamed then (EINVAL, i, [])
  else match inp.interface with
    | none => (ENODEV, i, [])
    | some (clock, supportsShm) =>
      if !supportsShm then (ENODEV, i, [])
      else if insts.any (·.clock == some clock) then (EBUSY, i, [])
      else if !inp.discipline && !ignoreNoPtpClock then (EPERM, i, [])
      else if inp.adjustRc ≠ 0 then (inp.adjustRc, i, [])
      else if inp.shmEnableRc ≠ 0 then ( EIO, i, [])
      else (0, { i with clock := some clock, feed := inp.feed }, .shmEnabled clock :: (inp.feed.map .feed).toList)

/-- `shm_start_instance` (lines 2181–2247) on the instance at position `k`. A
failed outlier-filter allocation jumps to `fail` with `rc` still the 0 that
`shm_stats_init` returned. -/
def shmStartInstance (insts : List StartingInstance) (ignoreNoPtpClock : Bool) (k : Nat) (inp : StartInput)
    (i : StartingInstance) : Int × StartingInstance × List Resource :=
  if inp.statsRc ≠ 0 then (inp.statsRc, i, [])
  else if inp.outlierEnabled && !inp.outlierAlloc then (0, i, [.stats k])
  else
    let i := { i with outlierFilter := inp.outlierEnabled }
    let r := shmConfigureClock insts ignoreNoPtpClock inp i
    (r.1, if r.1 = 0 then { r.2.1 with reset := true } else r.2.1,
      .stats k :: (if inp.outlierEnabled then [.outlierFilter k] else []) ++ r.2.2)

/-- The loop of `shm_on_startup` (lines 2328–2331): the instances `done`
started, then each of `todo` in turn up to the first non-zero return. The
return code, the instance list, and what was acquired. -/
def startLoop (ignoreNoPtpClock : Bool) :
    List StartingInstance → List StartInput → List Resource → Int × List StartingInstance × List Resource
  | done, [], acquired => (0, done, acquired)
  | done, inp :: todo, acquired =>
    let r := shmStartInstance (done ++ todo.map fun _ => .empty) ignoreNoPtpClock done.length inp .empty
    if r.1 = 0 then startLoop ignoreNoPtpClock (done ++ [r.2.1]) todo (acquired ++ r.2.2)
    else (r.1, done ++ r.2.1 :: todo.map fun _ => .empty, acquired ++ r.2.2)

/-- What `shm_destroy_instance` (lines 925–956) releases of the instance at
position `k`: the feed subscription, the SHM events of its clock, its outlier
filter and its statistics. -/
def releases (k : Nat) (i : StartingInstance) : List Resource :=
  (i.feed.map .feed).toList ++ (i.clock.map .shmEnabled).toList ++
    (if i.outlierFilter then [.outlierFilter k] else []) ++ [.stats k]

/-- What `shm_destroy_instances` (lines 958–971) releases. -/
def shmDestroyInstances (insts : List StartingInstance) : List Resource :=
  insts.enum.flatMap fun (k, i) => releases k i

/-- What `shm_on_startup` ends with: the return code, the instance list, and
the resources acquired and released. -/
structure StartResult where
  rc : Int
  instances : List StartingInstance
  acquired : List Resource
  released : List Resource
deriving DecidableEq, Repr

/-- `shm_on_startup` (lines 2313–2351) on the instances `shm_create_instances`
made, one for each of `inputs`. `shm_time_of_day_init` returns 0 or `ENOENT`,
both taken as success, after reading `shm->instances->config`: `none` for an
empty list. -/
def shmOnStartup (g : StartGlobal) (inputs : List StartInput) : Option StartResult :=
  if g.multicastRc ≠ 0 then some ⟨g.multicastRc, inputs.map fun _ => .empty, [], []⟩
  else
    let r := startLoop g.ignoreNoPtpClock [] inputs []
    if r.1 ≠ 0 then some ⟨r.1, [], r.2.2, shmDestroyInstances r.2.1⟩
    else if g.timerRc ≠ 0 then some ⟨g.timerRc, [], r.2.2, shmDestroyInstances r.2.1⟩
    else if inputs = [] then none
    else some ⟨0, r.2.1, r.2.2, []⟩

/-! ## Starting one instance -/

/-- **Inversion of `shm_configure_clock`**: it fails with nothing acquired,
or it succeeds on an interface that supports SHM, acquires the SHM events of
its clock, which no instance uses, and the feed, and records both. -/
theorem shmConfigureClock_spec (insts : List StartingInstance) (ignoreNoPtpClock : Bool) (inp : StartInput)
    (i : StartingInstance) :
    (shmConfigureClock insts ignoreNoPtpClock inp i).1 ≠ 0 ∧ (shmConfigureClock insts ignoreNoPtpClock inp i).2 = (i, []) ∨
      ∃ c, (∀ j ∈ insts, j.clock ≠ some c) ∧ shmConfigureClock insts ignoreNoPtpClock inp i =
        (0, { i with clock := some c, feed := inp.feed }, .shmEnabled c :: (inp.feed.map .feed).toList) := by
  -- one case per guard, in the order of the source
  generalize hr : shmConfigureClock insts ignoreNoPtpClock inp i = r
  unfold shmConfigureClock at hr
  have fail : ∀ rc, rc ≠ 0 → (rc, i, []) = r → r.1 ≠ 0 ∧ r.2 = (i, []) := fun _ h e => e ▸ ⟨h, rfl⟩
  by_cases h₀ : (!inp.interfaceNamed) = true
  · exact .inl (fail EINVAL (by decide) (by rw [← hr, if_pos h₀]))
  rw [if_neg h₀] at hr
  rcases hi : inp.interface with _ | ⟨c, supportsShm⟩ <;> rw [hi] at hr <;> dsimp only at hr
  · exact .inl (fail ENODEV (by decide) hr)
  by_cases h₁ : (!supportsShm) = true
  · exact .inl (fail ENODEV (by decide) (by rw [← hr, if_pos h₁]))
  rw [if_neg h₁] at hr
  by_cases h₂ : (insts.any fun x => x.clock == some c) = true
  · exact .inl (fail EBUSY (by decide) (by rw [← hr, if_pos h₂]))
  rw [if_neg h₂] at hr
  by_cases h₃ : (!inp.discipline && !ignoreNoPtpClock) = true
  · exact .inl (fail EPERM (by decide) (by rw [← hr, if_pos h₃]))
  rw [if_neg h₃] at hr
  by_cases h₄ : inp.adjustRc ≠ 0
  · exact .inl (fail _ h₄ (by rw [← hr, if_pos h₄]))
  by_cases h₅ : inp.shmEnableRc ≠ 0
  · exact .inl (fail EIO (by decide) (by rw [← hr, if_neg h₄, if_pos h₅]))
  rw [if_neg h₄, if_neg h₅] at hr
  exact .inr ⟨c, fun j hj hc => h₂ (List.any_eq_true.mpr ⟨j, hj, by simp [hc]⟩), hr.symm⟩

/-- **Inversion of `shm_start_instance`**: it stops at the statistics with
nothing acquired, or at the outlier filter, returning 0, with the statistics
acquired, or it configures the clock of the instance, which from there records
whether it has an outlier filter, and resets the instance when that succeeds. -/
theorem shmStartInstance_cases (insts : List StartingInstance) (ignoreNoPtpClock : Bool) (k : Nat)
    (inp : StartInput) (i : StartingInstance) :
    shmStartInstance insts ignoreNoPtpClock k inp i = (inp.statsRc, i, []) ∨
      shmStartInstance insts ignoreNoPtpClock k inp i = (0, i, [.stats k]) ∨
      ∃ rc i' acq, shmConfigureClock insts ignoreNoPtpClock inp { i with outlierFilter := inp.outlierEnabled } =
          (rc, i', acq) ∧
        shmStartInstance insts ignoreNoPtpClock k inp i = (rc, if rc = 0 then { i' with reset := true } else i',
          .stats k :: (if inp.outlierEnabled then [.outlierFilter k] else []) ++ acq) := by
  unfold shmStartInstance
  by_cases h₁ : inp.statsRc ≠ 0
  · exact .inl (by rw [if_pos h₁])
  by_cases h₂ : inp.outlierEnabled && !inp.outlierAlloc
  · exact .inr (.inl (by rw [if_neg h₁, if_pos h₂]))
  · rw [if_neg h₁, if_neg h₂]
    set c := shmConfigureClock insts ignoreNoPtpClock inp { i with outlierFilter := inp.outlierEnabled }
    exact .inr (.inr ⟨c.1, c.2.1, c.2.2, rfl, rfl⟩)

/-- **Step lemma**: what a start acquires is recorded in its instance, where
`shm_destroy_instance` releases it. -/
theorem shmStartInstance_acquired (insts : List StartingInstance) (ignoreNoPtpClock : Bool) (k : Nat)
    (inp : StartInput) (i : StartingInstance) :
    ∀ r ∈ (shmStartInstance insts ignoreNoPtpClock k inp i).2.2,
      r ∈ releases k (shmStartInstance insts ignoreNoPtpClock k inp i).2.1 := by
  rcases shmStartInstance_cases insts ignoreNoPtpClock k inp i with he | he | ⟨rc, i', acq, hc, he⟩ <;>
    rw [he]
  · simp
  · simp [releases]
  · have hr : releases k (if rc = 0 then { i' with reset := true } else i') = releases k i' := by
      split_ifs <;> rfl
    rw [hr]
    intro r hr
    rcases shmConfigureClock_spec insts ignoreNoPtpClock inp { i with outlierFilter := inp.outlierEnabled }
      with ⟨-, hn⟩ | ⟨c, -, hs⟩
    · rw [hc] at hn
      obtain ⟨rfl, rfl⟩ := Prod.mk.inj hn
      simp only [releases, List.mem_append, List.mem_cons, List.cons_append, List.nil_append, List.append_nil] at hr ⊢
      rcases hr with h | h <;> simp [h]
    · rw [hc] at hs
      obtain ⟨rfl, rfl, rfl⟩ : rc = 0 ∧ i' = _ ∧ acq = _ := by simpa using hs
      simp only [releases, List.mem_append, List.mem_cons, List.cons_append, List.nil_append] at hr ⊢
      rcases hr with h | h | h | h <;> simp [h]

/-- **A start that returns 0** leaves the instance as it was, which a failed
outlier-filter allocation does, or resets it with a clock that no instance of
`insts` has. -/
theorem shmStartInstance_of_ok {insts : List StartingInstance} {ignoreNoPtpClock : Bool} {k : Nat}
    {inp : StartInput} {i : StartingInstance} (h : (shmStartInstance insts ignoreNoPtpClock k inp i).1 = 0) :
    (shmStartInstance insts ignoreNoPtpClock k inp i).2.1 = i ∨
      (∃ c, (shmStartInstance insts ignoreNoPtpClock k inp i).2.1.clock = some c ∧ ∀ j ∈ insts, j.clock ≠ some c) ∧
        (shmStartInstance insts ignoreNoPtpClock k inp i).2.1.reset = true := by
  rcases shmStartInstance_cases insts ignoreNoPtpClock k inp i with he | he | ⟨rc, i', acq, hc, he⟩ <;>
    rw [he] at h ⊢
  · exact .inl rfl
  · exact .inl rfl
  · obtain rfl : rc = 0 := h
    rcases shmConfigureClock_spec insts ignoreNoPtpClock inp { i with outlierFilter := inp.outlierEnabled }
      with ⟨hrc, -⟩ | ⟨c, hfree, hs⟩ <;> rw [hc] at *
    · exact absurd rfl hrc
    · obtain ⟨-, rfl, -⟩ : (0 : Int) = 0 ∧ i' = _ ∧ acq = _ := by simpa using hs
      exact .inr ⟨⟨c, rfl, hfree⟩, rfl⟩

/-! ## The loop -/

/-- Destroying a longer list releases what the shorter one releases and more. -/
theorem shmDestroyInstances_append (l t : List StartingInstance) :
    shmDestroyInstances (l ++ t) =
      shmDestroyInstances l ++ (t.enumFrom l.length).flatMap fun (k, i) => releases k i := by
  simp [shmDestroyInstances, List.enum_append]

theorem shmDestroyInstances_append_singleton (l : List StartingInstance) (i : StartingInstance) :
    shmDestroyInstances (l ++ [i]) = shmDestroyInstances l ++ releases l.length i := by
  simp [shmDestroyInstances_append]

/-- **Run lemma**: the loop keeps every resource it acquired recorded in the
instance list it ends with, on success and at the first failure alike. -/
theorem startLoop_acquired (ignoreNoPtpClock : Bool) (todo : List StartInput) :
    ∀ (done : List StartingInstance) (acquired : List Resource),
      (∀ r ∈ acquired, r ∈ shmDestroyInstances done) →
      ∀ r ∈ (startLoop ignoreNoPtpClock done todo acquired).2.2,
        r ∈ shmDestroyInstances (startLoop ignoreNoPtpClock done todo acquired).2.1 := by
  induction todo with
  | nil => exact fun _ _ h => h
  | cons inp todo ih =>
    intro done acquired h
    set s := shmStartInstance (done ++ todo.map fun _ => .empty) ignoreNoPtpClock done.length inp .empty
    have hstep : ∀ r ∈ acquired ++ s.2.2, r ∈ shmDestroyInstances (done ++ [s.2.1]) := by
      simp only [shmDestroyInstances_append_singleton, List.mem_append]
      rintro r (hr | hr)
      exacts [.inl (h r hr), .inr (shmStartInstance_acquired _ _ _ _ _ r hr)]
    simp only [startLoop]
    split_ifs
    · exact ih _ _ hstep
    · intro r hr
      rw [← List.singleton_append, ← List.append_assoc, shmDestroyInstances_append]
      exact List.mem_append_left _ (hstep r hr)

/-- What a start-up that returns 0 guarantees of its instances: their clocks
are pairwise distinct, and each is reset with its clock set or left as
`shm_create_instances` allocated it. -/
def StartedWell (insts : List StartingInstance) : Prop :=
  (insts.filterMap (·.clock)).Nodup ∧ ∀ i ∈ insts, i = .empty ∨ i.clock.isSome ∧ i.reset = true

/-- **Run lemma**: a loop that returns 0 keeps its instances started well;
the clocks stay distinct because `shm_find_instance_by_clock` is checked
before each clock is taken. -/
theorem startLoop_startedWell (ignoreNoPtpClock : Bool) (todo : List StartInput) :
    ∀ (done : List StartingInstance) (acquired : List Resource), StartedWell done →
      (startLoop ignoreNoPtpClock done todo acquired).1 = 0 → StartedWell (startLoop ignoreNoPtpClock done todo acquired).2.1 := by
  induction todo with
  | nil => exact fun _ _ h _ => h
  | cons inp todo ih =>
    intro done acquired ⟨hnd, hall⟩
    simp only [startLoop]
    split_ifs with hs
    · refine ih _ _ ⟨?_, ?_⟩
      · rw [List.filterMap_append, List.filterMap_cons, List.filterMap_nil]
        rcases shmStartInstance_of_ok hs with hc | ⟨⟨c, hc, hfree⟩, -⟩ <;> rw [hc]
        · simpa [StartingInstance.empty] using hnd
        · refine List.pairwise_append.mpr ⟨hnd, by simp, fun a ha b hb hab => ?_⟩
          obtain ⟨j, hj, hja⟩ := List.mem_filterMap.mp ha
          exact hfree j (List.mem_append_left _ hj) (hja.trans (congrArg some (hab.trans (List.mem_singleton.mp hb))))
      · intro i hi
        rcases List.mem_append.mp hi with hi | hi
        · exact hall i hi
        · rw [List.mem_singleton.mp hi]
          rcases shmStartInstance_of_ok hs with hc | ⟨⟨c, hc, -⟩, hr⟩
          · exact .inl hc
          · exact .inr ⟨by rw [hc]; rfl, hr⟩
    · exact fun h0 => absurd h0 hs

/-! ## Start-up -/

/-- **A failed start-up**: either the multicast subscription failed, before any
instance was touched and with nothing acquired, or the instance list is empty
and every resource acquired on the way has been released. -/
theorem shmOnStartup_failure {g : StartGlobal} {inputs : List StartInput} {res : StartResult}
    (h : shmOnStartup g inputs = some res) (hrc : res.rc ≠ 0) :
    (res.rc = g.multicastRc ∧ res.acquired = [] ∧ res.instances = inputs.map fun _ => .empty) ∨
      (res.instances = [] ∧ ∀ r ∈ res.acquired, r ∈ res.released) := by
  unfold shmOnStartup at h
  dsimp only at h
  split_ifs at h <;> cases h
  · exact .inl ⟨rfl, rfl, rfl⟩
  · exact .inr ⟨rfl, startLoop_acquired _ _ _ _ (by simp)⟩
  · exact .inr ⟨rfl, startLoop_acquired _ _ _ _ (by simp)⟩
  · exact absurd rfl hrc

/-- **A start-up that returns 0** has started its instances well: distinct
clocks, and each instance reset with its clock set or, after a failed
outlier-filter allocation, left as allocated. -/
theorem shmOnStartup_ok {g : StartGlobal} {inputs : List StartInput} {res : StartResult}
    (h : shmOnStartup g inputs = some res) (hrc : res.rc = 0) : StartedWell res.instances := by
  unfold shmOnStartup at h
  dsimp only at h
  split_ifs at h with h₁ h₂ <;> cases h
  · exact absurd hrc h₁
  · exact absurd hrc h₂
  · exact absurd hrc ‹_›
  · exact startLoop_startedWell _ _ _ _ ⟨List.nodup_nil, nofun⟩ (not_not.mp h₂)

/-- An instance configured on an interface with SHM support on clock 1, no
outlier filter, the clock disciplined, and every step succeeding, the feed
subscription on 1. -/
def goodStart : StartInput := ⟨false, 0, true, true, some (1, true), true, 0, 0, some 1⟩

/-- A start-up returns 0 with an instance not fully started, in two ways: its
outlier-filter allocation fails, so it has no clock and was never reset, the
statistics it acquired still held; or its clock-feed subscription fails, so
it has its clock and no feed. -/
theorem startup_succeeds_half_started :
    shmOnStartup ⟨0, false, 0⟩ [{ goodStart with outlierEnabled := true, outlierAlloc := false }] =
        some ⟨0, [StartingInstance.empty], [.stats 0], []⟩ ∧
      shmOnStartup ⟨0, false, 0⟩ [{ goodStart with feed := none }] =
        some ⟨0, [⟨some 1, none, false, true⟩], [.stats 0, .shmEnabled 1], []⟩ := by
  decide

end Sfptpd.Shm
