import FleetRouting.Proofs.Persistence
import FleetRouting.Proofs.Routing.Restriction
/-!
# FleetRouting.Proofs.Sweep

**A sweep takes the overdue heads out of routing and does nothing else.** What it makes of the heads is said head by head
(`Head.Swept`), and what it makes of the cache entry by entry; neither depends on whether anything can be written. No head
is overdue behind a sweep, so another one at the same time finds nothing to do. Time limits that are longer than any signed
duration make no difference, since no two times of the calendar lie that far apart.
-/

namespace FleetRouting

/-- The longest signed duration, in nanoseconds. -/
def Duration.longest : Duration := .ofMillis (2 ^ 63 - 1)

/-- What a sweep makes of a head: one that is overdue becomes inactive under a new revision, and any other one stays. -/
def Head.Swept (stale : Head → Bool) (lastRevision : Nat) (a b : Head) : Prop :=
  if stale a then b = { a with status := .inactive, revision := b.revision } ∧ lastRevision < b.revision else b = a

/-! ### Times of the calendar -/

/-- No two times of the calendar lie further apart than a signed duration can say. -/
theorem Timestamp.Valid.elapsed_le {a b : Timestamp} (ha : a.Valid) (hb : b.Valid) : a.elapsed b ≤ Duration.longest := by
  have hfirst := hb.first
  have hlast := ha.last
  have hnanos : a.nanos < 2 * nanosPerSecond := by
    rcases ha.nanos with h | ⟨h, -⟩
    · exact h.trans (by decide)
    · exact h
  simp only [firstSecond, lastSecond, nanosPerSecond] at hfirst hlast hnanos
  simp only [elapsed, nanosPerSecond, Duration.longest, Duration.ofMillis]
  split
  · omega
  · split <;> omega

namespace Registry

variable {stale : Head → Bool} {heads : List Head} {now : Timestamp} {timeout timeout' : Duration} {order : List String}

/-! ### One sweep -/

theorem length_marked (r : Registry) (now : Timestamp) (timeout : Int) (order : List String) :
    (r.markStale now timeout order).1.length = r.heads.countP (isStale · now timeout) := by
  rw [← List.length_map Head.id, ids_marked, List.length_map, List.countP_eq_length_filter]

theorem swept_retire (stale : Head → Bool) (found : List String) (revision : Nat) (h : Head) :
    Head.Swept stale revision h (retire stale found revision h) := by
  unfold Head.Swept
  cases hstale : stale h with
  | true =>
      rw [if_pos rfl, retire_of_stale stale found revision hstale]
      refine ⟨rfl, ?_⟩
      show revision < revision + 1 + found.idxOf h.id
      omega
  | false => exact (if_neg Bool.false_ne_true).mpr (retire_of_not_stale stale found revision hstale)

theorem swept_markStale (r : Registry) (now : Timestamp) (timeout : Int) (order : List String) :
    List.Forall₂ (Head.Swept (isStale · now timeout) r.lastRevision) r.heads (r.markStale now timeout order).2.heads := by
  rw [heads_markStale, List.forall₂_map_right_iff, List.forall₂_same]
  exact fun h _ => swept_retire _ _ _ h

/-! ### Another sweep -/

/-- A head that is not overdue is not overdue for a longer time limit either. -/
theorem isStale_of_le {h : Head} (hle : timeout ≤ timeout') (hnot : isStale h now timeout = false) :
    isStale h now timeout' = false := by
  simp only [isStale, Bool.and_eq_false_iff, decide_eq_false_iff_not, Int.not_lt] at hnot ⊢
  exact hnot.imp_right fun h => h.trans (Int.ofNat_le.2 hle)

/-- Behind a sweep no head is overdue. -/
theorem isStale_markStale (r : Registry) (now : Timestamp) (order : List String) (hle : timeout ≤ timeout') :
    ∀ b ∈ (r.markStale now timeout order).2.heads, isStale b now timeout' = false := by
  intro b hb
  obtain ⟨a, -, rfl⟩ := List.mem_map.1 hb
  cases hstale : isStale a now timeout with
  | true =>
      rw [retire_of_stale (isStale · now timeout) _ _ hstale]
      rfl
  | false =>
      rw [retire_of_not_stale (isStale · now timeout) _ _ hstale]
      exact isStale_of_le hle hstale

theorem markStale_of_none {r : Registry} (h : ∀ a ∈ r.heads, isStale a now timeout = false) (order : List String) :
    r.markStale now timeout order = ([], r) := by
  have hnone : r.heads.filter (isStale · now timeout) = [] :=
    List.filter_eq_nil_iff.2 fun a ha => by simp only [h a ha, Bool.false_eq_true, not_false_iff]
  have hfound : r.found now timeout order = [] := by
    have hperm := found_perm now timeout order r
    rw [hnone] at hperm
    exact hperm.eq_nil
  have hheads : r.heads.map (retire (isStale · now timeout) [] r.lastRevision) = r.heads :=
    (List.map_congr_left fun a ha => retire_of_not_stale _ _ _ (h a ha)).trans (List.map_id _)
  simp only [markStale, hnone, hfound, hheads, List.map_nil, List.length_nil, Nat.add_zero]

/-! ### Long time limits -/

theorem markStale_min_longest (r : Registry) (hnow : now.Valid) (hheads : ∀ h ∈ r.heads, h.lastHeartbeat.Valid)
    (order : List String) : r.markStale now (min timeout .longest : Duration) order = r.markStale now timeout order := by
  have hsame : ∀ h ∈ r.heads, isStale h now (min timeout .longest : Duration) = isStale h now timeout := by
    intro h hh
    have hle := hnow.elapsed_le (hheads h hh)
    simp only [isStale]
    congr 1
    rw [decide_eq_decide]
    omega
  have hfound : r.found now (min timeout .longest : Duration) order = r.found now timeout order :=
    congrArg (List.map Head.id) (List.filter_congr fun h hh => hsame h ((visit_perm order r.heads).mem_iff.1 hh))
  have hretire : ∀ h ∈ r.heads, retire (isStale · now (min timeout .longest : Duration)) (r.found now timeout order)
      r.lastRevision h = retire (isStale · now timeout) (r.found now timeout order) r.lastRevision h := by
    intro h hh
    simp only [retire, hsame h hh]
  simp only [markStale, hfound, List.filter_congr hsame, List.map_congr_left hretire]
  rw [List.map_congr_left fun h hh => hretire h (List.mem_filter.1 hh).1]

end Registry

namespace Service

/-- **What a sweep is to do,** in whichever order it comes by the heads. -/
structure SweepsExactly (s : Service) (now : Moment) (timeout : Duration) (order : List String) : Prop where
  /-- It gives the number of the overdue heads. -/
  counted : (s.sweep now timeout order).1 = s.router.registry.heads.countP (Registry.isStale · now.wall timeout)
  /-- The overdue heads change in status and revision, and nothing else changes. -/
  heads : List.Forall₂ (Head.Swept (Registry.isStale · now.wall timeout) s.router.registry.lastRevision)
    s.router.registry.heads (s.sweep now timeout order).2.router.registry.heads
  /-- Nothing is forgotten but the choices of overdue heads. -/
  cache : (s.sweep now timeout order).2.router.cache = s.router.cache.retain fun e =>
    e.headId ∉ (s.router.registry.heads.filter (Registry.isStale · now.wall timeout)).map Head.id
  /-- A choice stays exactly if its head is not overdue. -/
  entries : ∀ h ∈ s.router.registry.heads, ∀ e ∈ s.router.cache.entries, e.headId = h.id →
    (e ∈ (s.sweep now timeout order).2.router.cache.entries ↔ Registry.isStale h now.wall timeout = false)
  /-- Another sweep at the same time, with the same or a longer time limit, finds nothing to do. -/
  again : ∀ (later : Moment) (timeout' : Duration) (order' : List String), later.wall = now.wall → timeout ≤ timeout' →
    (s.sweep now timeout order).2.sweep later timeout' order' = (0, (s.sweep now timeout order).2)
  /-- A time limit beyond the signed durations may as well be cut down to the longest of them. -/
  clamped : s.sweep now (min timeout .longest : Duration) order = s.sweep now timeout order

theorem sweepsExactly (s : Service) (hdistinct : Distinct s.router.registry.heads)
    (hheads : ∀ h ∈ s.router.registry.heads, h.lastHeartbeat.Valid) {now : Moment} (hnow : now.wall.Valid)
    (timeout : Duration) (order : List String) : s.SweepsExactly now timeout order := by
  have hwrites := (foldl_finishStale_writes now.tick (s.router.registry.markStale now.wall timeout order).1
    (s.withRegistry (s.router.registry.markStale now.wall timeout order).2)).router
  have hregistry : (s.sweep now timeout order).2.router.registry =
      (s.router.registry.markStale now.wall timeout order).2 := hwrites.registry
  have hids := Registry.ids_marked now.wall timeout order s.router.registry
  have hcache : (s.sweep now timeout order).2.router.cache = s.router.cache.retain fun e =>
      e.headId ∉ (s.router.registry.heads.filter (Registry.isStale · now.wall timeout)).map Head.id := by
    rw [← hids, ← forgetAll_eq_retain]
    exact hwrites.cache
  refine ⟨Registry.length_marked .., ?_, hcache, ?_, ?_, ?_⟩
  · rw [hregistry]
    exact Registry.swept_markStale ..
  · intro h hh e he hid
    have hstale : h.id ∈ (s.router.registry.heads.filter (Registry.isStale · now.wall timeout)).map Head.id ↔
        Registry.isStale h now.wall timeout = true := by
      constructor
      · intro hmem
        obtain ⟨a, ha, hsame⟩ := List.mem_map.1 hmem
        obtain ⟨hknown, hoverdue⟩ := List.mem_filter.1 ha
        exact hdistinct.eq_of_id_eq hknown hh hsame ▸ hoverdue
      · exact fun hoverdue => List.mem_map_of_mem (List.mem_filter.2 ⟨hh, hoverdue⟩)
    rw [hcache, Cache.retain, List.mem_filter, decide_eq_true_iff, hid, hstale, Bool.not_eq_true]
    exact and_iff_right he
  · intro later timeout' order' hwall hle
    have hnone := s.router.registry.isStale_markStale now.wall order hle
    rw [← hregistry, ← hwall] at hnone
    have hmark := Registry.markStale_of_none hnone order'
    generalize (s.sweep now timeout order).2 = t at hmark ⊢
    unfold sweep
    rw [hmark]
    rfl
  · unfold sweep
    rw [s.router.registry.markStale_min_longest hnow hheads]

end Service

namespace Session

/-- **Sweeps are exact**, after whatever commands to a service, for every time of the calendar, for every time limit and
for every order in which the heads are come by, whatever times were reported and whether or not the store works. -/
theorem Begun.sweep_exact {x : Session} (hx : x.Begun) {cs : List Command} (hcs : ∀ c ∈ cs, c.ShowsTime) {now : Moment}
    (hnow : now.wall.Valid) (timeout : Duration) (order : List String) :
    (x.run cs).service.SweepsExactly now timeout order := by
  have hregistry := (hx.orderly.run hcs).registry
  exact Service.sweepsExactly _ hregistry.distinct (fun h hh => (hregistry.fits h hh).lastHeartbeat) hnow timeout order

/-- The store never works, and three heads report the first second of the calendar, the last one, and one that there is
not, which counts as the present one. Only the first head is ever overdue, and not for the longest time limits. -/
theorem sweep_exact_outage :
    let x := start { outage := .total } {} {} none ⟨⟨0, 0⟩, 0⟩
    let register (id : String) : Command := .register ⟨id, "http://" ++ id, "m", id, "", .empty, 0⟩
    let report (id : String) (seconds : Int) : Command := .update ⟨⟨.active, 0, some seconds⟩, id⟩
    let ask (region : String) : Command :=
      .route default { modelType := "m", regionPreference := region, strategy := some "geo_preferred" }
    let cs := [register "a", register "b", register "c", report "a" Timestamp.firstSecond, report "b" Timestamp.lastSecond,
      report "c" (-2 ^ 63), ask "a", ask "b"]
    let y := (x.run cs).service
    let now : Moment := ⟨⟨1, 0⟩, 1⟩
    y.router.cache.entries.map CacheEntry.headId = ["b", "a"] ∧ (y.sweep now (.ofMillis 1000)).1 = 1 ∧
      (y.sweep now (.ofMillis 1000)).2.router.cache.entries.map CacheEntry.headId = ["b"] ∧
        (y.sweep now (.ofMillis (2 ^ 64 - 1))).1 = 0 := by
  intro x register report ask cs y now
  have hstart : x.Begun := .fresh _ _ _ _ ⟨by decide, by decide, .inl (by decide)⟩
  have hcs : ∀ c ∈ cs, c.ShowsTime := by
    simp only [cs, List.forall_mem_cons]
    exact ⟨trivial, trivial, trivial, trivial, trivial, trivial, trivial, trivial, nofun⟩
  have hnow : now.wall.Valid := ⟨by decide, by decide, .inl (by decide)⟩
  have hshort := hstart.sweep_exact hcs hnow (.ofMillis 1000) []
  have hlong := hstart.sweep_exact hcs hnow (.ofMillis (2 ^ 64 - 1)) []
  refine ⟨by decide +kernel, ?_, ?_, ?_⟩
  · rw [hshort.counted]
    decide +kernel
  · rw [hshort.cache]
    decide +kernel
  · rw [hlong.counted]
    decide +kernel

end Session

end FleetRouting
