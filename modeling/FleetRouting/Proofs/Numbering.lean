import FleetRouting.Proofs.Registry
import FleetRouting.Proofs.Run
import FleetRouting.Proofs.Wire.Head
/-!
# FleetRouting.Proofs.Numbering

**The counters of the registry run ahead of its heads.** In a sound registry (`Registry.Sound`) no head has a revision
or a place that was not given out yet. `Registry.Makes` says once what a change of the registry does: it makes some
snapshots with revisions of their own, lists them in the place of older ones, and leaves all other heads alone. Every
command does so (`Router.makes_outcome`), and keeps the registry sound (`Router.sound_outcome`).
-/

namespace FleetRouting

/-- A head whose numbers the counters of a registry have passed, and whose times a clock can show. -/
structure Head.Fits (h : Head) (r : Registry) : Prop where
  revision : h.revision ≤ r.lastRevision
  sequence : h.sequence < r.nextSequence
  lastHeartbeat : h.lastHeartbeat.Valid
  registeredAt : h.registeredAt.Valid

/-- A command that shows a time of the calendar, if it shows a time at all. -/
def Command.ShowsTime : Command → Prop
  | .advance wall _ => wall.Valid
  | _ => True

/-- A time in a report is one that a clock can show. -/
theorem StatusBody.valid_reportedAt (b : StatusBody) {now : Timestamp} (hnow : now.Valid) : (b.reportedAt now).Valid := by
  unfold reportedAt
  cases hread : b.timestamp.bind Timestamp.ofUnix? with
  | none => exact hnow
  | some t =>
      obtain ⟨seconds, -, hunix⟩ := Option.bind_eq_some_iff.1 hread
      unfold Timestamp.ofUnix? at hunix
      split at hunix
      · next hrange =>
          obtain rfl := Option.some.inj hunix
          exact ⟨hrange.1, hrange.2, .inl (by simp [nanosPerSecond])⟩
      · cases hunix

namespace Registry

structure Sound (r : Registry) : Prop where
  distinct : Distinct r.heads
  fits : ∀ h ∈ r.heads, h.Fits r
  counters : r.nextSequence ≤ r.lastRevision

theorem sound_empty : Sound {} := ⟨List.nodup_nil, nofun, Nat.le_refl 0⟩

/-- As long as the counter of revisions has not run through its 64 bits, every head can be stored. -/
theorem Sound.storable {r : Registry} (hr : r.Sound) (hlast : r.lastRevision < bitSpan 64) {h : Head} (hh : h.Fits r) :
    h.Storable := by
  have hsequence := hh.sequence
  have hrevision := hh.revision
  have hcounters := hr.counters
  exact ⟨hh.lastHeartbeat, hh.registeredAt, by omega, by omega⟩

/-- A change of the registry that makes some snapshots: each is listed under a new revision, and any other head that is
listed was there before. -/
structure Makes (r r' : Registry) (made : List Head) : Prop where
  distinct : Distinct made
  fresh : ∀ h ∈ made, r.lastRevision < h.revision ∧ h.revision ≤ r'.lastRevision
  listed : ∀ h ∈ made, h ∈ r'.heads
  others : ∀ h ∈ r'.heads, h ∈ made ∨ h ∈ r.heads
  stays : ∀ h ∈ r.heads, ∃ h' ∈ r'.heads, h'.id = h.id
  lastRevision : r.lastRevision ≤ r'.lastRevision

theorem Makes.refl (r : Registry) : r.Makes r [] where
  distinct := List.nodup_nil
  fresh := nofun
  listed := nofun
  others _ hh := .inr hh
  stays h hh := ⟨h, hh, rfl⟩
  lastRevision := Nat.le_refl _

/-- A registry stays sound under a change that makes snapshots which fit it. -/
theorem Sound.of_makes {r r' : Registry} {made : List Head} (hr : r.Sound) (hmakes : r.Makes r' made)
    (hdistinct : Distinct r'.heads) (hmade : ∀ h ∈ made, h.Fits r') (hnext : r.nextSequence ≤ r'.nextSequence)
    (hcounters : r'.nextSequence ≤ r'.lastRevision) : r'.Sound where
  distinct := hdistinct
  counters := hcounters
  fits h hh := by
    rcases hmakes.others h hh with hnew | hold
    · exact hmade h hnew
    · have hfits := hr.fits h hold
      exact ⟨hfits.revision.trans hmakes.lastRevision, hfits.sequence.trans_le hnext, hfits.lastHeartbeat,
        hfits.registeredAt⟩

/-! ### One head in the place of another -/

theorem makes_replace {r : Registry} {new : Head} {id : String} {old : Head} (hold : r.get? id = some old)
    (hid : new.id = id) (hrevision : new.revision = r.lastRevision + 1) :
    r.Makes { r.replace new with lastRevision := r.lastRevision + 1 } [new] := by
  obtain ⟨hmem, hold⟩ := get?_eq_some hold
  refine ⟨List.nodup_singleton _, ?_, ?_, ?_, ?_, Nat.le_succ _⟩
  · simp [hrevision]
  · intro h hh
    obtain rfl := List.mem_singleton.1 hh
    -- the new head stands where the old one was
    refine List.mem_map.2 ⟨old, hmem, ?_⟩
    rw [if_pos (hold.trans hid.symm)]
  · intro h hh
    obtain ⟨a, ha, rfl⟩ := List.mem_map.1 hh
    split
    · exact .inl (List.mem_singleton_self _)
    · exact .inr ha
  · intro h hh
    exact ⟨new.unless h, List.mem_map_of_mem hh, new.unless_id h⟩

/-- What a registration makes of a head that is known or new. -/
theorem register_spec (r : Registry) (q : Registration) (now : Timestamp) :
    (r.register q now).1.revision = r.lastRevision + 1 ∧ (r.register q now).2.lastRevision = r.lastRevision + 1 ∧
      (r.register q now).1.lastHeartbeat = now ∧
        ((∃ known, r.get? q.headId = some known ∧ (r.register q now).2.nextSequence = r.nextSequence ∧
            (r.register q now).1.sequence = known.sequence ∧ (r.register q now).1.registeredAt = known.registeredAt) ∨
          r.get? q.headId = none ∧ (r.register q now).2.nextSequence = r.nextSequence + 1 ∧
            (r.register q now).1.sequence = r.nextSequence ∧ (r.register q now).1.registeredAt = now) := by
  unfold register
  cases r.get? q.headId with
  | none => exact ⟨rfl, rfl, rfl, .inr ⟨rfl, rfl, rfl, rfl⟩⟩
  | some known => exact ⟨rfl, rfl, rfl, .inl ⟨known, rfl, rfl, rfl, rfl⟩⟩

theorem makes_register (r : Registry) (q : Registration) (now : Timestamp) :
    r.Makes (r.register q now).2 [(r.register q now).1] := by
  obtain ⟨hrevision, hlast, -, -⟩ := register_spec r q now
  cases hget : r.get? q.headId with
  | some known =>
      have hresult : (r.register q now).2 =
          { r.replace (r.register q now).1 with lastRevision := r.lastRevision + 1 } := by
        simp [register, hget]
      rw [hresult]
      exact makes_replace hget (register_id r q now) hrevision
  | none =>
      have hheads := heads_register_of_new now hget
      refine ⟨List.nodup_singleton _, ?_, ?_, ?_, ?_, by omega⟩
      · simp [hrevision, hlast]
      · intro h hh
        rw [hheads]
        exact List.mem_append_right _ hh
      · intro h hh
        rw [hheads] at hh
        exact (List.mem_append.1 hh).symm
      · intro h hh
        exact ⟨h, hheads ▸ List.mem_append_left _ hh, rfl⟩

theorem sound_register {r : Registry} (hr : r.Sound) (q : Registration) {now : Timestamp} (hnow : now.Valid) :
    (r.register q now).2.Sound := by
  have hmakes := makes_register r q now
  have hdistinct := distinct_register hr.distinct q now
  have hcounters := hr.counters
  obtain ⟨hrevision, hlast, hheartbeat, hcase⟩ := register_spec r q now
  rcases hcase with ⟨known, hknown, hnext, hsequence, hregistered⟩ | ⟨-, hnext, hsequence, hregistered⟩
  · have hfits := hr.fits known (get?_eq_some hknown).1
    have hknownSequence := hfits.sequence
    refine hr.of_makes hmakes hdistinct ?_ (by omega) (by omega)
    intro h hh
    obtain rfl := List.mem_singleton.1 hh
    refine ⟨by omega, by omega, ?_, ?_⟩
    · rw [hheartbeat]
      exact hnow
    · rw [hregistered]
      exact hfits.registeredAt
  · refine hr.of_makes hmakes hdistinct ?_ (by omega) (by omega)
    intro h hh
    obtain rfl := List.mem_singleton.1 hh
    refine ⟨by omega, by omega, ?_, ?_⟩
    · rw [hheartbeat]
      exact hnow
    · rw [hregistered]
      exact hnow

/-! ### Changes of a known head -/

section

variable {r r' : Registry} {id : String} {f : Head → Head} {change : StatusChange}
  (hchange : r.change? id f = some (change, r'))

include hchange

theorem makes_change? (hf : ∀ h, (f h).id = h.id) : r.Makes r' [change.current] := by
  obtain ⟨hget, hcurrent, rfl⟩ := change?_eq_some hchange
  refine makes_replace hget ?_ (by rw [hcurrent])
  rw [hcurrent]
  exact (hf _).trans (get?_eq_some hget).2

theorem sound_change? (hr : r.Sound)
    (hf : ∀ h : Head, (f h).id = h.id ∧ (f h).sequence = h.sequence ∧ (f h).registeredAt = h.registeredAt)
    (hheartbeat : ∀ h : Head, h.lastHeartbeat.Valid → (f h).lastHeartbeat.Valid) : r'.Sound := by
  have hmakes := makes_change? hchange fun h => (hf h).1
  have hdistinct := distinct_change? hr.distinct hchange
  have hcounters := hr.counters
  obtain ⟨hget, hcurrent, rfl⟩ := change?_eq_some hchange
  have hfits := hr.fits _ (get?_eq_some hget).1
  obtain ⟨-, hsequence, hregistered⟩ := hf change.previous
  refine hr.of_makes hmakes hdistinct ?_ (Nat.le_refl _) (Nat.le_succ_of_le hcounters)
  intro h hh
  obtain rfl := List.mem_singleton.1 hh
  rw [hcurrent]
  exact ⟨Nat.le_refl _, hsequence.trans_lt hfits.sequence, hheartbeat _ hfits.lastHeartbeat,
    (congrArg Timestamp.Valid hregistered).mpr hfits.registeredAt⟩

end

/-! ### Silent heads -/

/-- What the retired heads are, and how they are numbered. -/
theorem markStale_spec (r : Registry) (now : Timestamp) (timeout : Int) (order : List String) :
    r.lastRevision ≤ (r.markStale now timeout order).2.lastRevision ∧
      (∀ h ∈ (r.markStale now timeout order).1,
        r.lastRevision < h.revision ∧ h.revision ≤ (r.markStale now timeout order).2.lastRevision ∧
          h ∈ (r.markStale now timeout order).2.heads ∧
            ∃ a ∈ r.heads, h = { a with status := .inactive, revision := h.revision }) ∧
        ∀ h ∈ (r.markStale now timeout order).2.heads, h ∈ (r.markStale now timeout order).1 ∨ h ∈ r.heads := by
  refine ⟨Nat.le_add_right _ _, ?_, ?_⟩
  · intro h hh
    obtain ⟨a, ha, rfl⟩ := List.mem_map.1 hh
    obtain ⟨hmem, hstale⟩ := List.mem_filter.1 ha
    have hplace := idxOf_found_lt now timeout order hmem hstale
    have hlisted := List.mem_map_of_mem hmem
      (f := retire (isStale · now timeout) (r.found now timeout order) r.lastRevision)
    rw [retire_of_stale _ _ _ hstale] at hlisted ⊢
    refine ⟨?_, ?_, hlisted, a, hmem, rfl⟩
    · show r.lastRevision < r.lastRevision + 1 + (r.found now timeout order).idxOf a.id
      omega
    · show r.lastRevision + 1 + (r.found now timeout order).idxOf a.id ≤ r.lastRevision + (r.found now timeout order).length
      omega
  · intro h hh
    obtain ⟨a, ha, rfl⟩ := List.mem_map.1 hh
    cases hstale : isStale a now timeout with
    | true => exact .inl (List.mem_map_of_mem (List.mem_filter.2 ⟨ha, hstale⟩))
    | false => exact .inr ((retire_of_not_stale (isStale · now timeout) _ _ hstale).symm ▸ ha)

theorem makes_markStale {r : Registry} (hr : Distinct r.heads) (now : Timestamp) (timeout : Int) (order : List String) :
    r.Makes (r.markStale now timeout order).2 (r.markStale now timeout order).1 := by
  obtain ⟨hle, hmarked, hothers⟩ := r.markStale_spec now timeout order
  refine ⟨?_, ?_, ?_, hothers, ?_, hle⟩
  · rw [Distinct, ids_marked]
    exact hr.filter _
  · intro h hh
    exact ⟨(hmarked h hh).1, (hmarked h hh).2.1⟩
  · intro h hh
    exact (hmarked h hh).2.2.1
  · intro h hh
    have hids : (r.markStale now timeout order).2.heads.map Head.id = r.heads.map Head.id := ids_retire _ _ _ r.heads
    exact List.mem_map.1 (hids ▸ List.mem_map_of_mem hh)

theorem sound_markStale {r : Registry} (hr : r.Sound) (now : Timestamp) (timeout : Int) (order : List String) :
    (r.markStale now timeout order).2.Sound := by
  obtain ⟨hle, hmarked, -⟩ := r.markStale_spec now timeout order
  have hcounters := hr.counters
  refine hr.of_makes (makes_markStale hr.distinct now timeout order)
    (distinct_markStale now timeout order hr.distinct) ?_ (Nat.le_refl _) (hcounters.trans hle)
  intro h hh
  obtain ⟨-, hhigh, -, a, ha, hform⟩ := hmarked h hh
  have hfits := hr.fits a ha
  refine ⟨hhigh, ?_, ?_, ?_⟩
  · rw [hform]
    exact hfits.sequence
  · rw [hform]
    exact hfits.lastHeartbeat
  · rw [hform]
    exact hfits.registeredAt

/-! ### Restored heads -/

/-- A restored head is numbered anew, so only its times have to be right. -/
theorem sound_restoreOne {r : Registry} (hr : r.Sound) {h : Head} (hheartbeat : h.lastHeartbeat.Valid)
    (hregistered : h.registeredAt.Valid) : (r.restoreOne h).Sound where
  distinct := distinct_restoreOne hr.distinct h
  counters := Nat.succ_le_succ hr.counters
  fits a ha := by
    rcases List.mem_append.1 ha with hold | hnew
    · have hfits := hr.fits a (List.mem_filter.1 hold).1
      exact ⟨Nat.le_succ_of_le hfits.revision, Nat.lt_succ_of_lt hfits.sequence, hfits.lastHeartbeat, hfits.registeredAt⟩
    · obtain rfl := List.mem_singleton.1 hnew
      exact ⟨Nat.le_refl _, Nat.lt_succ_self _, hheartbeat, hregistered⟩

theorem sound_restore {r : Registry} (hr : r.Sound) {records : List Head}
    (hrecords : ∀ h ∈ records, h.lastHeartbeat.Valid ∧ h.registeredAt.Valid) : (r.restore records).Sound := by
  refine restore_induction hr fun s hs h hh => ?_
  obtain ⟨hheartbeat, hregistered⟩ := hrecords h hh
  exact sound_restoreOne hs hheartbeat hregistered

end Registry

/-! ### Commands -/

namespace Router

/-- The snapshots that a command makes, in the order in which they are written: the heads that it retires, or the head
that it answers with. -/
def snapshots (r : Router) (now : Moment) (c : Command) : List Head :=
  match c with
  | .sweep timeout order => (r.registry.markStale now.wall timeout order).1
  | c =>
    match (r.outcome now c).answer with
    | .head (.ok h) => [h]
    | _ => []

/-- **A command makes its snapshots, and leaves all other heads alone.** -/
theorem makes_outcome {r : Router} (hr : Distinct r.registry.heads) (now : Moment) (c : Command) :
    r.registry.Makes (r.outcome now c).router.registry (r.snapshots now c) := by
  cases c with
  | register q =>
      simp only [snapshots, outcome]
      split
      · exact .refl _
      · exact Registry.makes_register r.registry q now.wall
  | update q =>
      simp only [snapshots, outcome]
      split
      · exact .refl _
      · cases hreport : r.report? now.wall q with
        | none => exact .refl _
        | some result => exact Registry.makes_change? hreport fun _ => rfl
  | deregister id =>
      simp only [snapshots, outcome]
      split
      · exact .refl _
      · cases hchange : r.registry.deactivate? id with
        | none => exact .refl _
        | some result => exact Registry.makes_change? hchange fun _ => rfl
  | sweep timeout order => exact Registry.makes_markStale hr now.wall timeout order
  | setPolicy policy => exact .refl _
  | route decisionId c =>
      simp only [snapshots, outcome, decide_registry]
      exact .refl _
  | advance wall nanos => exact .refl _

theorem sound_outcome {r : Router} (hr : r.registry.Sound) {now : Moment} (hnow : now.wall.Valid) (c : Command) :
    (r.outcome now c).router.registry.Sound := by
  have hmoves := r.moves_outcome now c
  generalize (r.outcome now c).router = r' at hmoves ⊢
  cases hmoves with
  | stays => exact hr
  | @registered q => exact Registry.sound_register hr q hnow
  | @reported q _ hreport =>
      exact Registry.sound_change? hreport hr (fun _ => ⟨rfl, rfl, rfl⟩) fun _ _ => q.valid_reportedAt hnow
  | deregistered hchange => exact Registry.sound_change? hchange hr (fun _ => ⟨rfl, rfl, rfl⟩) fun _ h => h
  | swept timeout order => exact Registry.sound_markStale hr now.wall timeout order
  | policySet => exact hr
  | decided decisionId c =>
      rw [decide_registry]
      exact hr

end Router

end FleetRouting
