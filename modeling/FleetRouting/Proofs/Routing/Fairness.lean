import FleetRouting.Proofs.Routing.Decide
import Mathlib.Algebra.Group.Nat.Defs
import Mathlib.Data.List.Rotate
/-!
# FleetRouting.Proofs.Routing.Fairness

**Rotation is fair, whatever goes on between its picks.** A router is seen through its answers (`Router.answers`), of which
those by rotation tell themselves apart by strategy and reason (`Decision.byRotation`). One request moves the turn of its
model type by one exactly if its answer is by rotation, and such an answer names the active head whose turn it was
(`Router.decide_turn`). So as long as the active heads of a model type stay the same, the picks by rotation go round them
(`Cyclic`), and each stretch of picks that is as long as the list of heads is a rearrangement of it.
-/

namespace FleetRouting

/-! ### Which answers are by rotation -/

/-- True for an answer by rotation: it gives the reason that the strategy it names has for one. -/
def Decision.byRotation (d : Decision) : Bool :=
  Strategy.all.any fun strategy =>
    d.strategyUsed == strategy.name && strategy.rotationReason?.any fun reason => d.reason == reason.text

/-- What the words for picks by rotation open with. -/
def rotationOpenings : List (List Char) := ["round robin".toList, "no head in ".toList, "adaptive: r".toList]

/-- No other reason opens like a pick by rotation, whatever load, score or region it names. -/
theorem Reason.opening_mem_iff (reason : Reason) :
    reason.text.toList.take 11 ∈ rotationOpenings ↔ reason.ofRotation = true := by
  cases reason with
  | rotation | rotationWithoutRegion | adaptiveRotation => exact iff_of_true (by decide) rfl
  | lowestLoad load =>
      show ("lowest current load (" ++ _ ++ ")").toList.take 11 ∈ _ ↔ _
      simp [rotationOpenings, ofRotation]
  | region name =>
      show ("matched preferred region " ++ _).toList.take 11 ∈ _ ↔ _
      simp [rotationOpenings, ofRotation]
  | modelMatch score =>
      show ("best model match (score " ++ _ ++ ")").toList.take 11 ∈ _ ↔ _
      simp [rotationOpenings, ofRotation]
  | lowestLoadWithoutRegion load =>
      show ("no regional match, lowest current load (" ++ _ ++ ")").toList.take 11 ∈ _ ↔ _
      simp [rotationOpenings, ofRotation]
  | projectedLoad load =>
      show ("lowest projected load (" ++ _ ++ ")").toList.take 11 ∈ _ ↔ _
      simp [rotationOpenings, ofRotation]
  | adaptiveModel score =>
      show ("adaptive: model match with headroom (score " ++ _ ++ ")").toList.take 11 ∈ _ ↔ _
      simp [rotationOpenings, ofRotation]
  | adaptiveRegion name =>
      show ("adaptive: preferred region " ++ _ ++ " with headroom").toList.take 11 ∈ _ ↔ _
      simp [rotationOpenings, ofRotation]
  | adaptiveProjected load =>
      show ("adaptive: lowest projected load (" ++ _ ++ ")").toList.take 11 ∈ _ ↔ _
      simp [rotationOpenings, ofRotation]

namespace Decision

theorem byRotation_iff {d : Decision} : d.byRotation = true ↔ ∃ (strategy : Strategy) (reason : Reason),
    strategy.rotationReason? = some reason ∧ d.strategyUsed = strategy.name ∧ d.reason = reason.text := by
  simp only [byRotation, List.any_eq_true, Bool.and_eq_true, beq_iff_eq, Option.any_eq_true]
  constructor
  · rintro ⟨strategy, -, hname, reason, hreason, htext⟩
    exact ⟨strategy, reason, hreason, hname, htext⟩
  · rintro ⟨strategy, reason, hreason, hname, htext⟩
    exact ⟨strategy, by cases strategy <;> decide, hname, reason, hreason, htext⟩

theorem byRotation_eq_false {d : Decision} (h : d.reason.toList.take 11 ∉ rotationOpenings) : d.byRotation = false := by
  refine Bool.eq_false_iff.2 fun hrotation => h ?_
  obtain ⟨strategy, reason, hreason, -, htext⟩ := byRotation_iff.1 hrotation
  rw [htext]
  exact (Reason.opening_mem_iff reason).2 (Strategy.ofRotation_of_rotationReason? hreason)

/-- An answer from memory is not by rotation. -/
theorem strategyUsed_ne_of_byRotation {d : Decision} (h : d.byRotation = true) : d.strategyUsed ≠ Router.cachedName := by
  obtain ⟨strategy, reason, -, hname, -⟩ := byRotation_iff.1 h
  rw [hname]
  cases strategy <;> decide

end Decision

/-! ### One request -/

namespace Router

variable (r : Router) (c : Criteria) (tick : Nat)

theorem cursor_turned : (r.turned c).cursor c.modelType = r.nextTurn c := by
  simp [turned, cursor]

/-- **What a request does to the turn of its model type.** It takes the turn exactly if its answer is by rotation, and then
it is given the active head whose turn it was. -/
theorem decide_turn :
    let d := (r.decide c tick).1
    let turn := r.cursor c.modelType
    let after := (r.decide c tick).2.cursor c.modelType
    let ids := (r.candidates c).map Head.id
    d.byRotation = true ∧ after = turn + 1 ∧ ids[turn.toNat % ids.length]? = some d.headId ∨
      d.byRotation = false ∧ after = turn := by
  intro d turn after ids
  have hopening : "cached decision".toList.take 11 ∉ rotationOpenings ∧
      "no available heads for model type".toList.take 11 ∉ rotationOpenings := by decide
  cases hrecall : r.recalled? c tick with
  | some head =>
      simp only [d, after, decide_of_recall hrecall]
      exact .inr ⟨Decision.byRotation_eq_false hopening.1, rfl⟩
  | none =>
      simp only [d, after, decide_of_no_recall hrecall]
      rcases select_cases (r.strategy c) (r.candidates c) c r.policy turn with
        ⟨hnil, -⟩ | ⟨w, -, hreason, hrun⟩ | ⟨h, -, reason, hhead, hreason, hrun⟩
      · have htidied : (r.tidied c tick).candidates c = [] := hnil
        rw [compute_of_no_candidates htidied]
        exact .inr ⟨Decision.byRotation_eq_false hopening.2, rfl⟩
      · have hselection : (r.tidied c tick).selection c = some w := congrArg Prod.fst hrun
        rw [compute_of_selection hselection]
        refine .inr ⟨Decision.byRotation_eq_false fun hmem => ?_, (cursor_turned _ c).trans (congrArg Prod.snd hrun)⟩
        rw [(Reason.opening_mem_iff _).1 hmem] at hreason
        cases hreason
      · have hselection : (r.tidied c tick).selection c = some ⟨h, reason, false⟩ := congrArg Prod.fst hrun
        rw [compute_of_selection hselection]
        refine .inl ⟨Decision.byRotation_iff.2 ⟨_, reason, hreason, rfl, rfl⟩,
          (cursor_turned _ c).trans (congrArg Prod.snd hrun), ?_⟩
        simp only [ids, List.getElem?_map, List.length_map]
        exact congrArg (Option.map Head.id) hhead

/-- Turns of other model types are left alone. -/
theorem cursor_decide_of_ne {m : String} (h : c.modelType ≠ m) : (r.decide c tick).2.cursor m = r.cursor m := by
  have hturned : ((r.tidied c tick).turned c).cursor m = r.cursor m := by
    simp only [turned, tidied, missed, cursor]
    rw [SortedMap.get?_insert_of_ne _ _ h.symm]
  cases hrecall : r.recalled? c tick with
  | some head =>
      rw [decide_of_recall hrecall]
      rfl
  | none =>
      rw [decide_of_no_recall hrecall]
      by_cases hnil : (r.tidied c tick).candidates c = []
      · rw [compute_of_no_candidates hnil]
        rfl
      · rw [compute_of_candidates hnil]
        cases (r.tidied c tick).selection c with
        | none => exact hturned
        | some s => exact hturned

end Router

/-! ### Going round a list -/

/-- Names that go round a list, beginning at a turn. -/
def Cyclic (ids : List String) (turn : Nat) (picks : List String) : Prop :=
  ∀ j < picks.length, picks[j]? = ids[(turn + j) % ids.length]?

namespace Cyclic

variable {ids picks : List String} {turn : Nat}

theorem nil : Cyclic ids turn [] := nofun

theorem cons {id : String} (hid : ids[turn % ids.length]? = some id) (h : Cyclic ids (turn + 1) picks) :
    Cyclic ids turn (id :: picks) := by
  intro j hj
  cases j with
  | zero => exact hid.symm
  | succ j =>
      rw [List.getElem?_cons_succ, h j (Nat.lt_of_succ_lt_succ hj), Nat.add_assoc, Nat.add_comm 1]

/-- As many picks as there are names in the list are the list, begun elsewhere. -/
theorem window_eq (h : Cyclic ids turn picks) {i : Nat} (hi : i + ids.length ≤ picks.length) :
    (picks.drop i).take ids.length = ids.rotate (turn + i) := by
  have hlength : ((picks.drop i).take ids.length).length = ids.length := by
    rw [List.length_take, List.length_drop, Nat.min_eq_left (by omega)]
  refine List.ext_getElem? fun j => ?_
  by_cases hj : j < ids.length
  · rw [List.getElem?_take_of_lt hj, List.getElem?_drop, h _ (by omega), List.getElem?_rotate hj]
    congr 2
    omega
  · rw [List.getElem?_eq_none (by omega), List.getElem?_eq_none (by rw [List.length_rotate]; omega)]

theorem window_perm (h : Cyclic ids turn picks) {i : Nat} (hi : i + ids.length ≤ picks.length) :
    ((picks.drop i).take ids.length).Perm ids :=
  h.window_eq hi ▸ List.rotate_perm ids (turn + i)

end Cyclic

/-! ### Many requests -/

/-- What happens to routing: a request, or a change of anything but the turns. -/
inductive RoutingEvent where
  | request (c : Criteria) (tick : Nat)
  | change (registry : Registry) (policy : Policy) (cache : Cache) (metrics : Metrics)

/-- The heads that answers by rotation name to requests for a model type. -/
def rotationPicks (m : String) (answers : List (Criteria × Decision)) : List String :=
  (answers.filter fun (c, d) => c.modelType == m && d.byRotation).map fun (_, d) => d.headId

namespace Router

/-- Each request with its answer, and the router that is left. -/
def answers : Router → List RoutingEvent → List (Criteria × Decision) × Router
  | r, [] => ([], r)
  | r, .request c tick :: events =>
    let (d, r) := r.decide c tick
    let (rest, r) := r.answers events
    ((c, d) :: rest, r)
  | r, .change registry policy cache metrics :: events =>
    answers { r with registry := registry, policy := policy, cache := cache, metrics := metrics } events

theorem answers_request (r : Router) (c : Criteria) (tick : Nat) (events : List RoutingEvent) :
    r.answers (.request c tick :: events) =
      ((c, (r.decide c tick).1) :: ((r.decide c tick).2.answers events).1, ((r.decide c tick).2.answers events).2) := rfl

variable {m : String} {ids : List String}

/-- Events that leave the identifiers of the active heads of a model type alone. -/
def Keeps (m : String) (ids : List String) (events : List RoutingEvent) : Prop :=
  ∀ registry policy cache metrics, RoutingEvent.change registry policy cache metrics ∈ events →
    (registry.listActive m).map Head.id = ids

theorem rotationPicks_cons (c : Criteria) (d : Decision) (answers : List (Criteria × Decision)) :
    rotationPicks m ((c, d) :: answers) =
      if c.modelType = m ∧ d.byRotation = true then d.headId :: rotationPicks m answers else rotationPicks m answers := by
  unfold rotationPicks
  rw [List.filter_cons]
  simp only [Bool.and_eq_true, beq_iff_eq]
  split
  · rfl
  · rfl

/-- Picks by rotation go round the active heads from the turn on, and each of them moves it by one. -/
theorem cyclic_rotationPicks (events : List RoutingEvent) (r : Router) (hids : (r.registry.listActive m).map Head.id = ids)
    (hkept : Keeps m ids events)
    (hbelow : (r.cursor m).toNat + (rotationPicks m (r.answers events).1).length < 2 ^ 64) :
    Cyclic ids (r.cursor m).toNat (rotationPicks m (r.answers events).1) ∧
      ((r.answers events).2.cursor m).toNat = (r.cursor m).toNat + (rotationPicks m (r.answers events).1).length := by
  induction events generalizing r with
  | nil => exact ⟨Cyclic.nil, rfl⟩
  | cons event events ih =>
      have hrest : Keeps m ids events :=
        fun registry policy cache metrics h => hkept _ _ _ _ (List.mem_cons_of_mem _ h)
      cases event with
      | change registry policy cache metrics =>
          exact ih _ (hkept _ _ _ _ (List.mem_cons_self ..)) hrest hbelow
      | request c tick =>
          have hafter : ((r.decide c tick).2.registry.listActive m).map Head.id = ids := by rwa [decide_registry]
          have hrun := ih (r.decide c tick).2 hafter hrest
          simp only [answers_request, rotationPicks_cons] at hbelow ⊢
          by_cases hmodel : c.modelType = m
          · subst hmodel
            rcases r.decide_turn c tick with ⟨hrotation, hturn, hid⟩ | ⟨hrotation, hturn⟩
            · rw [if_pos ⟨rfl, hrotation⟩, List.length_cons] at hbelow ⊢
              have hsucc : (r.cursor c.modelType + 1).toNat = (r.cursor c.modelType).toNat + 1 := by
                rw [UInt64.toNat_add]
                exact Nat.mod_eq_of_lt (by simp; omega)
              rw [hturn, hsucc] at hrun
              obtain ⟨hcyclic, hcursor⟩ := hrun (by omega)
              rw [candidates, hids] at hid
              exact ⟨hcyclic.cons hid, by omega⟩
            · have hnot : ¬ (c.modelType = c.modelType ∧ (r.decide c tick).1.byRotation = true) := by simp [hrotation]
              rw [if_neg hnot] at hbelow ⊢
              rw [hturn] at hrun
              exact hrun hbelow
          · rw [if_neg fun h => hmodel h.1] at hbelow ⊢
            rw [r.cursor_decide_of_ne c tick hmodel] at hrun
            exact hrun hbelow

/-- **Rotation is fair.** Take any router and any requests, for whatever model types and by whatever strategies, between
which anything but the turns may change as long as the active heads of one model type stay the same ones. Then the picks
by rotation for that model type go round its active heads in the order of registration, from the turn on, so each stretch
of as many picks as there are heads names every one of them once. A request moves the turn by one for a pick by rotation for
the model type, and leaves it alone otherwise: for another model type, for an answer from memory, when there is no active
head, and for a pick that is not by rotation. -/
theorem rotation_fair (r : Router) (m : String) (events : List RoutingEvent)
    (hkept : Keeps m ((r.registry.listActive m).map Head.id) events)
    (hbelow : (r.cursor m).toNat + (rotationPicks m (r.answers events).1).length < 2 ^ 64) :
    let ids := (r.registry.listActive m).map Head.id
    let picks := rotationPicks m (r.answers events).1
    (∀ j < picks.length, picks[j]? = ids[((r.cursor m).toNat + j) % ids.length]?) ∧
      (∀ i, i + ids.length ≤ picks.length → ((picks.drop i).take ids.length).Perm ids) ∧
        ((r.answers events).2.cursor m).toNat = (r.cursor m).toNat + picks.length ∧
          ∀ (t : Router) (c : Criteria) (tick : Nat),
            let d := (t.decide c tick).1
            let after := (t.decide c tick).2.cursor m
            (c.modelType = m → d.byRotation = true → after = t.cursor m + 1) ∧
              (c.modelType ≠ m ∨ d.strategyUsed = cachedName ∨ t.registry.listActive c.modelType = [] ∨
                d.byRotation = false → after = t.cursor m) := by
  intro ids picks
  obtain ⟨hcyclic, hcursor⟩ := cyclic_rotationPicks events r rfl hkept hbelow
  refine ⟨hcyclic, fun i hi => hcyclic.window_perm hi, hcursor, fun t c tick => ?_⟩
  intro d after
  by_cases hmodel : c.modelType = m
  · subst hmodel
    rcases t.decide_turn c tick with ⟨hrotation, hturn, hid⟩ | ⟨hrotation, hturn⟩
    · refine ⟨fun _ _ => hturn, ?_⟩
      rintro (hother | hcached | hnone | hnot)
      · exact absurd rfl hother
      · exact absurd hcached (Decision.strategyUsed_ne_of_byRotation hrotation)
      · rw [candidates, hnone] at hid
        cases hid
      · rw [hrotation] at hnot
        cases hnot
    · refine ⟨fun _ hrotation' => ?_, fun _ => hturn⟩
      rw [hrotation] at hrotation'
      cases hrotation'
  · exact ⟨fun h => absurd h hmodel, fun _ => t.cursor_decide_of_ne c tick hmodel⟩

/-- Three heads are rotated by three strategies, from the second one on. In between the least loaded one is chosen and
remembered, another model type is asked for, and the first head becomes busy. -/
theorem rotation_fair_interleaved :
    let head (id : String) (load : UInt32) : Head :=
      { (default : Head) with id := id, modelType := "m", status := .active, currentLoad := load }
    let busy : Registry := { heads := [head "a" 9, head "b" 0, head "c" 0] }
    let policy : Policy := { geoRouting := false, loadBalancing := false, modelMatching := false }
    let r : Router := { registry := { heads := [head "a" 0, head "b" 0, head "c" 0] }, cursors := .ofList [("m", 4)] }
    let ask (strategy : String) : RoutingEvent := .request { modelType := "m", strategy := some strategy } 1
    let events := [ask "round_robin", ask "least_loaded", ask "least_loaded", .request { modelType := "v" } 2,
      .change busy policy {} {}, ask "geo_preferred", ask "least_loaded", ask "adaptive", ask "round_robin"]
    rotationPicks "m" (r.answers events).1 = ["b", "c", "a", "b"] ∧
      ∀ i, i + 3 ≤ 4 → ((["b", "c", "a", "b"].drop i).take 3).Perm ["a", "b", "c"] := by
  intro head busy policy r ask events
  have hpicks : rotationPicks "m" (r.answers events).1 = ["b", "c", "a", "b"] := by decide +kernel
  have hkept : Keeps "m" ((r.registry.listActive "m").map Head.id) events := by
    intro registry policy cache metrics hmem
    simp only [events, ask, List.mem_cons, reduceCtorEq, RoutingEvent.change.injEq, List.not_mem_nil, false_or,
      or_false] at hmem
    rw [hmem.1]
    decide
  have hbelow : (r.cursor "m").toNat + (rotationPicks "m" (r.answers events).1).length < 2 ^ 64 := by
    rw [hpicks]
    decide +kernel
  obtain ⟨-, hwindows, -⟩ := r.rotation_fair "m" events hkept hbelow
  refine ⟨hpicks, fun i hi => ?_⟩
  rw [hpicks] at hwindows
  exact hwindows i hi

end Router

end FleetRouting
