import FleetRouting.Proofs.Registry
import FleetRouting.Proofs.Run
import FleetRouting.Proofs.Text.Fold
/-!
# FleetRouting.Proofs.Announcement

**What is refused leaves no trace, and what is done is announced once.** A command is refused for two reasons only: a
field that must say something is blank, or the head it is about is not known. Then the service stays as it is in every
part. All other commands are announced as `Announces` says: one event for each head that changed, one for a policy, one
for a decision that names a head. These are the events that reach the bus, whether or not the change could be written
(`Service.respond_announced`).
-/

namespace FleetRouting

/-! ### Blank fields -/

namespace Service

theorem blank?_eq_none {fields : List (String × String)} :
    blank? fields = none ↔ ∀ f ∈ fields, Text.trim f.2 ≠ "" := by
  simp only [blank?, Option.map_eq_none_iff, List.find?_eq_none, Text.isBlankText_iff, ne_eq]

theorem blank?_eq_some {fields : List (String × String)} {e : FleetError} (h : blank? fields = some e) :
    (∃ field, e = .blankField field) ∧ ∃ f ∈ fields, Text.trim f.2 = "" := by
  obtain ⟨f, hfind, rfl⟩ := Option.map_eq_some_iff.1 h
  have hblank := List.find?_some (p := fun f : String × String => Text.isBlankText f.2) hfind
  exact ⟨⟨f.1, rfl⟩, f, List.mem_of_find?_eq_some hfind, Text.isBlankText_iff.1 hblank⟩

end Service

/-! ### The heads that a sweep takes out of routing -/

namespace Registry

/-- The heads that were active in `before` and are not in `after`, as they are there, in registration order. -/
def retired (before after : Registry) : List Head :=
  ((before.heads.zip after.heads).filter fun p => p.1.isActive && !p.2.isActive).map Prod.snd

/-- Looking for silent heads tells those that it takes out of routing. -/
theorem retired_markStale (r : Registry) (now : Timestamp) (timeout : Int) (order : List String) :
    r.retired (r.markStale now timeout order).2 = (r.markStale now timeout order).1 := by
  have hlost (h : Head) : (h.isActive &&
      !(retire (isStale · now timeout) (r.found now timeout order) r.lastRevision h).isActive) = isStale h now timeout := by
    cases hstale : isStale h now timeout with
    | true =>
        have hactive : h.isActive = true := (Bool.and_eq_true_iff.1 hstale).1
        rw [retire_of_stale _ _ _ hstale, hactive]
        rfl
    | false => rw [retire_of_not_stale _ _ _ hstale, Bool.and_not_self]
  rw [retired, heads_markStale, ← List.map_prod_left_eq_zip, List.filter_map, List.map_map]
  simp only [Function.comp_def, hlost]
  rfl

end Registry

/-! ### Refusals and announcements -/

/-- A field of the command that must say something is blank. -/
def Command.LeavesBlank : Command → Prop
  | .register q => Text.trim q.headId = "" ∨ Text.trim q.endpoint = "" ∨ Text.trim q.modelType = ""
  | .update q => Text.trim q.headId = ""
  | .deregister id => Text.trim id = ""
  | _ => False

/-- The command is about a head that is not known. -/
def Command.NamesUnknown (r : Registry) : Command → Prop
  | .update q => Text.trim q.headId ≠ "" ∧ ∀ h ∈ r.heads, h.id ≠ q.headId
  | .deregister id => Text.trim id ≠ "" ∧ ∀ h ∈ r.heads, h.id ≠ id
  | _ => False

/-- The events that announce a command which was done: it led from `s` to `t` and gave `answer`, with or without the
write. -/
inductive Announces (s t : Service) (now : Moment) : Command → Answer → List FleetEvent → Prop where
  | registered {q : Registration} {h : Head} {result : Except FleetError Head}
      (known : t.router.registry.get? q.headId = some h) (kept : Kept h result) :
      Announces s t now (.register q) (.head result) [.registered h]
  | updated {q : StatusReport} {h : Head} {result : Except FleetError Head}
      (known : t.router.registry.get? q.headId = some h) (kept : Kept h result) :
      Announces s t now (.update q) (.head result) [.statusChanged h]
  | deregistered {id : String} {h : Head} {result : Except FleetError Head}
      (known : t.router.registry.get? id = some h) (kept : Kept h result) :
      Announces s t now (.deregister id) (.head result) [.statusChanged h]
  /-- Each head that was taken out of routing is announced; the others are as they were. -/
  | swept (timeout : Duration) (order : List String)
      (aligned : t.router.registry.heads.map Head.id = s.router.registry.heads.map Head.id) :
      Announces s t now (.sweep timeout order) (.swept (s.router.registry.retired t.router.registry).length)
        ((s.router.registry.retired t.router.registry).map .statusChanged)
  | policySet {policy : Policy} {result : Except FleetError Unit} (inForce : t.router.policy = policy)
      (kept : Kept () result) :
      Announces s t now (.setPolicy policy) (.policy result) [.policyUpdated policy.defaultStrategy now.wall]
  | decided {decisionId : Uuid} {c : Criteria} {d : Decision} (hd : d.isEmpty = false) :
      Announces s t now (.route decisionId c) (.decision d)
        [.routingDecided decisionId c.modelType d.headId d.strategyUsed now.wall]
  | undecided {decisionId : Uuid} {c : Criteria} {d : Decision} (hd : d.isEmpty = true) :
      Announces s t now (.route decisionId c) (.decision d) []
  | passed (wall : Timestamp) (nanos : Nat) : Announces s t now (.advance wall nanos) .silence []

theorem Command.NamesUnknown.not_blank {r : Registry} {c : Command} (h : c.NamesUnknown r) : ¬c.LeavesBlank := by
  cases c with
  | update q => exact h.1
  | deregister id => exact h.1
  | _ => exact h.elim

/-- What is announced was not refused: an error tells of a lost write. -/
theorem Announces.isLostWrite {s t : Service} {now : Moment} {c : Command} {e : FleetError} {events : List FleetEvent}
    (h : Announces s t now c (.head (.error e)) events) : e.isLostWrite = true := by
  have hlost {a : Head} (hkept : Kept a (.error e)) : e.isLostWrite = true := by
    rcases hkept with hkept | ⟨e', he', hkept⟩
    · cases hkept
    · obtain rfl := Except.error.inj hkept
      exact he'
  cases h with
  | registered _ hkept => exact hlost hkept
  | updated _ hkept => exact hlost hkept
  | deregistered _ hkept => exact hlost hkept

namespace Service

/-- How a command is answered that leads from `s` to `t`. -/
structure Announced (s : Service) (now : Moment) (c : Command) (answer : Answer) (t : Service) : Prop where
  blank : (∃ field, answer = .head (.error (.blankField field))) ↔ c.LeavesBlank
  unknown : (∃ id, answer = .head (.error (.headNotFound id))) ↔ c.NamesUnknown s.router.registry
  /-- What is refused changes nothing, and is not announced. -/
  refused : c.LeavesBlank ∨ c.NamesUnknown s.router.registry → t = s
  /-- All else is announced. -/
  accepted : ¬c.LeavesBlank → ¬c.NamesUnknown s.router.registry →
    ∃ events, Announces s t now c answer events ∧ t.bus = events.foldl Bus.publish s.bus

namespace Announced

variable {s t : Service} {now : Moment} {c : Command} {answer : Answer}

theorem of_blank (field : String) (h : c.LeavesBlank) : s.Announced now c (.head (.error (.blankField field))) s where
  blank := ⟨fun _ => h, fun _ => ⟨field, rfl⟩⟩
  unknown := ⟨fun ⟨_, hanswer⟩ => (nomatch hanswer), fun hunknown => absurd h hunknown.not_blank⟩
  refused _ := rfl
  accepted hblank := absurd h hblank

theorem of_unknown (id : String) (h : c.NamesUnknown s.router.registry) :
    s.Announced now c (.head (.error (.headNotFound id))) s where
  blank := ⟨fun ⟨_, hanswer⟩ => (nomatch hanswer), fun hblank => absurd hblank h.not_blank⟩
  unknown := ⟨fun _ => h, fun _ => ⟨id, rfl⟩⟩
  refused _ := rfl
  accepted _ hknown := absurd h hknown

theorem of_announces {events : List FleetEvent} (hblank : ¬c.LeavesBlank) (hknown : ¬c.NamesUnknown s.router.registry)
    (h : Announces s t now c answer events) (hbus : t.bus = events.foldl Bus.publish s.bus) :
    s.Announced now c answer t where
  blank := by
    refine ⟨?_, fun h => absurd h hblank⟩
    rintro ⟨field, rfl⟩
    cases h.isLostWrite
  unknown := by
    refine ⟨?_, fun h => absurd h hknown⟩
    rintro ⟨id, rfl⟩
    cases h.isLostWrite
  refused hor := absurd hor (not_or.2 ⟨hblank, hknown⟩)
  accepted _ _ := ⟨events, h, hbus⟩

/-- A change of one head that was done is announced with the head as it is known from then on. -/
theorem of_follows {o : Outcome} {id : String} {h : Head} {event : FleetEvent} (hfollows : s.Follows o (answer, t))
    (hanswer : o.answer = .head (.ok h)) (hevents : o.events = [event]) (hhead : o.router.registry.get? id = some h)
    (hblank : ¬c.LeavesBlank) (hknown : ¬c.NamesUnknown s.router.registry)
    (announces : ∀ result, t.router.registry.get? id = some h → Kept h result →
      Announces s t now c (.head result) [event]) : s.Announced now c answer t := by
  obtain ⟨hstems, hrouter, hbus⟩ := hfollows
  rw [hanswer] at hstems
  cases hstems with
  | head hkept => exact .of_announces hblank hknown (announces _ (hrouter.registry ▸ hhead) hkept) (hevents ▸ hbus)

end Announced

section

variable (s : Service) (now : Moment)

theorem announced_register (q : Registration) :
    s.Announced now (.register q) (s.respond now (.register q)).1 (s.respond now (.register q)).2 := by
  have hfollows := s.respond_follows now (.register q)
  simp only [Router.outcome] at hfollows
  cases hblank : blank? [("head_id", q.headId), ("endpoint", q.endpoint), ("model_type", q.modelType)] with
  | some e =>
      obtain ⟨⟨field, rfl⟩, hfield⟩ := blank?_eq_some hblank
      simp only [respond, register, hblank]
      exact .of_blank field (by simpa [Command.LeavesBlank] using hfield)
  | none =>
      have hfields := blank?_eq_none.1 hblank
      rw [hblank] at hfollows
      exact .of_follows hfollows rfl rfl (s.router.registry.get?_register q now.wall)
        (by simpa [Command.LeavesBlank] using hfields) id fun _ hhead hkept => .registered hhead hkept

theorem announced_update (q : StatusReport) :
    s.Announced now (.update q) (s.respond now (.update q)).1 (s.respond now (.update q)).2 := by
  have hfollows := s.respond_follows now (.update q)
  simp only [Router.outcome, Router.report?] at hfollows
  cases hblank : blank? [("head_id", q.headId)] with
  | some e =>
      obtain ⟨⟨field, rfl⟩, hfield⟩ := blank?_eq_some hblank
      simp only [respond, update, hblank]
      exact .of_blank field (by simpa [Command.LeavesBlank] using hfield)
  | none =>
      have hid : Text.trim q.headId ≠ "" := blank?_eq_none.1 hblank ("head_id", q.headId) (List.mem_singleton_self _)
      rw [hblank] at hfollows
      cases hchange : s.router.registry.update? q.headId q.status q.currentLoad (q.reportedAt now.wall) with
      | none =>
          simp only [respond, update, hblank, hchange]
          exact .of_unknown q.headId ⟨hid, Registry.change?_eq_none.1 hchange⟩
      | some result =>
          rw [hchange] at hfollows
          have hknown : ¬(Command.update q).NamesUnknown s.router.registry := fun hunknown => by
            rw [Registry.update?, Registry.change?_eq_none.2 hunknown.2] at hchange
            cases hchange
          have hhead := Registry.get?_change? hchange fun _ => rfl
          exact .of_follows hfollows rfl rfl hhead hid hknown fun _ hhead hkept => .updated hhead hkept

theorem announced_deregister (id : String) :
    s.Announced now (.deregister id) (s.respond now (.deregister id)).1 (s.respond now (.deregister id)).2 := by
  have hfollows := s.respond_follows now (.deregister id)
  simp only [Router.outcome] at hfollows
  cases hblank : blank? [("head_id", id)] with
  | some e =>
      obtain ⟨⟨field, rfl⟩, hfield⟩ := blank?_eq_some hblank
      simp only [respond, deregister, hblank]
      exact .of_blank field (by simpa [Command.LeavesBlank] using hfield)
  | none =>
      have hid : Text.trim id ≠ "" := blank?_eq_none.1 hblank ("head_id", id) (List.mem_singleton_self _)
      rw [hblank] at hfollows
      cases hchange : s.router.registry.deactivate? id with
      | none =>
          simp only [respond, deregister, hblank, hchange]
          exact .of_unknown id ⟨hid, Registry.change?_eq_none.1 hchange⟩
      | some result =>
          rw [hchange] at hfollows
          have hknown : ¬(Command.deregister id).NamesUnknown s.router.registry := fun hunknown => by
            rw [Registry.deactivate?, Registry.change?_eq_none.2 hunknown.2] at hchange
            cases hchange
          have hhead := Registry.get?_change? hchange fun _ => rfl
          exact .of_follows hfollows rfl rfl hhead hid hknown fun _ hhead hkept => .deregistered hhead hkept

theorem announces_sweep (timeout : Duration) (order : List String) :
    Announces s (s.respond now (.sweep timeout order)).2 now (.sweep timeout order)
      (s.respond now (.sweep timeout order)).1 (s.router.outcome now (.sweep timeout order)).events := by
  have hfollows := s.respond_follows now (.sweep timeout order)
  have hregistry : (s.respond now (.sweep timeout order)).2.router.registry =
      (s.router.registry.markStale now.wall timeout order).2 := hfollows.router.registry
  have hretired := s.router.registry.retired_markStale now.wall timeout order
  rw [← hregistry] at hretired
  have hanswer : (s.respond now (.sweep timeout order)).1 =
      .swept (s.router.registry.markStale now.wall timeout order).1.length := rfl
  rw [hanswer]
  simp only [Router.outcome]
  rw [← hretired]
  refine .swept timeout order ?_
  rw [hregistry, Registry.heads_markStale]
  exact Registry.ids_retire _ _ _ _

/-- **Every command is either refused without a trace, for one of two reasons, or is done and announced.** The writes do
not matter to that: what is done is announced though the store fails or its circuit is open. -/
theorem respond_announced (c : Command) : s.Announced now c (s.respond now c).1 (s.respond now c).2 := by
  have hfollows := s.respond_follows now c
  cases c with
  | register q => exact announced_register s now q
  | update q => exact announced_update s now q
  | deregister id => exact announced_deregister s now id
  | sweep timeout order => exact .of_announces id id (announces_sweep s now timeout order) hfollows.bus
  | setPolicy policy =>
      obtain ⟨hstems, hrouter, hbus⟩ := hfollows
      generalize (s.respond now (.setPolicy policy)).1 = answer at hstems
      cases hstems with
      | policy hkept => exact .of_announces id id (.policySet hrouter.policy hkept) hbus
  | route decisionId c =>
      have hanswer : (s.respond now (.route decisionId c)).1 = .decision (s.router.decide c now.tick).1 :=
        congrArg Answer.decision (route_decision s now decisionId c)
      obtain ⟨-, -, hbus⟩ := hfollows
      rw [hanswer]
      simp only [Router.outcome, Router.decided] at hbus
      cases hempty : (s.router.decide c now.tick).1.isEmpty with
      | true =>
          rw [hempty] at hbus
          exact .of_announces id id (.undecided hempty) hbus
      | false =>
          rw [hempty] at hbus
          exact .of_announces id id (.decided hempty) hbus
  | advance wall nanos => exact .of_announces id id (.passed wall nanos) rfl

end

end Service

end FleetRouting
