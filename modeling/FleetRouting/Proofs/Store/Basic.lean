import FleetRouting.Proofs.SortedMap
import FleetRouting.Store.Basic
/-!
# FleetRouting.Proofs.Store.Basic

**What a computation leaves in the store, wherever it stops.** `Store.Ensures` relates the contents before a computation
to those after it, for an answer and for a failure; any call may fail, so a computation of several calls has to ensure
its failure condition after each of them. Beside the rules for it stands what the calls do to the members of sets.
-/

namespace FleetRouting

/-! ### Members of sets -/

namespace Contents

/-- A member of the set under a key. -/
def HasMember (c : Contents) (key member : String) : Prop := member ∈ (c.membersOf key).keys

theorem hasMember_addMember {c : Contents} {key member key' member' : String} :
    (c.addMember key member).HasMember key' member' ↔ key' = key ∧ member' = member ∨ c.HasMember key' member' := by
  unfold HasMember
  by_cases hkey : key' = key
  · subst hkey
    have hset : (c.addMember key' member).membersOf key' = (c.membersOf key').insert member () := by
      simp only [membersOf, addMember, SortedMap.get?_insert_self, Option.getD_some]
    rw [hset, SortedMap.mem_keys_insert]
    simp
  · have hset : (c.addMember key member).membersOf key' = c.membersOf key' := by
      simp only [membersOf, addMember, SortedMap.get?_insert_of_ne _ _ hkey]
    rw [hset]
    simp [hkey]

/-- The set that is left under a key, whether or not it is stored. -/
theorem membersOf_removeMember_self (c : Contents) (key member : String) :
    ((c.removeMember key member).membersOf key).keys = ((c.membersOf key).erase member).keys := by
  simp only [removeMember]
  split
  · next hempty =>
      -- a set without members is not stored, and read as an empty one
      rw [SortedMap.keys_eq_nil_of_isEmpty hempty]
      simp only [membersOf, SortedMap.get?_erase_self, Option.getD_none]
      rfl
  · simp only [membersOf, SortedMap.get?_insert_self, Option.getD_some]

theorem membersOf_removeMember_of_ne (c : Contents) {key key' : String} (member : String) (h : key' ≠ key) :
    (c.removeMember key member).membersOf key' = c.membersOf key' := by
  simp only [removeMember]
  split
  · simp only [membersOf, SortedMap.get?_erase_of_ne _ h]
  · simp only [membersOf, SortedMap.get?_insert_of_ne _ _ h]

theorem hasMember_removeMember {c : Contents} {key member key' member' : String} :
    (c.removeMember key member).HasMember key' member' ↔ c.HasMember key' member' ∧ ¬ (key' = key ∧ member' = member) := by
  unfold HasMember
  by_cases hkey : key' = key
  · subst hkey
    rw [membersOf_removeMember_self, SortedMap.mem_keys_erase, and_comm]
    simp
  · rw [membersOf_removeMember_of_ne c member hkey]
    simp [hkey]

end Contents

/-! ### Computations that may fail -/

namespace Store

variable {α β : Type} {P : Contents → Prop} {Q : α → Contents → Prop} {E : Contents → Prop}

/-- A call that does not fail has its effect. -/
theorem run_perform_ok {call : Call} (effect : Contents → α × Contents) {s : Store} (h : s.outage s.calls call = none) :
    (perform call effect).run s =
      (.ok (effect s.contents).1, { s with calls := s.calls + 1, contents := (effect s.contents).2 }) := by
  show perform call effect s = _
  simp only [perform, h]

/-- A call that fails has none. -/
theorem run_perform_error {call : Call} (effect : Contents → α × Contents) {s : Store} {e : StoreError}
    (h : s.outage s.calls call = some e) : (perform call effect).run s = (.error e, { s with calls := s.calls + 1 }) := by
  show perform call effect s = _
  simp only [perform, h]

/-- After an answer the computation goes on. -/
theorem run_bind_ok {action : StoreM α} {next : α → StoreM β} {s t : Store} {a : α} (h : action.run s = (.ok a, t)) :
    (action >>= next).run s = (next a).run t := by
  show (match action.run s with | (answer, t) => ExceptT.bindCont next answer t) = _
  rw [h]
  rfl

/-- After a failure it does not. -/
theorem run_bind_error {action : StoreM α} {next : α → StoreM β} {s t : Store} {e : StoreError}
    (h : action.run s = (.error e, t)) : (action >>= next).run s = (.error e, t) := by
  show (match action.run s with | (answer, t) => ExceptT.bindCont next answer t) = _
  rw [h]
  rfl

/-- What is left after an answer satisfies `Q`, and what is left after a failure satisfies `E`. -/
def Leaves (Q : α → Contents → Prop) (E : Contents → Prop) : Except StoreError α × Store → Prop
  | (.ok a, s) => Q a s.contents
  | (.error _, s) => E s.contents

/-- From contents that satisfy `P`, a computation ends with an answer and contents that satisfy `Q`, or fails and leaves
contents that satisfy `E`. -/
def Ensures (P : Contents → Prop) (action : StoreM α) (Q : α → Contents → Prop) (E : Contents → Prop) : Prop :=
  ∀ s : Store, P s.contents → Leaves Q E (action.run s)

theorem ensures_pure {a : α} (h : ∀ c, P c → Q a c) : Ensures P (pure a) Q E := fun s hs => h s.contents hs

theorem ensures_throw {e : StoreError} (h : ∀ c, P c → E c) : Ensures P (throw e : StoreM α) Q E :=
  fun s hs => h s.contents hs

/-- A call has its effect, or none. -/
theorem ensures_perform {call : Call} {effect : Contents → α × Contents}
    (hdone : ∀ c, P c → Q (effect c).1 (effect c).2) (hfailed : ∀ c, P c → E c) :
    Ensures P (perform call effect) Q E := by
  intro s hs
  show Leaves Q E (perform call effect s)
  unfold perform
  cases s.outage s.calls call with
  | some e => exact hfailed _ hs
  | none => exact hdone _ hs

namespace Ensures

variable {action : StoreM α}

/-- What the first computation ensures, the second may start from. -/
theorem bind {next : α → StoreM β} {R : β → Contents → Prop} (h : Ensures P action Q E)
    (hnext : ∀ a, Ensures (Q a) (next a) R E) : Ensures P (action >>= next) R E := by
  intro s hs
  have haction := h s hs
  -- the second computation runs after an answer of the first, and not after its failure
  show Leaves R E (match action.run s with | (answer, t) => ExceptT.bindCont next answer t)
  generalize action.run s = result at haction ⊢
  rcases result with ⟨_ | a, t⟩
  · exact haction
  · exact hnext a t haction

/-- What is known about the contents beside the precondition may be used. -/
theorem of_fact {p : Prop} (h : p → Ensures P action Q E) : Ensures (fun c => p ∧ P c) action Q E :=
  fun s hs => h hs.1 s hs.2

theorem mono {P' : Contents → Prop} {Q' : α → Contents → Prop} {E' : Contents → Prop} (h : Ensures P action Q E)
    (hP : ∀ c, P' c → P c) (hQ : ∀ a c, Q a c → Q' a c) (hE : ∀ c, E c → E' c) : Ensures P' action Q' E' := by
  intro s hs
  have haction := h s (hP _ hs)
  generalize action.run s = result at haction ⊢
  rcases result with ⟨_ | a, t⟩
  · exact hE _ haction
  · exact hQ a _ haction

end Ensures

/-! ### Stores that work -/

/-- Over a store none of whose calls fails, from contents that satisfy `P`, a computation gives an answer, and contents
that satisfy `Q`. -/
def Answers (P : Contents → Prop) (action : StoreM α) (Q : α → Contents → Prop) : Prop :=
  ∀ s : Store, s.outage = .none → P s.contents →
    ∃ a t, action.run s = (.ok a, t) ∧ t.outage = .none ∧ Q a t.contents

theorem answers_pure {a : α} (h : ∀ c, P c → Q a c) : Answers P (pure a) Q :=
  fun s hworks hs => ⟨a, s, rfl, hworks, h s.contents hs⟩

/-- Of a call that has its effect the effect is known. -/
theorem answers_perform {call : Call} {effect : Contents → α × Contents} (h : ∀ c, P c → Q (effect c).1 (effect c).2) :
    Answers P (perform call effect) Q :=
  fun s hworks hs => ⟨_, _, run_perform_ok effect (by rw [hworks, Outage.none]), hworks, h _ hs⟩

/-- After the answer of the first computation the second one runs. -/
theorem Answers.bind {action : StoreM α} {next : α → StoreM β} {R : β → Contents → Prop} (h : Answers P action Q)
    (hnext : ∀ a, Answers (Q a) (next a) R) : Answers P (action >>= next) R := by
  intro s hworks hs
  obtain ⟨a, t, hrun, hworks, ht⟩ := h s hworks hs
  obtain ⟨b, u, hrun', hu⟩ := hnext a t hworks ht
  exact ⟨b, u, (run_bind_ok hrun).trans hrun', hu⟩

/-- What is known about the contents beside the precondition may be used. -/
theorem Answers.of_fact {action : StoreM α} {p : Prop} (h : p → Answers P action Q) :
    Answers (fun c => p ∧ P c) action Q :=
  fun s hworks hs => h hs.1 s hworks hs.2

/-! ### Calls that are made -/

/-- A computation makes at least so many calls, whether or not they fail. -/
def Costs (n : Nat) (action : StoreM α) : Prop := ∀ s : Store, s.calls + n ≤ (action.run s).2.calls

theorem costs_pure (a : α) : Costs 0 (pure a) := fun _ => Nat.le_refl _

theorem costs_throw (e : StoreError) : Costs 0 (throw e : StoreM α) := fun _ => Nat.le_refl _

theorem costs_perform (call : Call) (effect : Contents → α × Contents) : Costs 1 (perform call effect) := by
  intro s
  show s.calls + 1 ≤ (perform call effect s).2.calls
  unfold perform
  cases s.outage s.calls call with
  | some e => exact Nat.le_refl _
  | none => exact Nat.le_refl _

theorem Costs.mono {action : StoreM α} {m n : Nat} (h : Costs n action) (hle : m ≤ n) : Costs m action :=
  fun s => Nat.le_trans (Nat.add_le_add_left hle _) (h s)

/-- What the second computation calls comes on top. -/
theorem Costs.bind {action : StoreM α} {next : α → StoreM β} {n : Nat} (h : Costs n action)
    (hnext : ∀ a, Costs 0 (next a)) : Costs n (action >>= next) := by
  intro s
  have haction := h s
  show _ ≤ (match action.run s with | (answer, t) => ExceptT.bindCont next answer t).2.calls
  generalize action.run s = result at haction ⊢
  rcases result with ⟨_ | a, t⟩
  · exact haction
  · exact Nat.le_trans haction (hnext a t)

end Store

end FleetRouting
