import FleetRouting.Json.Decode
import FleetRouting.Proofs.Json.Reader
import FleetRouting.Proofs.Sequence
import FleetRouting.Proofs.SortedMap
import Mathlib.Data.List.Perm.Basic
/-!
# FleetRouting.Proofs.Json.Reordering

**Values with their members in another order.** `Json.Reorders` relates a value to those that have the members of its
objects in any order. What a value decodes to in all of them is what it yields (`Json.Yields`): a map yields the same
map, since that is sorted when it is made (`Json.yields_dict`). What a value yields is also what its texts decode to
(`Json.Yields.survives`).
-/

namespace FleetRouting

open Json

namespace Json

/-! ### Values in another order -/

mutual

/-- `k` is `j` with the members of its objects in any order. -/
def Reorders : Json → Json → Prop
  | .object members, k => ∃ changed moved, MembersReorder members changed ∧ moved.Perm changed ∧ k = .object moved
  | .array items, k => ∃ changed, ItemsReorder items changed ∧ k = .array changed
  | j, k => k = j

/-- `Reorders` for the items of an array, which stay in their places. -/
def ItemsReorder : List Json → List Json → Prop
  | [], changed => changed = []
  | j :: items, changed => ∃ k rest, Reorders j k ∧ ItemsReorder items rest ∧ changed = k :: rest

/-- `Reorders` for the values of members. -/
def MembersReorder : List (Option String × Json) → List (Option String × Json) → Prop
  | [], changed => changed = []
  | (name, j) :: members, changed =>
    ∃ k rest, Reorders j k ∧ MembersReorder members rest ∧ changed = (name, k) :: rest

end

mutual

/-- The order that a value has is one of its orders. -/
theorem reorders_refl (j : Json) : j.Reorders j := by
  cases j with
  | object members => exact ⟨members, members, membersReorder_refl members, .refl _, rfl⟩
  | array items => exact ⟨items, itemsReorder_refl items, rfl⟩
  | _ => exact rfl

theorem itemsReorder_refl (items : List Json) : ItemsReorder items items := by
  cases items with
  | nil => exact rfl
  | cons j items => exact ⟨j, items, reorders_refl j, itemsReorder_refl items, rfl⟩

theorem membersReorder_refl (members : List (Option String × Json)) : MembersReorder members members := by
  cases members with
  | nil => exact rfl
  | cons m members =>
      obtain ⟨name, j⟩ := m
      exact ⟨j, members, reorders_refl j, membersReorder_refl members, rfl⟩

end

theorem itemsReorder_iff {items changed : List Json} : ItemsReorder items changed ↔ List.Forall₂ Reorders items changed := by
  induction items generalizing changed with
  | nil => exact (List.forall₂_nil_left_iff).symm
  | cons j items ih =>
      rw [List.forall₂_cons_left_iff]
      constructor
      · rintro ⟨k, rest, hk, hrest, rfl⟩
        exact ⟨k, rest, hk, ih.1 hrest, rfl⟩
      · rintro ⟨k, rest, hk, hrest, rfl⟩
        exact ⟨k, rest, hk, ih.2 hrest, rfl⟩

/-- The same name with a value in another order. -/
def MemberReorders {ν : Type} (m n : ν × Json) : Prop := m.1 = n.1 ∧ m.2.Reorders n.2

theorem membersReorder_iff {members changed : List (Option String × Json)} :
    MembersReorder members changed ↔ List.Forall₂ MemberReorders members changed := by
  induction members generalizing changed with
  | nil => exact (List.forall₂_nil_left_iff).symm
  | cons m members ih =>
      rw [List.forall₂_cons_left_iff]
      constructor
      · rintro ⟨k, rest, hk, hrest, rfl⟩
        exact ⟨(m.1, k), rest, ⟨rfl, hk⟩, ih.1 hrest, rfl⟩
      · rintro ⟨⟨name, k⟩, rest, ⟨rfl, hk⟩, hrest, rfl⟩
        exact ⟨k, rest, hk, ih.2 hrest, rfl⟩

/-- The object of some members may have them in any order, each with its value in another order. -/
theorem reorders_obj {members : List (String × Json)} {k : Json} (h : (obj members).Reorders k) :
    ∃ changed moved : List (String × Json),
      List.Forall₂ MemberReorders members changed ∧ moved.Perm changed ∧ k = obj moved := by
  obtain ⟨found, shuffled, hfound, hperm, rfl⟩ := h
  have hnamed : ∀ {l : List (Option String × Json)} {members : List (String × Json)},
      List.Forall₂ MemberReorders (members.map fun m => (some m.1, m.2)) l →
      ∃ changed, List.Forall₂ MemberReorders members changed ∧ List.Forall₂ (fun a b => a = (some b.1, b.2)) l changed := by
    intro l members h
    induction members generalizing l with
    | nil =>
        obtain rfl := List.forall₂_nil_left_iff.1 h
        exact ⟨[], .nil, .nil⟩
    | cons m members ih =>
        obtain ⟨⟨name, k⟩, rest, ⟨hname, hk⟩, hrest, rfl⟩ := List.forall₂_cons_left_iff.1 h
        obtain ⟨changed, hchanged, hl⟩ := ih hrest
        exact ⟨(m.1, k) :: changed, .cons ⟨rfl, hk⟩ hchanged, .cons (Prod.ext hname.symm rfl) hl⟩
  obtain ⟨changed, hchanged, hl⟩ := hnamed (membersReorder_iff.1 hfound)
  obtain ⟨moved, hmoved, hperm⟩ := List.perm_comp_forall₂ hperm hl
  refine ⟨changed, moved, hchanged, hperm, congrArg Json.object ?_⟩
  rw [← List.forall₂_eq_eq_eq, List.forall₂_map_right_iff]
  exact hmoved

/-- `reorders_obj` member by member. -/
theorem reorders_obj_mem {members : List (String × Json)} {k : Json} (h : (obj members).Reorders k) :
    ∃ moved : List (String × Json), (moved.map Prod.fst).Perm (members.map Prod.fst) ∧
      (∀ m ∈ moved, ∃ n ∈ members, MemberReorders n m) ∧ (∀ n ∈ members, ∃ m ∈ moved, MemberReorders n m) ∧
      k = obj moved := by
  obtain ⟨changed, moved, hchanged, hperm, rfl⟩ := reorders_obj h
  have hnames : members.map Prod.fst = changed.map Prod.fst := by
    rw [← List.forall₂_eq_eq_eq, List.forall₂_map_left_iff, List.forall₂_map_right_iff]
    exact hchanged.imp fun _ _ hm => hm.1
  refine ⟨moved, hnames ▸ hperm.map Prod.fst, fun m hm => ?_, fun n hn => ?_, rfl⟩
  · exact exists_mem_of_forall₂ hchanged m (hperm.mem_iff.1 hm)
  · obtain ⟨m, hm, hvalue⟩ := exists_mem_of_forall₂ hchanged.flip n hn
    exact ⟨m, hperm.mem_iff.2 hm, hvalue⟩

/-- The members of an object may stand in any order. -/
theorem reorders_of_perm {members moved : List (String × Json)} (h : moved.Perm members) :
    (obj members).Reorders (obj moved) :=
  ⟨_, _, membersReorder_refl _, h.map _, rfl⟩

theorem plainMembers_iff {members : List (Option String × Json)} :
    PlainMembers members ↔ ∀ m ∈ members, m.1.isSome ∧ m.2.Plain := by
  induction members with
  | nil => exact iff_of_true trivial nofun
  | cons m members ih =>
      rw [List.forall_mem_cons, ← ih]
      exact and_assoc.symm

mutual

/-- What a value is made of is plain in any order. -/
theorem plain_of_reorders (j : Json) (hj : j.Plain) {k : Json} (h : j.Reorders k) : k.Plain := by
  cases j with
  | object members =>
      obtain ⟨changed, moved, hchanged, hperm, rfl⟩ := h
      have hplain := plainMembers_iff.1 (plainMembers_of_reorder members hj hchanged)
      exact plainMembers_iff.2 fun m hm => hplain m (hperm.mem_iff.1 hm)
  | array items =>
      obtain ⟨changed, hchanged, rfl⟩ := h
      exact plainItems_of_reorder items hj hchanged
  | _ => exact h ▸ hj

theorem plainItems_of_reorder (items : List Json) (hitems : PlainItems items) {changed : List Json}
    (h : ItemsReorder items changed) : PlainItems changed := by
  cases items with
  | nil => exact h ▸ trivial
  | cons j items =>
      obtain ⟨k, rest, hk, hrest, rfl⟩ := h
      exact ⟨plain_of_reorders j hitems.1 hk, plainItems_of_reorder items hitems.2 hrest⟩

theorem plainMembers_of_reorder (members : List (Option String × Json)) (hmembers : PlainMembers members)
    {changed : List (Option String × Json)} (h : MembersReorder members changed) : PlainMembers changed := by
  cases members with
  | nil => exact h ▸ trivial
  | cons m members =>
      obtain ⟨name, j⟩ := m
      obtain ⟨k, rest, hk, hrest, rfl⟩ := h
      exact ⟨hmembers.1, plain_of_reorders j hmembers.2.1 hk, plainMembers_of_reorder members hmembers.2.2 hrest⟩

end

/-! ### What a value yields -/

/-- In whatever order the members of its objects stand, `j` decodes to `a`. -/
def Yields {α : Type} (decode : Decoder Json α) (j : Json) (a : α) : Prop := ∀ k, j.Reorders k → decode k = .ok a

/-- Every text of `j`, with the members of its objects in any order, decodes to `a`. -/
def Survives {α : Type} (j : Json) (decode : Decoder Json α) (a : α) : Prop :=
  ∀ k, j.Reorders k → decodeText decode k.toText = .ok a

/-- **What a value yields survives in its texts,** which are read as the value that was printed. -/
theorem Yields.survives {α : Type} {decode : Decoder Json α} {j : Json} {a : α} (h : Yields decode j a) (hj : j.Plain) :
    j.Survives decode a := by
  intro k hk
  rw [decodeText, read_toText (plain_of_reorders j hj hk), h k hk]

theorem Survives.decodeText_eq {α : Type} {decode : Decoder Json α} {j : Json} {a : α} (h : j.Survives decode a) :
    decodeText decode j.toText = .ok a := h j (reorders_refl j)

/-- A value without parts. -/
def IsScalar : Json → Prop
  | .object _ => False
  | .array _ => False
  | _ => True

/-- Where there are no parts there is one order. -/
theorem eq_of_isScalar {j k : Json} (hj : j.IsScalar) (h : j.Reorders k) : k = j := by
  cases j with
  | object members => cases hj
  | array items => cases hj
  | _ => exact h

/-- Of an object whose values have no parts, only the members themselves may stand in another order. -/
theorem reorders_obj_of_isScalar {members : List (String × Json)} (hmembers : ∀ m ∈ members, m.2.IsScalar) {k : Json}
    (h : (obj members).Reorders k) : ∃ moved : List (String × Json), moved.Perm members ∧ k = obj moved := by
  obtain ⟨changed, moved, hchanged, hperm, rfl⟩ := reorders_obj h
  have hboth := (List.forall₂_and_left members changed).2 ⟨hmembers, hchanged⟩
  have hsame : members = changed := by
    rw [← List.forall₂_eq_eq_eq]
    exact hboth.imp fun _ _ ⟨hscalar, hname, hvalue⟩ => Prod.ext hname (eq_of_isScalar hscalar hvalue).symm
  exact ⟨moved, hsame ▸ hperm, rfl⟩

theorem yields_of_isScalar {α : Type} {decode : Decoder Json α} {j : Json} {a : α} (hj : j.IsScalar)
    (h : decode j = .ok a) : Yields decode j a := fun _ hk => (eq_of_isScalar hj hk).symm ▸ h

/-- The items of an encoded list decode one by one. -/
theorem yields_list {α : Type} {decode : Decoder Json α} {encode : α → Json} {l : List α}
    (h : ∀ a ∈ l, Yields decode (encode a) a) : Yields (list decode) (.array (l.map encode)) l := by
  rintro k ⟨changed, hchanged, rfl⟩
  have hitems := List.forall₂_map_left_iff.1 (itemsReorder_iff.1 hchanged)
  have hboth := (List.forall₂_and_left l changed).2 ⟨h, hitems⟩
  refine mapM_eq_ok.2 (hboth.flip.imp ?_)
  rintro k a ⟨hyields, hk⟩
  exact hyields k hk

/-- **The entries of a map yield the map,** as it is sorted when it is made. -/
theorem yields_dict {α : Type} {decode : Decoder Json α} {encode : α → Json} (m : SortedMap String α)
    (h : ∀ a, Yields decode (encode a) a) : Yields (dict decode) (obj (m.mapValues encode).toList) m := by
  intro k hk
  obtain ⟨changed, moved, hchanged, hperm, rfl⟩ := reorders_obj hk
  have hentry : List.Forall₂ (fun (m : String × Json) e => entry decode (some m.1, m.2) = .ok e) changed m.toList := by
    refine (List.forall₂_map_left_iff.1 hchanged).flip.imp fun n e he => ?_
    obtain ⟨hname, hvalue⟩ := he
    rw [entry, h e.2 n.2 hvalue, ← hname]
    rfl
  obtain ⟨entries, hmoved, hentries⟩ := List.perm_comp_forall₂ hperm hentry
  have hread : (moved.map fun m => (some m.1, m.2)).mapM (entry decode) = .ok entries :=
    mapM_eq_ok.2 (List.forall₂_map_left_iff.2 hmoved)
  rw [obj, dict, hread]
  exact congrArg Except.ok (SortedMap.ofList_of_perm hentries)

end Json

end FleetRouting
