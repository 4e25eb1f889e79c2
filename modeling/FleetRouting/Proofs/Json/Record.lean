import FleetRouting.Proofs.Json.Reordering
import Mathlib.Data.List.Nodup
/-!
# FleetRouting.Proofs.Json.Record

**Records decode to what was encoded.** `Fields.Reads` says that members with the names of the fields, in their order,
give a value; it is put together field by field along the description of a record (`Reads.required`, `Reads.seq`).
As no two fields of a record share a name, its object then decodes to that value in whatever order the members come
(`Reads.record`). In the same way `Fields.Gives` says what holds of every value that a record decodes to.
-/

namespace FleetRouting

open Json

/-! ### Scalars -/

namespace Json

@[simp] theorem text_str (s : String) : text (str s) = .ok s := rfl

/-- The digits of a number are read as the number. -/
theorem integerOf?_nat (n : Nat) : integerOf? (toString n) = some (n : Int) := by
  have htext : (toString n).toList = Nat.toDigits 10 n := Nat.toList_repr
  have hdigits : ∀ c ∈ Nat.toDigits 10 n, c.isDigit = true :=
    fun c hc => Nat.isDigit_of_mem_toDigits (by decide) (by decide) hc
  have hvalue : Binary64.digitsValue (Nat.toDigits 10 n) = n := Nat.ofDigitChars_ten_toDigits
  unfold integerOf?
  rw [htext]
  split
  · next ds hminus =>
      have hsign := hdigits '-' (hminus ▸ List.mem_cons_self ..)
      exact absurd hsign (by decide)
  · rw [if_pos (List.all_eq_true.2 hdigits), hvalue]

/-- A natural number below the bound decodes to itself. -/
theorem natural_nat {bound n : Nat} (h : n < bound) : natural bound (nat n) = .ok n := by
  have hrange : (0 : Int) ≤ n ∧ (n : Int) ≤ bound - 1 := by omega
  simp only [natural, integer, nat, integerOf?_nat, if_pos hrange]
  rfl

end Json

/-! ### Fields -/

/-- In a list without repeated keys every entry is found. -/
theorem lookup_of_mem {κ α : Type} [BEq κ] [LawfulBEq κ] {l : List (κ × α)} (h : (l.map Prod.fst).Nodup)
    {k : κ} {a : α} (hmem : (k, a) ∈ l) : l.lookup k = some a := by
  obtain ⟨front, back, rfl⟩ := List.append_of_mem hmem
  refine List.lookup_eq_some_iff.2 ⟨front, back, rfl, fun e he => ?_⟩
  rw [List.map_append, List.map_cons] at h
  have hne := (List.nodup_append.1 h).2.2 e.1 (List.mem_map_of_mem he) k (List.mem_cons_self ..)
  exact bne_iff_ne.2 hne.symm

namespace Fields

variable {α β : Type}

/-- Members with the names of the fields, in their order, from which the value `a` is built, even with their values in
another order. -/
structure Reads (fields : Fields Json α) (members : List (String × Json)) (a : α) : Prop where
  slots : List.Forall₂ (fun (slot : Slot Json) m => slot.name = m.1 ∧ Yields slot.check m.2 ()) fields.slots members
  build : ∀ found : String → Option Json, (∀ m ∈ members, ∃ k, m.2.Reorders k ∧ found m.1 = some k) →
    fields.build found = .ok a

/-- A decoder accepts what yields a value. -/
theorem yields_accepts {decode : Decoder Json α} {j : Json} {a : α} (h : Yields decode j a) : Yields (accepts decode) j () :=
  fun k hk => (congrArg (Except.map fun _ => ()) (h k hk) :)

namespace Reads

theorem required {name : String} {decode : Decoder Json α} {j : Json} {a : α} (h : Yields decode j a) :
    Reads (Fields.required name decode) [(name, j)] a where
  slots := .cons ⟨rfl, yields_accepts h⟩ .nil
  build found hfound := by
    obtain ⟨k, hk, hname⟩ := hfound (name, j) (List.mem_singleton_self _)
    simp only [Fields.required, hname]
    exact h k hk

theorem optional {name : String} {default : α} {decode : Decoder Json α} {j : Json} {a : α} (h : Yields decode j a) :
    Reads (Fields.optional name default decode) [(name, j)] a where
  slots := .cons ⟨rfl, yields_accepts h⟩ .nil
  build found hfound := by
    obtain ⟨k, hk, hname⟩ := hfound (name, j) (List.mem_singleton_self _)
    simp only [Fields.optional, hname]
    exact h k hk

theorem seq {f : Fields Json (α → β)} {x : Fields Json α} {ms ns : List (String × Json)} {g : α → β} {a : α}
    (hf : f.Reads ms g) (hx : x.Reads ns a) : (f <*> x).Reads (ms ++ ns) (g a) where
  slots := List.rel_append hf.slots hx.slots
  build found hfound := by
    have hg := hf.build found fun m hm => hfound m (List.mem_append_left ns hm)
    have ha := hx.build found fun m hm => hfound m (List.mem_append_right ms hm)
    show (do
      let g ← f.build found
      let a ← x.build found
      .ok (g a)) = .ok (g a)
    rw [hg, ha]
    rfl

theorem map {x : Fields Json α} {ns : List (String × Json)} {a : α} (g : α → β) (hx : x.Reads ns a) :
    (g <$> x).Reads ns (g a) := by
  have hpure : Reads (pure g : Fields Json (α → β)) [] g := ⟨.nil, fun _ _ => rfl⟩
  exact hpure.seq hx

end Reads

/-! ### What a record is built from -/

/-- Whatever is built from the fields satisfies `P`. -/
def Gives (fields : Fields Json α) (P : α → Prop) : Prop := ∀ found a, fields.build found = .ok a → P a

namespace Gives

theorem any {x : Fields Json α} {P : α → Prop} (h : ∀ a, P a) : x.Gives P := fun _ a _ => h a

theorem required {name : String} {decode : Decoder Json α} {P : α → Prop} (h : ∀ j a, decode j = .ok a → P a) :
    (Fields.required name decode).Gives P := by
  intro found a hbuild
  simp only [Fields.required] at hbuild
  split at hbuild
  · exact h _ a hbuild
  · cases hbuild

/-- What is built from more fields has to be right whatever is built from the last one. -/
theorem seq {f : Fields Json (α → β)} {x : Fields Json α} {P : β → Prop}
    (h : f.Gives fun g => x.Gives fun a => P (g a)) : (f <*> x).Gives P := by
  intro found b hbuild
  change (do
    let g ← f.build found
    let a ← x.build found
    .ok (g a)) = .ok b at hbuild
  cases hf : f.build found with
  | error e =>
      rw [hf] at hbuild
      cases hbuild
  | ok g =>
      cases hx : x.build found with
      | error e =>
          rw [hf, hx] at hbuild
          cases hbuild
      | ok a =>
          rw [hf, hx] at hbuild
          obtain rfl := Except.ok.inj hbuild
          exact h found g hf found a hx

theorem map {g : α → β} {x : Fields Json α} {P : β → Prop} (h : x.Gives fun a => P (g a)) : (g <$> x).Gives P := by
  refine seq (f := pure g) fun _ g' hg => ?_
  obtain rfl := Except.ok.inj hg
  exact h

end Gives

end Fields

/-- A record that is decoded is built from what was found for its fields, by name or in order. -/
theorem Fields.Gives.record {α : Type} {fields : Fields Json α} {P : α → Prop} (hgives : fields.Gives P) {j : Json} {a : α}
    (h : Json.record fields j = .ok a) : P a := by
  have hbuild (collected : Except Fault (List (String × Json)))
      (h : (do
        let found ← collected
        fields.build fun name => found.lookup name) = .ok a) : P a := by
    cases collected with
    | error e => cases h
    | ok found => exact hgives _ a h
  cases j with
  | object members => exact hbuild _ h
  | array items => exact hbuild _ h
  | _ => cases h

/-! ### Objects -/

/-- Members that each fill a slot of their own are collected. -/
theorem Json.collect_eq_ok {slots : List (Slot Json)} {members found : List (String × Json)}
    (hfind : ∀ m ∈ members, ∃ slot, slots.find? (fun slot => slot.name == m.1) = some slot ∧ slot.check m.2 = .ok ())
    (hnodup : (members.map Prod.fst).Nodup) (hfound : ∀ m ∈ members, found.lookup m.1 = none) :
    collect slots (members.map fun m => (some m.1, m.2)) found = .ok (members.reverse ++ found) := by
  induction members generalizing found with
  | nil => rfl
  | cons m members ih =>
      obtain ⟨slot, hslot, hcheck⟩ := hfind m (List.mem_cons_self ..)
      obtain ⟨hnew, hnodup⟩ := List.nodup_cons.1 hnodup
      have hnone := hfound m (List.mem_cons_self ..)
      rw [List.map_cons, collect, hslot]
      simp only [hnone, Option.isSome_none, Bool.false_eq_true, if_false, hcheck]
      -- the names still to come are not taken by this one either
      have hfree : ∀ m' ∈ members, (m :: found).lookup m'.1 = none := by
        intro m' hm'
        have hne : m'.1 ≠ m.1 := fun heq => hnew (heq ▸ List.mem_map_of_mem hm')
        rw [List.lookup_cons, beq_eq_false_iff_ne.2 hne]
        exact hfound m' (List.mem_cons_of_mem m hm')
      rw [List.reverse_cons, List.append_assoc]
      exact ih (fun m' hm' => hfind m' (List.mem_cons_of_mem m hm')) hnodup hfree

/-- Each member has the slot of its name. -/
theorem Fields.Reads.find_slot {α : Type} {fields : Fields Json α} {members : List (String × Json)} {a : α}
    (h : fields.Reads members a) (hnodup : (members.map Prod.fst).Nodup) :
    ∀ m ∈ members, ∃ slot, fields.slots.find? (fun slot => slot.name == m.1) = some slot ∧ Yields slot.check m.2 () := by
  have hslots := h.slots
  -- from here on only the names of the slots and of the members matter
  clear h
  generalize fields.slots = slots at hslots ⊢
  induction hslots with
  | nil =>
      intro m hm
      cases hm
  | @cons slot m' slots members hslot _ ih =>
      intro m hm
      obtain ⟨hnew, hnodup⟩ := List.nodup_cons.1 hnodup
      rcases List.mem_cons.1 hm with rfl | hm
      · refine ⟨slot, ?_, hslot.2⟩
        rw [List.find?_cons, beq_iff_eq.2 hslot.1]
      · have hne : slot.name ≠ m.1 := fun heq => hnew (by
          rw [← hslot.1, heq]
          exact List.mem_map_of_mem hm)
        rw [List.find?_cons, beq_eq_false_iff_ne.2 hne]
        exact ih hnodup m hm

/-- **An object with the members of a record yields its value.** -/
theorem Fields.Reads.record {α : Type} {fields : Fields Json α} {members : List (String × Json)} {a : α}
    (h : fields.Reads members a) (hnodup : (members.map Prod.fst).Nodup) :
    Yields (Json.record fields) (obj members) a := by
  intro k hk
  obtain ⟨moved, hnames, hfrom, hto, rfl⟩ := reorders_obj_mem hk
  have hnodup' : (moved.map Prod.fst).Nodup := hnames.nodup_iff.2 hnodup
  have hfind : ∀ m ∈ moved, ∃ slot, fields.slots.find? (fun slot => slot.name == m.1) = some slot ∧
      slot.check m.2 = .ok () := by
    intro m hm
    obtain ⟨n, hn, hname, hvalue⟩ := hfrom m hm
    obtain ⟨slot, hslot, hcheck⟩ := h.find_slot hnodup n hn
    exact ⟨slot, hname ▸ hslot, hcheck m.2 hvalue⟩
  have hcollected : collect fields.slots (moved.map fun m => (some m.1, m.2)) [] = .ok (moved.reverse ++ []) :=
    collect_eq_ok hfind hnodup' fun _ _ => rfl
  show (do
    let found ← collect fields.slots (moved.map fun (m : String × Json) => (some m.1, m.2)) []
    fields.build fun name => found.lookup name) = .ok a
  rw [hcollected, List.append_nil]
  refine h.build _ fun n hn => ?_
  obtain ⟨m, hm, hname, hvalue⟩ := hto n hn
  refine ⟨m.2, hvalue, lookup_of_mem ?_ ?_⟩
  · rw [List.map_reverse]
    exact List.nodup_reverse.2 hnodup'
  · rw [hname]
    exact List.mem_reverse.2 hm

end FleetRouting
