import Mathlib.Data.List.Forall2
/-!
# FleetRouting.Proofs.Sequence

**Values that are read one after another.** Either all of them are read, and the results go with them in order
(`mapM_eq_ok`), or the first that is refused is told (`mapM_eq_error`).
-/

namespace FleetRouting

/-- Each member of the second list is the partner of one of the first. -/
theorem exists_mem_of_forall₂ {α β : Type} {R : α → β → Prop} {l : List α} {l' : List β} (h : List.Forall₂ R l l') :
    ∀ b ∈ l', ∃ a ∈ l, R a b := by
  induction h with
  | nil => exact nofun
  | @cons a b l l' hab _ ih =>
      intro b' hb'
      rcases List.mem_cons.1 hb' with rfl | hb'
      · exact ⟨a, List.mem_cons_self .., hab⟩
      · obtain ⟨a', ha', hR⟩ := ih b' hb'
        exact ⟨a', List.mem_cons_of_mem a ha', hR⟩

variable {ε α β : Type} {f : α → Except ε β} {a : α} {l : List α}

theorem mapM_cons_of_error {e : ε} (h : f a = .error e) (l : List α) : (a :: l).mapM f = .error e := by
  rw [List.mapM_cons, h]
  rfl

theorem mapM_cons_of_ok {b : β} (h : f a = .ok b) (l : List α) : (a :: l).mapM f = (l.mapM f).map (b :: ·) := by
  rw [List.mapM_cons, h]
  cases l.mapM f <;> rfl

theorem mapM_eq_ok {bs : List β} : l.mapM f = .ok bs ↔ List.Forall₂ (fun a b => f a = .ok b) l bs := by
  induction l generalizing bs with
  | nil => simp [pure, Except.pure, eq_comm]
  | cons a l ih =>
      constructor
      · intro h
        cases ha : f a with
        | error e =>
            rw [mapM_cons_of_error ha] at h
            cases h
        | ok b =>
            rw [mapM_cons_of_ok ha] at h
            cases hl : l.mapM f with
            | error e =>
                rw [hl] at h
                cases h
            | ok bs' =>
                rw [hl] at h
                cases h
                exact .cons ha (ih.1 hl)
      · intro h
        cases h with
        | cons ha hl =>
            rw [mapM_cons_of_ok ha, ih.2 hl]
            rfl

theorem exists_of_mapM_eq_ok {bs : List β} (h : l.mapM f = .ok bs) (ha : a ∈ l) : ∃ b, f a = .ok b := by
  obtain ⟨b, -, hb⟩ := exists_mem_of_forall₂ (mapM_eq_ok.1 h).flip a ha
  exact ⟨b, hb⟩

/-- Of the values that are refused the first one is told. -/
theorem mapM_eq_error {e : ε} :
    l.mapM f = .error e ↔
      ∃ older a newer, l = older ++ a :: newer ∧ (∀ a' ∈ older, ∃ b, f a' = .ok b) ∧ f a = .error e := by
  induction l with
  | nil => simp [pure, Except.pure]
  | cons a l ih =>
      constructor
      · intro h
        cases ha : f a with
        | error e' =>
            rw [mapM_cons_of_error ha] at h
            cases h
            exact ⟨[], a, l, rfl, nofun, ha⟩
        | ok b =>
            rw [mapM_cons_of_ok ha] at h
            cases hl : l.mapM f with
            | ok bs =>
                rw [hl] at h
                cases h
            | error e' =>
                rw [hl] at h
                cases h
                obtain ⟨older, a', newer, rfl, holder, ha'⟩ := ih.1 hl
                exact ⟨a :: older, a', newer, rfl, List.forall_mem_cons.2 ⟨⟨b, ha⟩, holder⟩, ha'⟩
      · rintro ⟨older, a', newer, hl, holder, ha'⟩
        rcases List.cons_eq_append_iff.1 hl with ⟨rfl, hl⟩ | ⟨older', rfl, rfl⟩
        · cases hl
          exact mapM_cons_of_error ha' l
        · obtain ⟨⟨b, hb⟩, holder⟩ := List.forall_mem_cons.1 holder
          rw [mapM_cons_of_ok hb, ih.2 ⟨older', a', newer, rfl, holder, ha'⟩]
          rfl

/-- Of two lists that go together, the first that is sought in the one goes with the first in the other. -/
theorem find?_of_forall₂ {R : α → β → Prop} {p : α → Bool} {q : β → Bool} (hpq : ∀ a b, R a b → p a = q b)
    {bs : List β} (h : List.Forall₂ R l bs) : Option.Rel R (l.find? p) (bs.find? q) := by
  induction h with
  | nil => exact .none
  | @cons a b l bs hab _ ih =>
      rw [List.find?_cons, List.find?_cons, hpq a b hab]
      cases q b with
      | true => exact .some hab
      | false => exact ih

end FleetRouting
