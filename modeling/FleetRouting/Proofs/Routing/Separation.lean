import FleetRouting.Proofs.Head.Size
import FleetRouting.Proofs.Routing.CacheKey
import FleetRouting.Routing.Selection
/-!
# FleetRouting.Proofs.Routing.Separation

**Requests of one key are selected for alike.** A key holds the size that a request asks for as a printed number, and
a printed number is read back, so requests of one key ask for the same size. The one exception are sizes that are too
large to be finite: they are printed as a word, which is no size itself (`CacheKey.select_of_eq`,
`CacheKey.exists_select_ne_of_eq`).
-/

namespace FleetRouting

namespace CacheKey

/-! ### Forms of sizes -/

theorem sizeForm_of_size {s : String} {a : Binary64} (h : ModelSize.read? s = some a) : sizeForm s = a.toText := by
  unfold sizeForm
  rw [h]

theorem sizeForm_of_no_size {s : String} (h : ModelSize.read? s = none) : sizeForm s = Text.fold s := by
  unfold sizeForm
  rw [h]

/-- The form of a finite size is the form of that size only. -/
theorem read?_of_sizeForm_eq {s t : String} {a : Binary64} (hs : ModelSize.read? s = some a) (hfinite : a.isFinite)
    (h : sizeForm s = sizeForm t) : ModelSize.read? t = some a := by
  obtain ⟨hformat, ⟨-, hsign⟩ | rfl⟩ := ModelSize.size_of_read? hs
  · have hself := ModelSize.read?_toText hformat hfinite hsign
    rw [sizeForm_of_size hs] at h
    cases ht : ModelSize.read? t with
    | some b =>
        rw [sizeForm_of_size ht] at h
        have hread := Binary64.read?_toText (ModelSize.size_of_read? ht).1
        rw [← h, Binary64.read?_toText hformat] at hread
        exact hread.symm
    | none =>
        -- a text that is no size would have to be the printed number, which is one
        rw [sizeForm_of_no_size ht] at h
        cases hformat with
        | nan => cases hfinite
        | infinite negative => cases hfinite
        | finite negative hvalue hsmall =>
            have htext := Text.eq_of_fold_eq h.symm fun c hc =>
              ((Binary64.toText_chars hvalue hsmall negative).1 c hc).2.trans_lt (by decide)
            rw [htext, hself] at ht
            cases ht
  · cases hfinite

/-- Sizes of one form are one size, unless one of them is infinite. -/
theorem read?_eq_of_sizeForm_eq {s t : String} (h : sizeForm s = sizeForm t)
    (hlarge : ModelSize.read? s = some (.infinite false) ↔ ModelSize.read? t = some (.infinite false)) :
    ModelSize.read? s = ModelSize.read? t := by
  cases hs : ModelSize.read? s with
  | some a =>
      obtain ⟨-, ⟨hfinite, -⟩ | rfl⟩ := ModelSize.size_of_read? hs
      · exact (read?_of_sizeForm_eq hs hfinite h).symm
      · exact (hlarge.1 hs).symm
  | none =>
      cases ht : ModelSize.read? t with
      | none => rfl
      | some b =>
          obtain ⟨-, ⟨hfinite, -⟩ | rfl⟩ := ModelSize.size_of_read? ht
          · rw [read?_of_sizeForm_eq ht hfinite h.symm] at hs
            cases hs
          · rw [hlarge.2 ht] at hs
            cases hs

/-- Requests of one key ask for the same size, unless one of them asks for an infinite one. -/
theorem wantedSize?_eq {c d : Criteria} (h : ofCriteria c = ofCriteria d)
    (hlarge : c.wantedSize? = some (.infinite false) ↔ d.wantedSize? = some (.infinite false)) :
    c.wantedSize? = d.wantedSize? := by
  have hform : c.modelSize?.map sizeForm = d.modelSize?.map sizeForm := by
    have hne (c : Criteria) : ∀ s, c.modelSize?.map sizeForm = some s → s ≠ "" := by
      intro s hs
      obtain ⟨raw, hraw, rfl⟩ := Option.map_eq_some_iff.1 hs
      exact sizeForm_ne_empty (ne_empty_of_hint? hraw)
    exact eq_of_getD_eq (hne c) (hne d) (congrArg CacheKey.sizeHint h)
  unfold Criteria.wantedSize? at hlarge ⊢
  cases hc : c.modelSize? with
  | none =>
      rw [hc, Option.map_none, eq_comm, Option.map_eq_none_iff] at hform
      rw [hform]
  | some s =>
      rw [hc, Option.map_some, eq_comm] at hform
      obtain ⟨t, ht, hst⟩ := Option.map_eq_some_iff.1 hform
      rw [hc, ht, Option.bind_some, Option.bind_some] at hlarge
      rw [ht, Option.bind_some, Option.bind_some]
      exact read?_eq_of_sizeForm_eq hst.symm hlarge

/-! ### Selections -/

namespace Agrees

variable {c d : Criteria} (h : Agrees c d)

include h

theorem modelMatch?_eq (hsize : c.wantedSize? = d.wantedSize?) (candidates : List Head) (t : Tuning) :
    modelMatch? candidates c t = modelMatch? candidates d t := by
  simp only [modelMatch?, h.modelScore_eq hsize]

/-- Requests that agree are selected for alike if they ask for one size, or if the strategy reads none. -/
theorem select_eq {strategy : Strategy}
    (hsize : strategy = .modelSpecific ∨ strategy = .adaptive → c.wantedSize? = d.wantedSize?)
    (candidates : List Head) (p : Policy) : select strategy candidates c p = select strategy candidates d p := by
  have hregion : selectRegion? candidates c = selectRegion? candidates d := by
    rw [selectRegion?, selectRegion?, h.region]
  cases strategy with
  | modelSpecific => simp only [select, h.modelMatch?_eq (hsize (.inl rfl))]
  | adaptive =>
      simp only [select, selectAdaptive, adaptiveModel?, adaptiveRegion?, h.modelMatch?_eq (hsize (.inr rfl)), h.region]
  | geoPreferred => simp only [select, hregion]
  | hybrid => simp only [select, hregion]
  | _ => rfl

end Agrees

/-- **Requests of one key are answered by one strategy, which selects for both alike** from all candidates, under every
policy and at every turn, and leaves the same turn behind. A strategy that reads sizes does so unless one request alone
asks for a size that is too large to be finite. -/
theorem select_of_eq {c d : Criteria} (h : ofCriteria c = ofCriteria d) :
    (∀ default, c.effectiveStrategy default = d.effectiveStrategy default) ∧
      ∀ strategy,
        (strategy = .modelSpecific ∨ strategy = .adaptive →
          (c.wantedSize? = some (.infinite false) ↔ d.wantedSize? = some (.infinite false))) →
        ∀ candidates p, select strategy candidates c p = select strategy candidates d p := by
  have hagrees := agrees_of_eq h
  constructor
  · intro default
    rw [Criteria.effectiveStrategy, Criteria.effectiveStrategy, hagrees.strategy]
  · intro strategy hlarge candidates p
    exact hagrees.select_eq (fun hreads => wantedSize?_eq h (hlarge hreads)) candidates p

/-- Seven billions, in two ways. -/
theorem select_of_eq_billions :
    let c : Criteria := ⟨"m", "", none, .ofList [("model_size", "7B")]⟩
    let d : Criteria := ⟨"m", "", none, .ofList [("model_size", " 7000000000.0")]⟩
    let head : Head :=
      ⟨"a", "http://a", .active, 0, [], "", "m", "", .ofList [("max_model_size", "8b")], ⟨0, 0⟩, ⟨0, 0⟩, 0, 0⟩
    select .modelSpecific [head] c {} = select .modelSpecific [head] d {} := by
  intro c d head
  have h : ofCriteria c = ofCriteria d := by decide +kernel
  refine (select_of_eq h).2 .modelSpecific (fun _ => ?_) [head] {}
  decide +kernel

/-- A size that is too large to be finite has the form of the word for it, but only the size is matched by a head that
accepts as large models. -/
theorem exists_select_ne_of_eq :
    let c : Criteria := ⟨"m", "", none, .ofList [("model_size", "1e308b")]⟩
    let d : Criteria := ⟨"m", "", none, .ofList [("model_size", "inf")]⟩
    let head (id : String) (metadata : Metadata) : Head :=
      ⟨id, "http://" ++ id, .active, 0, [], "", "m", "", metadata, ⟨0, 0⟩, ⟨0, 0⟩, 0, 0⟩
    let candidates := [head "a" .empty, head "b" (.ofList [("max_model_size", "1e308b")])]
    ofCriteria c = ofCriteria d ∧
      ((select .modelSpecific candidates c {}).run 0).1 ≠ ((select .modelSpecific candidates d {}).run 0).1 := by
  decide +kernel

end CacheKey

end FleetRouting
