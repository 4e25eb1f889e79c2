import FleetRouting.Proofs.Text.Fold
import FleetRouting.Routing.Cache
import FleetRouting.Routing.Ranking
import Mathlib.Tactic.Common
/-!
# FleetRouting.Proofs.Routing.CacheKey

**A key holds all that a strategy reads.** Requests with one key name the same model type, region and strategy, and
hint at the same version and, up to letter case, at the same capability (`CacheKey.Agrees`). A size is kept as a
printed number, so of the size it is only said that both requests name one or none does.
-/

namespace FleetRouting

open Text

/-! ### Sizes in words -/

namespace Binary64

theorem signed_ne_empty (negative : Bool) {text : String} (h : text ≠ "") : signed negative text ≠ "" := by
  cases negative with
  | false => exact h
  | true =>
      intro hsigned
      have hlist := congrArg String.toList hsigned
      simp [signed] at hlist

theorem Decimal.positional_ne_empty (d : Decimal) : d.positional ≠ "" := by
  have hdigits : Nat.toDigits 10 d.digits ≠ [] := Nat.toDigits_ne_nil
  intro hempty
  have hlist := congrArg String.toList hempty
  revert hlist
  unfold positional
  simp only [apply_ite String.toList, String.toList_ofList]
  split
  · simp [hdigits]
  · split
    · intro hwhole
      have hlength := congrArg List.length hwhole
      simp only [List.length_take, List.length_append, List.length_replicate, String.toList_empty,
        List.length_nil] at hlength
      omega
    · simp

/-- A value is never written as nothing. -/
theorem toText_ne_empty (x : Binary64) : x.toText ≠ "" := by
  cases x with
  | nan => exact nofun
  | infinite negative => exact signed_ne_empty negative nofun
  | finite negative units =>
      refine signed_ne_empty negative ?_
      split
      · exact nofun
      · exact Decimal.positional_ne_empty _

end Binary64

/-! ### What requests of one key have in common -/

namespace CacheKey

/-- The normal form of a size is not empty. -/
theorem sizeForm_ne_empty {raw : String} (h : raw ≠ "") : sizeForm raw ≠ "" := by
  unfold sizeForm
  split
  · exact Binary64.toText_ne_empty _
  · exact fun hfold => h (fold_eq_empty.1 hfold)

/-- Nothing and a text that is not empty can be told apart when nothing is written as the empty text. -/
theorem eq_of_getD_eq {o o' : Option String} (ho : ∀ s, o = some s → s ≠ "") (ho' : ∀ s, o' = some s → s ≠ "")
    (h : o.getD "" = o'.getD "") : o = o' := by
  cases o with
  | none =>
      cases o' with
      | none => rfl
      | some t => exact absurd h.symm (ho' t rfl)
  | some s =>
      cases o' with
      | none => exact absurd h (ho s rfl)
      | some t => exact congrArg some h

/-- Requests that ask for the same, as far as a key tells. -/
structure Agrees (c d : Criteria) : Prop where
  modelType : c.modelType = d.modelType
  region : c.regionPreference = d.regionPreference
  strategy : c.requestedStrategy? = d.requestedStrategy?
  version : c.modelVersion? = d.modelVersion?
  size : c.modelSize? = none → d.modelSize? = none
  capability : c.capability?.map fold = d.capability?.map fold

/-- A hint is not empty. -/
theorem ne_empty_of_hint? {c : Criteria} {name s : String} (h : c.hint? name = some s) : s ≠ "" := by
  obtain ⟨_, -, htrimmed⟩ := Option.bind_eq_some_iff.1 h
  exact ne_empty_of_trimmed? htrimmed

theorem ne_empty_of_requestedStrategy? {c : Criteria} {s : String} (h : c.requestedStrategy? = some s) :
    s ≠ "" := by
  obtain ⟨_, -, htrimmed⟩ := Option.bind_eq_some_iff.1 h
  exact ne_empty_of_trimmed? htrimmed

/-- Requests of one key ask for the same. -/
theorem agrees_of_eq {c d : Criteria} (h : ofCriteria c = ofCriteria d) : Agrees c d := by
  injection h with hmodel hregion hstrategy hversion hsize hcapability
  have hfold : ∀ c : Criteria, ∀ s, c.capability?.map fold = some s → s ≠ "" := by
    rintro c _ hs
    obtain ⟨raw, hraw, rfl⟩ := Option.map_eq_some_iff.1 hs
    exact fun hempty => ne_empty_of_hint? hraw (fold_eq_empty.1 hempty)
  -- in a key a hint that is missing is the empty text, and no hint that is there is empty
  refine ⟨hmodel, hregion, ?_, ?_, fun hnone => ?_, ?_⟩
  · exact eq_of_getD_eq (fun _ => ne_empty_of_requestedStrategy?) (fun _ => ne_empty_of_requestedStrategy?)
      hstrategy
  · exact eq_of_getD_eq (fun _ => ne_empty_of_hint?) (fun _ => ne_empty_of_hint?) hversion
  · cases hd : d.modelSize? with
    | none => rfl
    | some raw =>
        rw [hnone, hd] at hsize
        exact absurd hsize.symm (sizeForm_ne_empty (ne_empty_of_hint? hd))
  · exact eq_of_getD_eq (hfold c) (hfold d) hcapability

end CacheKey

/-! ### Scores of requests of one key -/

/-- The size that a request asks for, as a number. -/
def Criteria.wantedSize? (c : Criteria) : Option Binary64 := c.modelSize?.bind ModelSize.read?

/-- A capability is looked for up to letter case. -/
theorem Head.hasCapability_congr (h : Head) {s t : String} (hfold : fold s = fold t) :
    h.hasCapability s = h.hasCapability t := by
  have htrimmed := map_fold_trimmed?_eq hfold
  unfold hasCapability
  cases hs : trimmed? s with
  | none =>
      cases ht : trimmed? t with
      | none => rfl
      | some t' => simp [hs, ht] at htrimmed
  | some s' =>
      cases ht : trimmed? t with
      | none => simp [hs, ht] at htrimmed
      | some t' =>
          have hfold' : fold s' = fold t' := by simpa [hs, ht] using htrimmed
          cases h.metadata.get? "capabilities" with
          | none => rfl
          | some tags => simp only [sameFolded, hfold']

namespace CacheKey.Agrees

variable {c d : Criteria} (h : Agrees c d)

include h

theorem versionScore_eq (a : Head) : versionScore a c = versionScore a d := by
  rw [versionScore, versionScore, h.version]

theorem capabilityScore_eq (a : Head) : capabilityScore a c = capabilityScore a d := by
  have hcapability := h.capability
  unfold capabilityScore
  cases hc : c.capability? with
  | none =>
      cases hd : d.capability? with
      | none => rfl
      | some t => simp [hc, hd] at hcapability
  | some s =>
      cases hd : d.capability? with
      | none => simp [hc, hd] at hcapability
      | some t =>
          have hfold : fold s = fold t := by simpa [hc, hd] using hcapability
          simp only [a.hasCapability_congr hfold]

/-- Requests that agree and ask for one size score the same. -/
theorem modelScore_eq (hsize : c.wantedSize? = d.wantedSize?) (a : Head) (t : Tuning) :
    modelScore a c t = modelScore a d t := by
  have hscore : sizeScore a c = sizeScore a d := by
    rw [Criteria.wantedSize?, Criteria.wantedSize?] at hsize
    rw [sizeScore, sizeScore, hsize]
  rw [modelScore, modelScore, h.versionScore_eq, h.capabilityScore_eq, hscore]

/-- Requests that agree ask for one size if one of them names none. -/
theorem wantedSize?_eq_of_none (hnone : c.modelSize? = none) : c.wantedSize? = d.wantedSize? := by
  rw [Criteria.wantedSize?, Criteria.wantedSize?, hnone, h.size hnone]

end CacheKey.Agrees

end FleetRouting
