import FleetRouting.Text.Blank
import FleetRouting.Text.Fold
import Mathlib.Data.List.TakeWhile
import Mathlib.Tactic.Common
/-!
# FleetRouting.Proofs.Text.Fold

**Small letters and blanks do not get into each other's way.** Folding moves the capital letters alone, none of which is
blank, so a text may be trimmed before or after it is folded.
-/

namespace FleetRouting.Text

/-! ### Characters -/

/-- A capital letter has its small form 32 places behind it. -/
theorem toNat_toLower {c : Char} (hlow : 65 ≤ c.toNat) (hhigh : c.toNat ≤ 90) : c.toLower.toNat = c.toNat + 32 := by
  have hcapital : c.val ≥ 'A'.val ∧ c.val ≤ 'Z'.val := ⟨hlow, hhigh⟩
  have h32 : ('a'.val - 'A'.val).toNat = 32 := by decide
  have hsum : (c.val + ('a'.val - 'A'.val)).toNat = c.toNat + 32 := by
    rw [UInt32.toNat_add, h32]
    show (c.toNat + 32) % 2 ^ 32 = c.toNat + 32
    omega
  exact (congrArg Char.toNat (dif_pos hcapital)).trans hsum

/-- Every other character is its own small form. -/
theorem toLower_eq_self {c : Char} (h : c.toNat < 65 ∨ 90 < c.toNat) : c.toLower = c := by
  refine dif_neg ?_
  rintro ⟨hlow, hhigh⟩
  have hlow : 65 ≤ c.toNat := hlow
  have hhigh : c.toNat ≤ 90 := hhigh
  omega

/-- A letter is as blank as its small form. -/
theorem isBlank_toLower (c : Char) : isBlank c.toLower = isBlank c := by
  by_cases hcapital : 65 ≤ c.toNat ∧ c.toNat ≤ 90
  · have hsmall := toNat_toLower hcapital.1 hcapital.2
    rw [isBlank_eq_false (by omega) (by omega), isBlank_eq_false (by omega) (by omega)]
  · rw [toLower_eq_self (by omega)]

/-! ### Trimming and folding -/

theorem trimChars_map_toLower (cs : List Char) :
    trimChars (cs.map Char.toLower) = (trimChars cs).map Char.toLower := by
  have hblank : isBlank ∘ Char.toLower = isBlank := funext isBlank_toLower
  simp only [trimChars, List.dropWhile_map, ← List.map_reverse, hblank]

/-- Trimming and folding may be done in any order. -/
theorem trim_fold (s : String) : trim (fold s) = fold (trim s) := by
  apply String.toList_inj.1
  simp only [trim, fold, String.toList_map, String.toList_ofList, trimChars_map_toLower]

theorem fold_eq_empty {s : String} : fold s = "" ↔ s = "" := by
  rw [← String.toList_inj, ← String.toList_inj, fold, String.toList_map]
  simp

theorem trimChars_eq_nil {cs : List Char} : trimChars cs = [] ↔ ∀ c ∈ cs, isBlank c := by
  rw [trimChars, List.reverse_eq_nil_iff, List.dropWhile_eq_nil_iff]
  constructor
  · intro hrest
    -- a character that is left at the front is not blank
    refine List.dropWhile_eq_nil_iff.1 (Classical.byContradiction fun hne => ?_)
    have hfirst := List.head_dropWhile_not isBlank hne
    rw [hrest _ (List.mem_reverse.2 (List.head_mem hne))] at hfirst
    cases hfirst
  · intro hblank c hc
    rw [List.dropWhile_eq_nil_iff.2 hblank] at hc
    cases hc

/-- A text is blank when trimming leaves nothing of it. -/
theorem isBlankText_iff {s : String} : isBlankText s = true ↔ trim s = "" := by
  rw [← String.toList_inj, trim, String.toList_ofList, isBlankText, List.all_eq_true]
  exact trimChars_eq_nil.symm

theorem trimmed?_eq_some {s t : String} : trimmed? s = some t ↔ trim s = t ∧ t ≠ "" := by
  by_cases hempty : trim s = ""
  · simp only [trimmed?, String.isEmpty_iff, if_pos hempty, reduceCtorEq, false_iff]
    rintro ⟨rfl, hne⟩
    exact hne hempty
  · simp only [trimmed?, String.isEmpty_iff, if_neg hempty, Option.some.injEq]
    constructor
    · rintro rfl
      exact ⟨rfl, hempty⟩
    · exact And.left

/-- What is left of a text is not empty. -/
theorem ne_empty_of_trimmed? {s t : String} (h : trimmed? s = some t) : t ≠ "" := (trimmed?_eq_some.1 h).2

/-- What is left of texts that fold to the same. -/
theorem map_fold_trimmed?_eq {s t : String} (h : fold s = fold t) :
    (trimmed? s).map fold = (trimmed? t).map fold := by
  have htrim : fold (trim s) = fold (trim t) := by rw [← trim_fold, ← trim_fold, h]
  have hempty : (trim s).isEmpty = (trim t).isEmpty := by
    rw [Bool.eq_iff_iff, String.isEmpty_iff, String.isEmpty_iff, ← fold_eq_empty, htrim, fold_eq_empty]
  simp only [trimmed?, hempty]
  split
  · rfl
  · exact congrArg some htrim

/-- What follows the start of a text. -/
theorem dropStart?_eq_some {start cs rest : List Char} : dropStart? start cs = some rest ↔ cs = start ++ rest := by
  induction start generalizing cs with
  | nil => simp [dropStart?]
  | cons a start ih =>
      cases cs with
      | nil => simp [dropStart?]
      | cons c cs =>
          rw [dropStart?, List.cons_append, List.cons.injEq]
          split
          · next heq => simp [ih, heq]
          · next hne => simp [Ne.symm hne]

/-! ### Texts that stay as they are -/

/-- A text without blanks is not trimmed. -/
theorem trimChars_eq_self {cs : List Char} (h : ∀ c ∈ cs, isBlank c = false) : trimChars cs = cs := by
  have hdrop {cs : List Char} (h : ∀ c ∈ cs, isBlank c = false) : cs.dropWhile isBlank = cs := by
    cases cs with
    | nil => rfl
    | cons c cs =>
        refine List.dropWhile_cons_of_neg ?_
        rw [h c (List.mem_cons_self ..)]
        exact Bool.false_ne_true
  rw [trimChars, hdrop h, hdrop fun c hc => h c (List.mem_reverse.1 hc), List.reverse_reverse]

/-- Where folding gives no small letter, it has changed nothing. -/
theorem eq_of_fold_eq {s t : String} (h : fold s = t) (ht : ∀ c ∈ t.toList, c.toNat < 97) : s = t := by
  have hchars : s.toList.map Char.toLower = t.toList := by rw [← h, fold, String.toList_map]
  have hsame : s.toList.map Char.toLower = s.toList := by
    refine (List.map_congr_left fun c hc => ?_).trans (List.map_id _)
    have hsmall := ht c.toLower (hchars ▸ List.mem_map_of_mem hc)
    by_cases hcapital : 65 ≤ c.toNat ∧ c.toNat ≤ 90
    · rw [toNat_toLower hcapital.1 hcapital.2] at hsmall
      omega
    · exact toLower_eq_self (by omega)
  exact String.toList_inj.1 (hsame.symm.trans hchars)

end FleetRouting.Text
