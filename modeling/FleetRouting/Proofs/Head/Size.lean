import FleetRouting.Head.Size
import FleetRouting.Proofs.Binary64.Text
/-!
# FleetRouting.Proofs.Head.Size

**A finite size that is printed is read as the same size** (`ModelSize.read?_toText`): it is a value of the format
that is not negative (`ModelSize.size_of_read?`), and its last character is a digit and so no factor.
-/

namespace FleetRouting

open Text

namespace ModelSize

open Binary64

/-- A digit is no factor. -/
theorem factor?_of_isDigit {c : Char} (hc : c.isDigit) : factor? c = none := by
  have hrange := toNat_of_isDigit hc
  unfold factor?
  rw [toLower_eq_self (.inl (by omega))]
  split
  · cases hc
  · cases hc
  · cases hc
  · cases hc
  · rfl

/-- A size that is printed is read as itself. -/
theorem read?_toText {a : Binary64} (ha : a.InFormat) (hfinite : a.isFinite) (hsign : Binary64.zero.le a) :
    read? a.toText = some a := by
  cases ha with
  | nan => cases hfinite
  | infinite negative => cases hfinite
  | @finite negative units hvalue hsmall =>
      obtain ⟨hchars, d, hlast, hd⟩ := toText_chars hvalue hsmall negative
      have htrim : trimChars (finite negative units).toText.toList = (finite negative units).toText.toList := by
        refine trimChars_eq_self fun c hc => ?_
        obtain ⟨hlow, hhigh⟩ := hchars c hc
        exact isBlank_eq_false ((by decide : 0x21 ≤ 45).trans hlow) (hhigh.trans (by decide))
      have hempty : (finite negative units).toText.toList.isEmpty = false := by
        rw [List.isEmpty_eq_false_iff]
        rintro hnil
        rw [hnil] at hlast
        cases hlast
      have hsplit : splitFactor (finite negative units).toText.toList = ((finite negative units).toText.toList, 1) := by
        simp only [splitFactor, hlast, Option.bind_some, factor?_of_isDigit hd]
      have hread := Binary64.read?_toText (.finite negative hvalue hsmall)
      unfold read?
      simp only [htrim, hempty, hsplit, trim, String.ofList_toList, hread]
      rw [hfinite, hsign, mul_ofNat_one (.finite negative hvalue hsmall) hfinite]
      rfl

/-- A factor is a whole number of a few digits. -/
theorem splitFactor_le (cs : List Char) : (splitFactor cs).2 ≤ 2 ^ 53 := by
  unfold splitFactor
  split
  · next n hfactor =>
      obtain ⟨c, -, hc⟩ := Option.bind_eq_some_iff.1 hfactor
      unfold factor? at hc
      have hsmall : n ≤ 1000000000000 := by
        split at hc <;> cases hc <;> decide
      exact hsmall.trans (by decide)
  · exact Nat.one_le_two_pow

/-- A size is a value of the format that is not negative. -/
theorem size_of_read? {s : String} {a : Binary64} (h : read? s = some a) :
    a.InFormat ∧ (a.isFinite ∧ Binary64.zero.le a ∨ a = .infinite false) := by
  unfold read? at h
  simp only at h
  split at h
  · cases h
  · split at h
    · next n hn =>
        split at h
        · next hsize =>
            obtain ⟨hfinite, hsign⟩ := (Bool.and_eq_true _ _).mp hsize
            obtain rfl := Option.some.inj h
            refine ⟨inFormat_mul _ _, ?_⟩
            cases n with
            | nan => cases hfinite
            | infinite negative => cases hfinite
            | finite negative units =>
                rw [ofNat_eq (splitFactor_le _), finite_mul_finite, Bool.bne_false]
                refine round_of_nonneg ?_ _
                cases negative with
                | false => exact .inl rfl
                | true =>
                    -- only zero is not negative and has a minus sign
                    have hzero : units = 0 := by simpa [zero, le, rank?] using hsign
                    rw [hzero, Nat.zero_mul]
                    exact .inr rfl
        · cases h
    · cases h

end ModelSize

end FleetRouting
