import FleetRouting.Routing.Cache
import Mathlib.Data.List.Nodup
import Mathlib.Tactic.Common
/-!
# FleetRouting.Proofs.Routing.Cache

**Looking up remembered choices.** A look-up gives a fresh entry of its key. As long as no two entries have one key, it
gives every fresh entry; and what is fresh later is fresh now.
-/

namespace FleetRouting

namespace Cache

/-- No two entries have one key. -/
def Unique (c : Cache) : Prop := (c.entries.map CacheEntry.key).Nodup

namespace Unique

theorem retain {c : Cache} (h : c.Unique) (p : CacheEntry → Bool) : (c.retain p).Unique :=
  h.sublist (List.filter_sublist.map CacheEntry.key)

theorem clear (c : Cache) : c.clear.Unique := List.nodup_nil

/-- A new entry takes the place of the one of its key. -/
theorem insert {c : Cache} (h : c.Unique) (key : CacheKey) (headId : String) (tick : Nat) :
    (c.insert key headId tick).Unique := by
  refine List.nodup_cons.2 ⟨fun hmem => ?_, h.retain _⟩
  obtain ⟨e, he, hkey⟩ := List.mem_map.1 hmem
  exact of_decide_eq_true (List.mem_filter.1 he).2 hkey

theorem find?_of_mem {c : Cache} (h : c.Unique) {e : CacheEntry} (he : e ∈ c.entries) :
    c.find? e.key = some e := by
  unfold find?
  cases hfind : c.entries.find? fun e' => e'.key = e.key with
  | none =>
      have hne := List.find?_eq_none.1 hfind e he
      exact absurd (decide_eq_true rfl) hne
  | some e' =>
      have hkey : e'.key = e.key := by simpa using List.find?_some hfind
      rw [List.inj_on_of_nodup_map h (List.mem_of_find?_eq_some hfind) he hkey]

/-- A fresh entry is found under its key. -/
theorem get?_of_mem {c : Cache} (h : c.Unique) {e : CacheEntry} (he : e ∈ c.entries) {tick : Nat}
    (hfresh : c.isFresh e tick) : c.get? e.key tick = some e.headId := by
  simp only [get?, h.find?_of_mem he, hfresh, if_true]

end Unique

/-- What is found is a fresh entry of the key. -/
theorem entry_of_get? {c : Cache} {key : CacheKey} {tick : Nat} {id : String} (h : c.get? key tick = some id) :
    ∃ e ∈ c.entries, e.key = key ∧ c.isFresh e tick ∧ e.headId = id := by
  unfold get? find? at h
  cases hfind : c.entries.find? fun e => e.key = key with
  | none => simp [hfind] at h
  | some e =>
      have hkey : e.key = key := by simpa using List.find?_some hfind
      simp only [hfind] at h
      split at h
      · next hfresh => exact ⟨e, List.mem_of_find?_eq_some hfind, hkey, hfresh, Option.some.inj h⟩
      · cases h

/-- Without entries nothing is found. -/
theorem get?_of_no_entries {c : Cache} (h : c.entries = []) (key : CacheKey) (tick : Nat) :
    c.get? key tick = none := by
  unfold get? find?
  rw [h]
  rfl

/-- What is fresh later is fresh now. -/
theorem isFresh_of_le {c : Cache} {e : CacheEntry} {tick tick' : Nat} (hle : tick ≤ tick')
    (hfresh : c.isFresh e tick') : c.isFresh e tick := by
  unfold isFresh at hfresh ⊢
  split at hfresh
  · have hlater := of_decide_eq_true hfresh
    exact decide_eq_true (by omega)
  · rfl

end Cache

end FleetRouting
