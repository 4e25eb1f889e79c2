/-!
# FleetRouting.SortedMap

**Finite maps with one representation each.** A map is the list of its entries in strictly increasing
key order, so two maps with the same entries are equal whatever order the entries were put in, and
listing a map needs no further sorting. The invariant is part of the type.
-/

namespace FleetRouting

/-- A key order in which distinct keys compare one way and never both. -/
class KeyOrder (κ : Type) [LT κ] [DecidableLT κ] : Prop where
  irrefl (a : κ) : ¬ a < a
  trans {a b c : κ} : a < b → b < c → a < c
  eq_of_not_lt {a b : κ} : ¬ a < b → ¬ b < a → a = b

instance : KeyOrder String where
  irrefl := String.lt_irrefl
  trans := String.lt_trans
  eq_of_not_lt h h' := String.le_antisymm (String.not_lt.1 h') (String.not_lt.1 h)

/-- Entries in strictly increasing key order. -/
structure SortedMap (κ α : Type) [LT κ] where
  /-- The entries, smallest key first. -/
  toList : List (κ × α) := []
  sorted : toList.Pairwise (fun a b => a.1 < b.1) := by exact List.Pairwise.nil

namespace SortedMap

variable {κ α β : Type} [LT κ]

@[ext] theorem ext {m n : SortedMap κ α} (h : m.toList = n.toList) : m = n := by
  cases m; cases n; cases h; rfl

instance [DecidableEq κ] [DecidableEq α] : DecidableEq (SortedMap κ α) := fun m n =>
  decidable_of_iff (m.toList = n.toList) ⟨ext, fun h => h ▸ rfl⟩

/-- The map without entries. -/
def empty : SortedMap κ α := {}

instance : EmptyCollection (SortedMap κ α) := ⟨empty⟩

instance : Inhabited (SortedMap κ α) := ⟨empty⟩

/-- The keys in increasing order. -/
def keys (m : SortedMap κ α) : List κ := m.toList.map Prod.fst

/-- The number of entries. -/
def size (m : SortedMap κ α) : Nat := m.toList.length

/-- True when there are no entries. -/
def isEmpty (m : SortedMap κ α) : Bool := m.toList.isEmpty

/-- Applies `f` to every value and leaves the keys alone. -/
def mapValues (f : α → β) (m : SortedMap κ α) : SortedMap κ β where
  toList := m.toList.map fun e => (e.1, f e.2)
  sorted := List.pairwise_map.2 (by simpa using m.sorted)

/-- The entries whose key and value satisfy `p`. -/
def filter (p : κ → α → Bool) (m : SortedMap κ α) : SortedMap κ α where
  toList := m.toList.filter fun e => p e.1 e.2
  sorted := m.sorted.filter _

section Ordered

variable [DecidableLT κ]

/-- The value of key `k` in a list of entries. -/
def find (k : κ) : List (κ × α) → Option α
  | [] => none
  | (k', v) :: rest => if k < k' then none else if k' < k then find k rest else some v

/-- Puts `k` with value `v` in its place, over an entry with the same key. -/
def put (k : κ) (v : α) : List (κ × α) → List (κ × α)
  | [] => [(k, v)]
  | (k', v') :: rest =>
    if k < k' then (k, v) :: (k', v') :: rest
    else if k' < k then (k', v') :: put k v rest
    else (k, v) :: rest

/-- A key that `put` leaves in the list is the new key or was there before. -/
theorem mem_put {k : κ} {v : α} {e : κ × α} {l : List (κ × α)} (h : e ∈ put k v l) :
    e = (k, v) ∨ e ∈ l := by
  induction l with
  | nil => simpa [put] using h
  | cons x rest ih =>
    obtain ⟨k', v'⟩ := x
    simp only [put] at h
    split at h
    · simpa using h
    · split at h
      · rcases List.mem_cons.1 h with h | h
        · exact .inr (h ▸ List.mem_cons_self ..)
        · exact (ih h).imp id (List.mem_cons_of_mem _)
      · rcases List.mem_cons.1 h with h | h
        · exact .inl h
        · exact .inr (List.mem_cons_of_mem _ h)

/-- The value stored under `k`. -/
def get? (m : SortedMap κ α) (k : κ) : Option α := find k m.toList

/-- True when `k` has an entry. -/
def contains (m : SortedMap κ α) (k : κ) : Bool := (m.get? k).isSome

@[simp] theorem get?_empty (k : κ) : (empty : SortedMap κ α).get? k = none := rfl

/-- Removes the entry of `k`, if there is one. -/
def erase (m : SortedMap κ α) (k : κ) : SortedMap κ α :=
  m.filter fun k' _ => decide (k < k' ∨ k' < k)

variable [KeyOrder κ]

/-- `put` keeps the entries sorted. -/
theorem sorted_put (k : κ) (v : α) {l : List (κ × α)} (h : l.Pairwise (fun a b => a.1 < b.1)) :
    (put k v l).Pairwise (fun a b => a.1 < b.1) := by
  induction l with
  | nil => simp [put]
  | cons x rest ih =>
    obtain ⟨k', v'⟩ := x
    obtain ⟨hx, hrest⟩ := List.pairwise_cons.1 h
    simp only [put]
    split
    · next hlt =>
      refine List.pairwise_cons.2 ⟨fun e he => ?_, h⟩
      rcases List.mem_cons.1 he with he | he
      · exact he ▸ hlt
      · exact KeyOrder.trans hlt (hx e he)
    · next hge =>
      split
      · next hgt =>
        refine List.pairwise_cons.2 ⟨fun e he => ?_, ih hrest⟩
        rcases mem_put he with he | he
        · exact he ▸ hgt
        · exact hx e he
      · next hle =>
        have hk : k = k' := KeyOrder.eq_of_not_lt hge hle
        exact List.pairwise_cons.2 ⟨fun e he => hk ▸ hx e he, hrest⟩

/-- Stores `v` under `k`, over an earlier value. -/
def insert (m : SortedMap κ α) (k : κ) (v : α) : SortedMap κ α where
  toList := put k v m.toList
  sorted := sorted_put k v m.sorted

/-- The map of a list of entries in any order; of two entries with one key the later stays. -/
def ofList (entries : List (κ × α)) : SortedMap κ α :=
  entries.foldl (fun m e => m.insert e.1 e.2) empty

/-! ### What a look-up sees -/

theorem find_put (k j : κ) (v : α) (l : List (κ × α)) (h : l.Pairwise (fun a b => a.1 < b.1)) :
    find j (put k v l) = if j < k ∨ k < j then find j l else some v := by
  induction l with
  | nil => simp only [put, find]; split <;> simp_all
  | cons x rest ih =>
    obtain ⟨k', v'⟩ := x
    obtain ⟨hx, hrest⟩ := List.pairwise_cons.1 h
    have ih := ih hrest
    have hi := KeyOrder.irrefl (κ := κ)
    by_cases h1 : k < k'
    · by_cases h2 : j < k
      · have := KeyOrder.trans h2 h1
        simp [put, find, h1, h2, this]
      · by_cases h3 : k < j <;> simp [put, find, h1, h2, h3]
    · by_cases h2 : k' < k
      · by_cases h3 : j < k'
        · have := KeyOrder.trans h3 h2
          simp [put, find, h1, h2, h3, this]
        · by_cases h4 : k' < j
          · simp [put, find, h1, h2, h3, h4, ih]
          · have hj : j = k' := KeyOrder.eq_of_not_lt h3 h4
            subst hj
            simp [put, find, h1, h2, hi]
      · have hk : k = k' := KeyOrder.eq_of_not_lt h1 h2
        subst hk
        by_cases h3 : j < k
        · simp [put, find, hi, h3]
        · by_cases h4 : k < j <;> simp [put, find, hi, h3, h4]

@[simp] theorem get?_insert_self (m : SortedMap κ α) (k : κ) (v : α) :
    (m.insert k v).get? k = some v := by
  simp [get?, insert, find_put k k v m.toList m.sorted, KeyOrder.irrefl]

theorem get?_insert_of_ne (m : SortedMap κ α) {k j : κ} (v : α) (h : j ≠ k) :
    (m.insert k v).get? j = m.get? j := by
  have hlt : j < k ∨ k < j := by
    by_cases h1 : j < k
    · exact .inl h1
    · by_cases h2 : k < j
      · exact .inr h2
      · exact absurd (KeyOrder.eq_of_not_lt h1 h2) h
  simp [get?, insert, find_put k j v m.toList m.sorted, hlt]

end Ordered

end SortedMap

end FleetRouting
