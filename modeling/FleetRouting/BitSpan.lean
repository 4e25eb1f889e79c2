/-!
# FleetRouting.BitSpan

**How many values bits can take, and numbers cut to so many bits.**
-/

namespace FleetRouting

/-- The number of values of so many bits. -/
abbrev bitSpan (bits : Nat) : Nat := Nat.pow 2 bits

theorem bitSpan_pos (bits : Nat) : 0 < bitSpan bits := Nat.pow_pos Nat.two_pos

/-- The lowest bits of a number. -/
def lowBits (bits n : Nat) : Fin (bitSpan bits) := ⟨n % bitSpan bits, Nat.mod_lt n (bitSpan_pos bits)⟩

instance (bits : Nat) : Inhabited (Fin (bitSpan bits)) := ⟨lowBits bits 0⟩

end FleetRouting
