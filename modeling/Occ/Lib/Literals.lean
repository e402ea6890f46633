/-
Facts behind the literals of the small types: a literal of `Fin n` rests on `NeZero n`, and membership in a list of
bytes on their lawful equality. Under a name of its own such a fact is the same term wherever a definition needs it.
-/
import Mathlib.Data.Nat.Notation

namespace Occ

theorem neZero_three : @NeZero Nat Zero.ofOfNat0 3 := ⟨by decide⟩

theorem neZero_four : @NeZero Nat Zero.ofOfNat0 4 := ⟨by decide⟩

theorem neZero_eight : @NeZero Nat Zero.ofOfNat0 8 := ⟨by decide⟩

theorem neZero_sixteen : @NeZero Nat Zero.ofOfNat0 16 := ⟨by decide⟩

theorem neZero_twentyFour : @NeZero Nat Zero.ofOfNat0 24 := ⟨by decide⟩

theorem neZero_thirtyTwo : @NeZero Nat Zero.ofOfNat0 32 := ⟨by decide⟩

theorem lawfulBEq_byte : LawfulBEq (BitVec 8) := inferInstance

end Occ
