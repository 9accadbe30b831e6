/-!
# Ranges of code points

A character class given by a table is a list of closed ranges of code points. The tables themselves
are data of the Unicode standard and live in the modules of the property they belong to.
-/

namespace SpecForge.Text

/-- A list of closed ranges of code points. -/
abbrev Ranges := List (Nat × Nat)

/-- Is the character inside one of the ranges? -/
def Ranges.covers (rs : Ranges) (c : Char) : Bool :=
  rs.any fun r => r.1 ≤ c.toNat && c.toNat ≤ r.2

theorem Ranges.covers_iff (rs : Ranges) (c : Char) :
    rs.covers c = true ↔ ∃ r ∈ rs, r.1 ≤ c.toNat ∧ c.toNat ≤ r.2 := by
  simp [Ranges.covers]

end SpecForge.Text
