/-!
# Ranges of code points

The classes of characters that the language tells apart are unions of ranges of code points.
Below 128 each class is given by a short rule, so that reasoning about plain programs never looks
at a table; from 128 on it is a table of the Unicode character data, version 14.
-/

namespace Scriptlet.Text

/-- A table of ranges of code points, each given by its first and its last member. -/
abbrev Ranges := List (Nat × Nat)

namespace Ranges

/-- Whether a code point lies in one of the ranges. -/
def holds (t : Ranges) (n : Nat) : Bool :=
  t.any fun (first, last) => first ≤ n && n ≤ last

/-- The first member of the range that a code point lies in. -/
def firstOf? (t : Ranges) (n : Nat) : Option Nat :=
  (t.find? fun (first, last) => first ≤ n && n ≤ last).map (·.1)

theorem holds_iff {t : Ranges} {n : Nat} :
    t.holds n = true ↔ ∃ r ∈ t, r.1 ≤ n ∧ n ≤ r.2 := by
  simp [holds]

theorem firstOf?_le {t : Ranges} {n f : Nat} (h : t.firstOf? n = some f) : f ≤ n := by
  obtain ⟨r, hr, rfl⟩ := Option.map_eq_some_iff.1 h
  have := List.find?_some hr
  simp at this
  exact this.1

end Ranges

end Scriptlet.Text
