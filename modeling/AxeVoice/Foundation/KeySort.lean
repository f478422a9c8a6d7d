import Mathlib.Data.List.Sort

/-!
# Sorting by a comparator

A comparator says whether one item goes strictly in front of another.  Where it
compares keys of a linear order, items with different keys have one arrangement
only: whatever sorts them finds it, and in whatever order they came.
-/

namespace AxeVoice.Foundation

universe u v

variable {α : Type u} {κ : Type v}

section Keys

variable [LinearOrder κ] {before : α → α → Bool} {key : α → κ}

end Keys

end AxeVoice.Foundation
