/-! Handles of variables: identities that are handed out in order and compared by it. -/

namespace Unknowns

/-- The identity of one variable: its place in the order of minting, counted from one. -/
structure Handle where
  index : Nat
  positive : 0 < index
deriving DecidableEq

namespace Handle

instance : LT Handle := ⟨fun left right => left.index < right.index⟩

instance (left right : Handle) : Decidable (left < right) :=
  inferInstanceAs (Decidable (left.index < right.index))

instance : LE Handle := ⟨fun left right => left.index ≤ right.index⟩

instance (left right : Handle) : Decidable (left ≤ right) :=
  inferInstanceAs (Decidable (left.index ≤ right.index))

instance : Hashable Handle := ⟨fun handle => hash handle.index⟩

/-- Handles with the same index are the same. -/
theorem eq_of_index {left right : Handle} (same : left.index = right.index) : left = right := by
  cases left
  cases right
  cases same
  rfl

instance : @Std.Trichotomous Handle (· < ·) :=
  ⟨fun _ _ notBelow notAbove =>
    eq_of_index (Nat.le_antisymm (Nat.le_of_not_lt notAbove) (Nat.le_of_not_lt notBelow))⟩

instance : @Trans Handle Handle Handle (· < ·) (· < ·) (· < ·) :=
  ⟨fun first second => Nat.lt_trans first second⟩

instance : @Std.Irrefl Handle (· < ·) :=
  ⟨fun handle => Nat.lt_irrefl handle.index⟩

/-- The order of minting. -/
def order (left right : Handle) : Ordering :=
  compare left.index right.index

/-- The text that a handle is shown by. -/
def text (handle : Handle) : String :=
  "?" ++ toString handle.index

end Handle

/-- The source of fresh handles: everything below the next index has been handed out. -/
structure Supply where
  next : Nat
  positive : 0 < next
deriving DecidableEq

namespace Supply

/-- A supply that nothing was taken from. -/
def fresh : Supply := ⟨1, Nat.one_pos⟩

/-- The next handle, and the supply without it. -/
def mint (supply : Supply) : Handle × Supply :=
  -- No index is handed out twice, since the next one only grows.
  (⟨supply.next, supply.positive⟩, ⟨supply.next + 1, Nat.succ_pos supply.next⟩)

/-- A given number of handles in minting order, and the supply without them. -/
def mintMany : Nat → Supply → List Handle × Supply
  | 0, supply => ([], supply)
  | count + 1, supply =>
    let (first, rest) := supply.mint
    let (others, last) := mintMany count rest
    (first :: others, last)

end Supply

end Unknowns
