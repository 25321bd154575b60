/-! Families of value types, and values that carry the code of their type. -/

namespace Unknowns

/-- A family of value types: each has a code, holds values, and is shown by a name. -/
class Universe (τ : Type) where
  Carrier : τ → Type
  name : τ → String

export Universe (Carrier)

/-- A value together with the code of its type. -/
structure Value (τ : Type) [Universe τ] where
  type : τ
  content : Carrier type

namespace Value

variable {τ : Type} [Universe τ] [DecidableEq τ]

/-- The content read at a type, none when the value is of another type. -/
def as? (value : Value τ) (type : τ) : Option (Carrier type) :=
  if same : value.type = type then some (same ▸ value.content) else none

/-- A value reads back at its own type. -/
@[simp] theorem as?_self (type : τ) (content : Carrier type) :
    (Value.mk type content).as? type = some content := by
  simp [as?]

/-- A value reads as nothing at any other type. -/
theorem as?_of_ne {value : Value τ} {type : τ} (differ : value.type ≠ type) :
    value.as? type = none := by
  simp [as?, differ]

/-- A value reads as nothing exactly at the types that it is not of. -/
theorem as?_eq_none_iff {value : Value τ} {type : τ} :
    value.as? type = none ↔ value.type ≠ type := by
  simp [as?]

/-- A value reads at a type exactly when it is of that type. -/
theorem as?_eq_some_iff {value : Value τ} {type : τ} {content : Carrier type} :
    value.as? type = some content ↔ value = ⟨type, content⟩ := by
  rcases value with ⟨actual, held⟩
  constructor
  · intro read
    by_cases same : actual = type
    · subst same
      simp [as?] at read
      rw [read]
    · simp [as?, same] at read
  · intro equal
    cases equal
    simp

end Value

end Unknowns
