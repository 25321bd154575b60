import Unknowns.Property

/-! Catalogues: the transforms that a session knows by name, for each type they apply to. -/

namespace Unknowns

variable {τ : Type} [Universe τ]

/-- Something given from outside, read at the type that it is asked for. -/
abbrev Argument (τ : Type) [Universe τ] := (type : τ) → Option (Carrier type)

/-- A transform whose target is found together with it. -/
structure FoundTransform (source : τ) where
  target : τ
  transform : Transform source target

/-- The transforms of a family of types by name, and the types whose values may be worked with. -/
structure Catalogue (τ : Type) [Universe τ] where
  hasValues : τ → Bool
  find? : String → Argument τ → (source : τ) → Option (FoundTransform source)

end Unknowns
