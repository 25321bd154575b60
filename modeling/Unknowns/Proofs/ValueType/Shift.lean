import Unknowns.Proofs.Property.Shift
import Unknowns.ValueType.Transforms

/-! The transforms on values tell handles apart and take them as they are, but never count them. -/

namespace Unknowns

namespace ValueType

/-- Content with all handles in it later. -/
def laterContent (offset : Nat) : (type : ValueType) → type.Content → type.Content
  | .handle, named => named.shift offset
  | .variableOf _, v => v.shift offset
  | .list item, items => items.map (laterContent offset item)
  | .option item, held => held.map (laterContent offset item)
  | .pair first second, both =>
    (laterContent offset first both.1, laterContent offset second both.2)
  | .result value error, outcome =>
    match outcome with
    | .ok content => .ok (laterContent offset value content)
    | .error cause => .error (laterContent offset error cause)
  | .boxed item, content => laterContent offset item content
  | .shared item, content => laterContent offset item content
  | .cell item, content => laterContent offset item content
  | .array item _, items => items.map (laterContent offset item)
  | .int _, content | .bool, content | .char, content | .binary64, content | .literal, content
  | .text, content | .unit, content => content

instance : Shiftable ValueType := ⟨laterContent⟩

/-- Whether there are no handles in the values of a type. -/
def isInert : ValueType → Bool
  | .handle | .variableOf _ => false
  | .list item | .option item | .boxed item | .shared item | .cell item | .array item _ =>
    item.isInert
  | .pair first second | .result first second => first.isInert && second.isInert
  | .int _ | .bool | .char | .binary64 | .literal | .text | .unit => true

variable {offset : Nat}

/-- Values without handles stay as they are. -/
theorem laterContent_of_isInert {type : ValueType} (inert : type.isInert = true)
    (content : type.Content) : laterContent offset type content = content := by
  induction type with
  | int | bool | char | binary64 | literal | text | unit => rfl
  | handle | variableOf => cases inert
  | list item ih =>
    have same : laterContent offset item = fun held => held := funext (ih inert)
    simp only [laterContent, same, List.map_id_fun']
    rfl
  | option item ih =>
    have same : laterContent offset item = fun held => held := funext (ih inert)
    simp only [laterContent, same]
    exact Option.map_id'
  | pair first second one other =>
    obtain ⟨left, right⟩ := Bool.and_eq_true_iff.mp inert
    simp only [laterContent, one left, other right]
  | result value error one other =>
    obtain ⟨left, right⟩ := Bool.and_eq_true_iff.mp inert
    cases content with
    | ok held => exact congrArg Except.ok (one left held)
    | error cause => exact congrArg Except.error (other right cause)
  | boxed item ih | shared item ih | cell item ih => exact ih inert content
  | array item length ih =>
    have same : laterContent offset item = fun held => held := funext (ih inert)
    simp only [laterContent, same]
    exact Vector.map_id' _

/-- What is given for a type without handles is given for it in any case. -/
theorem argument_shift {type : ValueType} (inert : type.isInert = true)
    (argument : Argument ValueType) : argument.shift offset type = argument type := by
  have same : shiftContent offset type = fun content => content :=
    funext (laterContent_of_isInert inert)
  rw [Argument.shift, same]
  exact Option.map_id'

/-- A transform between types without handles does the same in any case. -/
theorem shiftsTo_of_isInert {source : ValueType} {found : Found source}
    (inert : source.isInert = true) (target : found.target.isInert = true) :
    FoundTransform.ShiftsTo offset found found := by
  refine .mk ⟨rfl, fun content => ?_⟩
  have same : shiftContent offset found.target = fun content => content :=
    funext (laterContent_of_isInert target)
  have kept : shiftContent offset source content = content :=
    laterContent_of_isInert inert content
  rw [kept, shiftResult, same]
  cases found.transform.run content <;> rfl

/-- A transform that gives up on no value commutes with what it makes of a value. -/
theorem total_shiftsTo {source target : ValueType} {name : String}
    {function later : source.Content → target.Content}
    (same : ∀ content, later (laterContent offset source content) =
      laterContent offset target (function content)) :
    FoundTransform.ShiftsTo offset (total target name function) (total target name later) :=
  .mk ⟨rfl, fun content => congrArg Except.ok (same content)⟩

/-- From a type without handles, the transforms of tables lead to types without handles. -/
theorem isInert_of_ownTransform? {name : String} {argument : Argument ValueType}
    {source : ValueType} {found : Found source}
    (held : ownTransform? name argument source = some found) (inert : source.isInert = true) :
    found.target.isInert = true := by
  unfold ownTransform? at held
  split at held
  -- Handles, and variables of numbers, are no types without handles.
  case h_17 | h_18 => cases inert
  case h_19 => cases held
  all_goals
    -- Each table is gone through name by name; some names take an argument, which is read first.
    dsimp only [intTransform?, boolTransform?, charTransform?, binary64Transform?,
      literalTransform?, textTransform?, unitTransform?, bytesTransform?, intsTransform?,
      textsTransform?, intListsTransform?, optionTransform?, nestedOptionTransform?,
      pairTransform?, resultTransform?, boxedTransform?] at held
    split at held
    all_goals
      first
      | cases held; done
      | cases held; rfl
      | obtain ⟨_, _, made⟩ := Option.bind_eq_some_iff.mp held
        cases made
        rfl

/-- On a type without handles, the tables read their arguments at types without handles. -/
theorem ownTransform?_shift (name : String) (argument : Argument ValueType) {source : ValueType}
    (inert : source.isInert = true) :
    ownTransform? name (argument.shift offset) source = ownTransform? name argument source := by
  unfold ownTransform?
  split
  case h_17 | h_18 => cases inert
  all_goals
    -- Most tables read no argument; the others read it at their own type, or at one of its parts.
    first
    | rfl
    | dsimp only [intTransform?, binary64Transform?, textTransform?, intsTransform?,
        textsTransform?, optionTransform?]
      split
      all_goals first | rfl | rw [argument_shift rfl]

/-- A comparison with a later handle finds later handles the same that were the same. -/
theorem handleTransform?_uniform (argument : Argument ValueType) (name : String) :
    Option.Rel (FoundTransform.ShiftsTo offset) (handleTransform? argument name)
      (handleTransform? (argument.shift offset) name) := by
  unfold handleTransform?
  split
  · cases given : argument .handle with
    | none =>
      have later : argument.shift offset .handle = none := by rw [Argument.shift, given]; rfl
      rw [later]
      exact .none
    | some other =>
      have later : argument.shift offset .handle = some (other.shift offset) := by
        rw [Argument.shift, given]
        rfl
      rw [later]
      exact .some (total_shiftsTo fun (named : Handle) => named.beq_shift offset other)
  · exact .none

/-- The tables commute with handles being later. -/
theorem ownTransform?_uniform (name : String) (argument : Argument ValueType) (source : ValueType) :
    Option.Rel (FoundTransform.ShiftsTo offset) (ownTransform? name argument source)
      (ownTransform? name (argument.shift offset) source) := by
  by_cases inert : source.isInert = true
  · rw [ownTransform?_shift name argument inert]
    cases held : ownTransform? name argument source with
    | none => exact .none
    | some found => exact .some (shiftsTo_of_isInert inert (isInert_of_ownTransform? held inert))
  · unfold ownTransform?
    split
    case h_17 => exact handleTransform?_uniform argument name
    case h_18 =>
      -- A variable that forgets its type is its handle, which is later if the variable is.
      unfold variableTransform?
      split
      · exact .some (total_shiftsTo fun _ => rfl)
      · exact .none
    case h_19 => exact .none
    -- All other tables are of types without handles.
    all_goals exact absurd rfl inert

/-- The catalogue of all named transforms is uniform in the handles. -/
theorem catalogue_uniform (offset : Nat) : catalogue.Uniform offset := by
  intro name argument source
  simp only [catalogue, transform?]
  -- The identity takes a later value over as it is.
  split
  · exact .some (total_shiftsTo fun _ => rfl)
  · exact ownTransform?_uniform name argument source

end ValueType

end Unknowns
