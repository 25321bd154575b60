import Unknowns.Proofs.Bindings.Rendering
import Unknowns.Proofs.Bindings.Shift

/-! The texts of later handles are the texts of the handles, with the later ones in their places. -/

namespace Unknowns

/-- A part of a wording with its handle later. -/
def WordingPart.shift (offset : Nat) : WordingPart → WordingPart
  | .plain words => .plain words
  | .handle named => .handle (named.shift offset)

/-- A wording with all its handles later. -/
def Wording.shift (offset : Nat) (wording : Wording) : Wording :=
  wording.map (·.shift offset)

namespace Wording

variable (offset : Nat)

/-- Later handles are enumerated in the same words. -/
theorem enumeration_shift (separator : String) (handles : List Handle) :
    enumeration separator (handles.map (·.shift offset)) =
      (enumeration separator handles).shift offset := by
  -- The separator stands between two handles, so the last one is a case of its own.
  induction handles with
  | nil => rfl
  | cons first rest ih =>
    cases rest with
    | nil => rfl
    | cons second later =>
      rw [List.map_cons] at ih
      rw [List.map_cons, List.map_cons, enumeration, ih]
      rfl

/-- Later handles stand between the same words. -/
theorem itemization_shift (before behind : String) (handles : List Handle) :
    itemization before behind (handles.map (·.shift offset)) =
      (itemization before behind handles).shift offset := by
  simp only [itemization, shift, List.flatMap_map, List.map_flatMap]
  rfl

/-- The wording of a store on one line is that of later variables. -/
theorem inlineWording_shift (handles : List Handle) :
    inlineWording (handles.map (·.shift offset)) = (inlineWording handles).shift offset := by
  rw [inlineWording, enumeration_shift]
  simp only [inlineWording, shift, List.map_append, List.map_cons]
  rfl

/-- So is the wording with one variable to a line. -/
theorem blockWording_shift (handles : List Handle) :
    blockWording (handles.map (·.shift offset)) = (blockWording handles).shift offset := by
  rw [blockWording, itemization_shift]
  -- There are later variables exactly where there are variables.
  simp only [blockWording, shift, List.map_append, List.map_cons, List.map_eq_nil_iff]
  rfl

end Wording

/-- A text for every offset, which differs between them in the texts of the handles only. -/
def Worded (text : Nat → String) : Prop :=
  -- The wording comes first, so that it is one for all offsets.
  ∃ wording : Wording, ∀ offset, text offset = (wording.shift offset).text

namespace Worded

/-- The text of a handle has its handle. -/
theorem handle (named : Handle) : Worded fun offset => (named.shift offset).text :=
  ⟨[.handle named], fun _ => by simp [Wording.shift, WordingPart.shift, Wording.text]⟩

/-- Words may stand in front of a text. -/
theorem behind (words : String) {text : Nat → String} (worded : Worded text) :
    Worded fun offset => words ++ text offset := by
  obtain ⟨wording, shown⟩ := worded
  refine ⟨.plain words :: wording, fun offset => ?_⟩
  dsimp only
  rw [shown]
  rfl

/-- Words may stand behind the text of a handle. -/
theorem before (named : Handle) (words : String) :
    Worded fun offset => (named.shift offset).text ++ words :=
  ⟨[.handle named, .plain words], fun _ => by
    simp [Wording.shift, WordingPart.shift, Wording.text]⟩

/-- A tuple of a handle has the handle on its only line. -/
theorem tuple_inline (name : String) (handle : Handle) :
    Worded fun offset => (Outline.tuple name [.atom (handle.shift offset).text]).inline := by
  have written (text : String) :
      (Outline.tuple name [.atom text]).inline = name ++ ("(" ++ (text ++ ")")) := by
    simp [Outline.inline, Outline.inlineItems, String.append_assoc]
  simp only [written]
  exact .behind _ (.behind _ (.before _ _))

/-- On several lines, the handle is on a line of its own. -/
theorem tuple_block (name : String) (handle : Handle) :
    Worded fun offset => (Outline.tuple name [.atom (handle.shift offset).text]).block := by
  have written (text : String) : (Outline.tuple name [.atom text]).block =
      name ++ ("(\n" ++ ("    " ++ (text ++ ",\n)"))) := by
    simp [Outline.block, Outline.lines, Outline.itemLines, Outline.enclosed, Outline.indented,
      Outline.indentation, Outline.withComma, String.append_assoc]
  simp only [written]
  exact .behind _ (.behind _ (.behind _ (.before _ _)))

end Worded

/-- The text of a variable has its handle behind the name of its type. -/
theorem Variable.worded_text {τ : Type} [Universe τ] {type : τ} (v : Variable type) :
    Worded fun offset => (v.shift offset).text := by
  have written (offset : Nat) : (v.shift offset).text =
      "Variable<" ++ (Universe.name type ++ (">(" ++ ((v.handle.shift offset).text ++ ")"))) := by
    simp [text, shift, String.append_assoc]
  simp only [written]
  exact .behind _ (.behind _ (.behind _ (.before _ _)))

namespace Fault

/-- The sentence of a fault names its handle. -/
theorem worded_message (fault : Fault) : Worded fun offset => (fault.shift offset).message := by
  cases fault with
  | unbound | alreadyBound | typeMismatch =>
    -- The handle stands behind the same word in all sentences, and the type behind the handle.
    simp only [shift, message, String.append_assoc]
    exact .behind _ (.before _ _)

/-- So does its description on one line. -/
theorem worded_inline (fault : Fault) :
    Worded fun offset => (fault.shift offset).outline.inline := by
  cases fault with
  | unbound handle => exact Worded.tuple_inline "Unbound" handle
  | alreadyBound handle => exact Worded.tuple_inline "AlreadyBound" handle
  | typeMismatch handle expected =>
    have written (offset : Nat) : (shift offset (.typeMismatch handle expected)).outline.inline =
        "TypeMismatch \x7b " ++ ("variable: " ++ ((handle.shift offset).text ++
          (", " ++ ("expected: " ++ (quoted expected ++ " \x7d"))))) := by
      simp [shift, outline, Outline.inline, Outline.inlineFields, Outline.moreFields,
        Outline.ofName, String.append_assoc]
    simp only [written]
    exact .behind _ (.behind _ (.before _ _))

/-- And its description on several lines. -/
theorem worded_block (fault : Fault) : Worded fun offset => (fault.shift offset).outline.block := by
  cases fault with
  | unbound handle => exact Worded.tuple_block "Unbound" handle
  | alreadyBound handle => exact Worded.tuple_block "AlreadyBound" handle
  | typeMismatch handle expected =>
    have written (offset : Nat) : (shift offset (.typeMismatch handle expected)).outline.block =
        "TypeMismatch \x7b\n" ++ ("    " ++ ("variable: " ++ ((handle.shift offset).text ++
          (",\n" ++ ("    " ++ ("expected: " ++ (quoted expected ++ ",\n\x7d"))))))) := by
      simp [shift, outline, Outline.block, Outline.lines, Outline.fieldLines, Outline.labelled,
        Outline.enclosed, Outline.indented, Outline.indentation, Outline.withComma,
        Outline.moreFields, Outline.ofName, String.append_assoc]
    simp only [written]
    exact .behind _ (.behind _ (.behind _ (.before _ _)))

end Fault

namespace PropertyDescription

variable (description : PropertyDescription)

/-- The description of a property names the handle of its variable. -/
theorem worded_inline : Worded fun offset => (description.shift offset).outline.inline := by
  have written (offset : Nat) : (description.shift offset).outline.inline =
      "Property \x7b " ++ ("variable: " ++ ((description.handle.shift offset).text ++
        (", " ++ ("source_type: " ++ (quoted description.sourceName ++
          (", " ++ ("value_type: " ++ (quoted description.targetName ++ ", .. \x7d")))))))) := by
    simp [shift, outline, Outline.inline, Outline.inlineFields, Outline.moreFields,
      Outline.ofName, String.append_assoc]
  simp only [written]
  exact .behind _ (.behind _ (.before _ _))

/-- On several lines as well. -/
theorem worded_block : Worded fun offset => (description.shift offset).outline.block := by
  have written (offset : Nat) : (description.shift offset).outline.block =
      "Property \x7b\n" ++ ("    " ++ ("variable: " ++ ((description.handle.shift offset).text ++
        (",\n" ++ ("    " ++ ("source_type: " ++ (quoted description.sourceName ++ (",\n" ++
          ("    " ++ ("value_type: " ++ (quoted description.targetName ++
            ",\n    ..\n\x7d"))))))))))) := by
    simp [shift, outline, Outline.block, Outline.lines, Outline.fieldLines, Outline.labelled,
      Outline.enclosed, Outline.indented, Outline.indentation, Outline.withComma,
      Outline.moreFields, Outline.ofName, String.append_assoc]
  simp only [written]
  exact .behind _ (.behind _ (.behind _ (.before _ _)))

end PropertyDescription

namespace StoreDescription

variable (description : StoreDescription)

/-- The description of a store names the handles of its variables. -/
theorem worded_inline : Worded fun offset => (description.shift offset).outline.inline := by
  refine ⟨inlineWording description.handles, fun offset => ?_⟩
  dsimp only
  rw [inline_outline, ← Wording.inlineWording_shift]
  rfl

/-- On several lines as well. -/
theorem worded_block : Worded fun offset => (description.shift offset).outline.block := by
  refine ⟨blockWording description.handles, fun offset => ?_⟩
  dsimp only
  rw [block_outline, ← Wording.blockWording_shift]
  rfl

end StoreDescription

/-- Whatever is shown of handles is shown by words that the later handles are put into. -/
structure ShownAlike : Prop where
  handle : ∀ handle : Handle, Worded fun offset => (handle.shift offset).text
  view : ∀ {τ : Type} [Universe τ] {type : τ} (v : Variable type),
    Worded fun offset => (v.shift offset).text
  message : ∀ fault : Fault, Worded fun offset => (fault.shift offset).message
  fault : ∀ fault : Fault, Worded fun offset => (fault.shift offset).outline.inline
  faultBlock : ∀ fault : Fault, Worded fun offset => (fault.shift offset).outline.block
  property : ∀ description : PropertyDescription,
    Worded fun offset => (description.shift offset).outline.inline
  propertyBlock : ∀ description : PropertyDescription,
    Worded fun offset => (description.shift offset).outline.block
  store : ∀ description : StoreDescription,
    Worded fun offset => (description.shift offset).outline.inline
  storeBlock : ∀ description : StoreDescription,
    Worded fun offset => (description.shift offset).outline.block

/-- All texts with handles in them are. -/
theorem shownAlike : ShownAlike where
  handle := Worded.handle
  view := Variable.worded_text
  message := Fault.worded_message
  fault := Fault.worded_inline
  faultBlock := Fault.worded_block
  property := PropertyDescription.worded_inline
  propertyBlock := PropertyDescription.worded_block
  store := StoreDescription.worded_inline
  storeBlock := StoreDescription.worded_block

end Unknowns
