import Unknowns.Proofs.Bindings.Observation
import Unknowns.Proofs.Outline.Wording

/-! The text of a store names its bound variables, all of them, in order, and nothing else. -/

namespace Unknowns

namespace Outline

/-- Bare texts are items as they are. -/
theorem inlineItems_atoms (handles : List Handle) :
    inlineItems (handles.map fun handle => .atom handle.text) = handles.map Handle.text := by
  induction handles with
  | nil => rfl
  | cons first rest ih => rw [List.map_cons, inlineItems, ih, inline, List.map_cons]

/-- Each bare text has a line, ended by a comma. -/
theorem itemLines_atoms (handles : List Handle) :
    itemLines (handles.map fun handle => .atom handle.text) =
      handles.map fun handle => handle.text ++ "," := by
  induction handles with
  | nil => rfl
  | cons first rest ih => rw [List.map_cons, itemLines, ih, lines, List.map_cons]; rfl

/-- The comma stands behind the last of all lines. -/
theorem withComma_concat (earlier : List String) (last : String) :
    withComma (earlier ++ [last]) = earlier ++ [last ++ ","] := by
  induction earlier with
  | nil => rfl
  | cons first rest ih =>
    -- With the last line behind it, no line of the earlier ones is the last.
    cases rest with
    | nil => rfl
    | cons second later => exact congrArg (first :: ·) ih

/-- Texts with a separator are the first of them, and the others each behind the separator. -/
theorem intercalate_cons (separator first : String) (rest : List String) :
    separator.intercalate (first :: rest) =
      first ++ String.join (rest.map fun text => separator ++ text) := by
  induction rest generalizing first with
  | nil => simp
  | cons second later ih => simp [ih, String.append_assoc]

end Outline

/-- The wording of a store on one line. -/
def inlineWording (handles : List Handle) : Wording :=
  .plain "Bindings \x7b bound: [" :: Wording.enumeration ", " handles ++ [.plain "] \x7d"]

/-- The wording of a store with a variable to a line. -/
def blockWording (handles : List Handle) : Wording :=
  -- Without variables the list is closed on the line where it is opened.
  let closing := if handles = [] then "],\n\x7d" else "\n    ],\n\x7d"
  .plain "Bindings \x7b\n    bound: [" :: Wording.itemization "\n        " "," handles ++
    [.plain closing]

namespace StoreDescription

variable (description : StoreDescription)

/-- The text of a description on one line. -/
theorem inline_outline :
    description.outline.inline = (inlineWording description.handles).text := by
  have shown : description.outline.inline = "Bindings \x7b " ++ ("bound: " ++ ("[" ++
      (", ".intercalate (description.handles.map Handle.text) ++ "] \x7d"))) := by
    simp [outline, Outline.inline, Outline.inlineFields, Outline.moreFields,
      Outline.inlineItems_atoms, String.append_assoc]
  have opening : "Bindings \x7b " ++ "bound: " ++ "[" = "Bindings \x7b bound: [" := rfl
  rw [shown, ← String.append_assoc, ← String.append_assoc, opening]
  simp [inlineWording, Wording.text, Wording.text_append, Wording.text_enumeration]

/-- The text of a description with one variable to a line. -/
theorem block_outline :
    description.outline.block = (blockWording description.handles).text := by
  have listed : description.outline.lines = Outline.enclosed "Bindings \x7b" "\x7d"
      (Outline.withComma (Outline.labelled "bound: " (Outline.enclosed "[" "]"
        (description.handles.map fun handle => handle.text ++ ",")))) := by
    rw [← Outline.itemLines_atoms]
    simp [outline, Outline.lines, Outline.fieldLines, Outline.moreFields]
  rw [Outline.block, listed]
  by_cases unbound : description.handles = []
  · -- An empty list is not opened onto lines of its own.
    rw [unbound]
    rfl
  · -- A line of its own for the bracket, for each variable, and for the closing bracket.
    have parts : Outline.enclosed "[" "]" (description.handles.map fun handle =>
        handle.text ++ ",") = "[" :: Outline.indented (description.handles.map fun handle =>
          handle.text ++ ",") ++ ["]"] := by
      simp [Outline.enclosed, unbound]
    -- Words that meet in the text are one text of the wording.
    have opening (text : String) :
        "Bindings \x7b" ++ ("\n    bound: [" ++ text) = "Bindings \x7b\n    bound: [" ++ text := by
      rw [← String.append_assoc]
      rfl
    have moved (text : String) : "\n" ++ ("    " ++ ("    " ++ text)) = "\n        " ++ text := by
      rw [← String.append_assoc, ← String.append_assoc]
      rfl
    rw [parts, List.cons_append, Outline.labelled, ← List.cons_append, Outline.withComma_concat]
    simp [Outline.enclosed, Outline.indented, Outline.intercalate_cons, Outline.indentation,
      blockWording, Wording.text, Wording.text_append, Wording.text_itemization, unbound,
      Function.comp_def, opening, moved]

end StoreDescription

/-- The handles of the text of a store on one line are read back from it. -/
theorem markedNumbers_inlineWording (handles : List Handle) :
    markedNumbers (inlineWording handles).text.toList = handles.map (·.index) := by
  have legible : (inlineWording handles).Legible := by
    refine ⟨by decide, Wording.legible_enumeration ?_ (by decide) ?_ ?_ handles⟩
    · exact OpensApart.append (by decide) (by decide)
    · -- The last handle ends at the bracket.
      exact OpensApart.append (by decide) (by decide) _
    · exact ⟨by decide, trivial⟩
  rw [Wording.markedNumbers_text legible]
  simp [inlineWording, Wording.handles, Wording.handles_append, Wording.handles_enumeration]

/-- The handles of the text of a store with one variable to a line are read back from it. -/
theorem markedNumbers_blockWording (handles : List Handle) :
    markedNumbers (blockWording handles).text.toList = handles.map (·.index) := by
  have legible : (blockWording handles).Legible := by
    refine ⟨by decide, Wording.legible_itemization ?_ (by decide) (by decide) ?_ handles⟩
    · -- Every handle ends at its comma.
      exact OpensApart.append (by decide) (by decide)
    · refine ⟨?_, trivial⟩
      split <;> decide
  rw [Wording.markedNumbers_text legible]
  simp [blockWording, Wording.handles, Wording.handles_append, Wording.handles_itemization]

namespace Bindings

variable {τ : Type} [Universe τ]

/-- A text is determined by the bound variables, and determines them. -/
theorem text_eq_iff {text : List Handle → String}
    (marked : ∀ handles, markedNumbers (text handles).toList = handles.map (·.index))
    (first second : Bindings τ) :
    text first.description.handles = text second.description.handles ↔
      ∀ handle, handle ∈ first.handles ↔ handle ∈ second.handles := by
  refine ⟨fun equal => ?_, fun same => ?_⟩
  · -- The numbers behind the marks are the indices, and an index has one handle.
    have indices : first.description.handles.map (·.index) =
        second.description.handles.map (·.index) := by
      rw [← marked, equal, marked]
    exact ascending_eq_iff.mp ((List.map_inj_right fun _ _ => Handle.eq_of_index).mp indices)
  · -- Stores with the same bound variables have the same description, and that is all that is shown.
    rw [description_eq_iff.mpr same]

/-- The text of a store shows its bound variables, each once, in the order of minting. -/
structure WrittenAs (store : Bindings τ) (handles : List Handle) : Prop where
  -- Strictly ascending, so that no handle is there twice.
  ascending : handles.Pairwise (· < ·)
  bound : ∀ handle, handle ∈ handles ↔ handle ∈ store.handles
  inline : store.description.outline.inline = (inlineWording handles).text
  -- Nothing else in the text could be taken for a handle.
  inlineMarks : markedNumbers store.description.outline.inline.toList = handles.map (·.index)
  block : store.description.outline.block = (blockWording handles).text
  blockMarks : markedNumbers store.description.outline.block.toList = handles.map (·.index)

/-- There is a list of handles that the text of a store shows, and it is the description's. -/
theorem writtenAs_description (store : Bindings τ) : store.WrittenAs store.description.handles where
  ascending := pairwise_ascending store.handles
  bound _ := mem_ascending
  inline := store.description.inline_outline
  inlineMarks := by rw [StoreDescription.inline_outline, markedNumbers_inlineWording]
  block := store.description.block_outline
  blockMarks := by rw [StoreDescription.block_outline, markedNumbers_blockWording]

/--
The text of a store is canonical and unambiguous, on one line as well as on several.

Two stores have the same text exactly when the same variables are bound in them, whatever they are
bound to, and each text lists the bound variables, each once, in the order of minting.
-/
theorem text_canonical (first second : Bindings τ) :
    (first.description.outline.inline = second.description.outline.inline ↔
        ∀ handle, handle ∈ first.handles ↔ handle ∈ second.handles) ∧
      (first.description.outline.block = second.description.outline.block ↔
        ∀ handle, handle ∈ first.handles ↔ handle ∈ second.handles) ∧
      ∃ handles, first.WrittenAs handles := by
  refine ⟨?_, ?_, _, first.writtenAs_description⟩
  · rw [StoreDescription.inline_outline, StoreDescription.inline_outline]
    exact text_eq_iff markedNumbers_inlineWording first second
  · rw [StoreDescription.block_outline, StoreDescription.block_outline]
    exact text_eq_iff markedNumbers_blockWording first second

end Bindings

end Unknowns
