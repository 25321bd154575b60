import Unknowns.Fault
import Unknowns.Proofs.Outline.Wording
import Unknowns.Variable

/-! Diagnostics are unambiguous: texts of faults and of variables differ wherever these do. -/

namespace Unknowns

/-- A handle is known by its text, and so are the words that follow it if none runs on from it. -/
theorem Handle.text_append_inj {left right : Handle} {words others : String}
    (apart : OpensApart words) (othersApart : OpensApart others) :
    left.text ++ words = right.text ++ others ↔ left = right ∧ words = others := by
  constructor
  · intro same
    -- The words may mark further numbers, but the first number is the index of the handle.
    have indices : left.index :: markedNumbers words.toList =
        right.index :: markedNumbers others.toList := by
      rw [← markedNumbers_handle left apart, same, markedNumbers_handle right othersApart]
    have handle : left = right := Handle.eq_of_index (List.cons.inj indices).1
    rw [handle, String.append_right_inj] at same
    exact ⟨handle, same⟩
  · rintro ⟨rfl, rfl⟩
    rfl

/-- A handle is known by its text. -/
theorem Handle.text_inj {left right : Handle} : left.text = right.text ↔ left = right := by
  have ended : OpensApart "" := by decide
  have known : left.text ++ "" = right.text ++ "" ↔ left = right ∧ "" = "" :=
    text_append_inj ended ended
  simpa using known

/-- The words about an expected type differ from other words in their fifth letter. -/
theorem ne_expectation (words : String) (letter : words.toList[4]? ≠ some 'n') (rest : String) :
    words ≠ " is not bound to a value of type `" ++ rest := by
  rintro rfl
  rw [String.toList_append, List.getElem?_append_left (by decide)] at letter
  exact letter (by decide)

/-- A fault is known by its sentence. -/
theorem Fault.message_inj {first second : Fault} :
    first.message = second.message ↔ first = second := by
  -- No words run on from the number of the variable.
  have unbound : OpensApart " is unbound" := by decide
  have alreadyBound : OpensApart " is already bound" := by decide
  have mismatch : ∀ rest, OpensApart (" is not bound to a value of type `" ++ rest) :=
    fun rest => OpensApart.append (by decide) (by decide) rest
  -- Words of two kinds differ, whatever the name of the type is.
  have kinds : (" is unbound" : String) ≠ " is already bound" := by decide
  have unboundOther := ne_expectation " is unbound" (by decide)
  have alreadyBoundOther := ne_expectation " is already bound" (by decide)
  cases first with
  | unbound left =>
    cases second <;>
      simp [message, String.append_assoc, Handle.text_append_inj, Handle.text_inj, *]
  | alreadyBound left =>
    cases second <;>
      simp [message, String.append_assoc, Handle.text_append_inj, Handle.text_inj, *, kinds.symm]
  | typeMismatch left expected =>
    have unboundToo := fun rest => (unboundOther rest).symm
    have alreadyBoundToo := fun rest => (alreadyBoundOther rest).symm
    cases second <;> simp [message, String.append_assoc, Handle.text_append_inj, *]

namespace Variable

variable {τ σ : Type} [Universe τ] [Universe σ] {left : τ} {right : σ}

/-- The last number that the text of a variable marks is its index. -/
theorem getLast?_markedNumbers_text (v : Variable left) :
    (markedNumbers v.text.toList).getLast? = some v.handle.index := by
  -- The name of the type may mark numbers as well, but it comes earlier.
  have parts : v.text.toList = ("Variable<" ++ Universe.name left).toList ++
      (">(" ++ (v.handle.text ++ ")")).toList := by
    simp only [text, String.toList_append, List.append_assoc]
  have apart : OpensApart (">(" ++ (v.handle.text ++ ")")) :=
    OpensApart.append (by decide) (by decide) _
  have ended : OpensApart ")" := by decide
  have last : markedNumbers (">(" ++ (v.handle.text ++ ")")).toList = [v.handle.index] := by
    rw [String.toList_append, markedNumbers_append (by decide), markedNumbers_handle _ ended]
    rfl
  rw [parts, markedNumbers_append_of_opensApart _ apart, last, List.getLast?_concat]

/-- A variable is known by its text, and so is the name of the type that it is viewed at. -/
theorem text_eq_iff {v : Variable left} {w : Variable right} :
    v.text = w.text ↔ Universe.name left = Universe.name right ∧ v.handle = w.handle := by
  constructor
  · intro same
    have indices : some v.handle.index = some w.handle.index := by
      rw [← getLast?_markedNumbers_text, same, getLast?_markedNumbers_text]
    have handle : v.handle = w.handle := Handle.eq_of_index (Option.some.inj indices)
    -- With equal handles behind them, the names are what is left between the same words.
    rw [text, text, handle, String.append_left_inj, String.append_left_inj,
      String.append_left_inj, String.append_right_inj] at same
    exact ⟨same, handle⟩
  · rintro ⟨name, handle⟩
    rw [text, text, name, handle]

end Variable

/--
Diagnostics are unambiguous, whatever the names of types are.

Two faults are told in the same sentence exactly when they are equal. Two handles have the same text
exactly when they are the same variable, and so have two typed variables whose types have one name.
-/
theorem diagnostics_unambiguous :
    (∀ first second : Fault, (first == second) = true ↔ first.message = second.message) ∧
      (∀ left right : Handle, sameIdentity left right = true ↔ left.text = right.text) ∧
      ∀ {τ σ : Type} [Universe τ] [Universe σ] {left : τ} {right : σ}
        (v : Variable left) (w : Variable right),
        Universe.name left = Universe.name right ∧ sameIdentity v w = true ↔ v.text = w.text := by
  refine ⟨fun first second => ?_, fun left right => ?_, fun v w => ?_⟩
  · rw [beq_iff_eq, Fault.message_inj]
  · rw [sameIdentity, beq_iff_eq, Handle.text_inj]
    exact Iff.rfl
  · rw [sameIdentity, beq_iff_eq, Variable.text_eq_iff]
    exact Iff.rfl

end Unknowns
