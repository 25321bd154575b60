import Unknowns.Handle

/-! Wordings: texts with places for handles, which are read back from the finished text. -/

namespace Unknowns

/-- A part of a wording: some plain text, or the place of a handle. -/
inductive WordingPart
  | plain (text : String)
  | handle (handle : Handle)

/-- A text with places for handles. -/
abbrev Wording := List WordingPart

namespace Wording

/-- The finished text, with the text of each handle in its place. -/
def text : Wording → String
  | [] => ""
  | .plain words :: rest => words ++ text rest
  | .handle handle :: rest => handle.text ++ text rest

/-- The handles of a wording, in the order of their places. -/
def handles : Wording → List Handle
  | [] => []
  | .plain _ :: rest => handles rest
  | .handle handle :: rest => handle :: handles rest

/-- Handles one after another, with the same words between them. -/
def enumeration (separator : String) : List Handle → Wording
  | [] => []
  | [last] => [.handle last]
  | first :: second :: rest =>
    .handle first :: .plain separator :: enumeration separator (second :: rest)

/-- Handles one after another, each between the same words. -/
def itemization (before behind : String) (handles : List Handle) : Wording :=
  handles.flatMap fun handle => [.plain before, .handle handle, .plain behind]

/-- The text of two wordings in a row. -/
theorem text_append (first second : Wording) :
    text (first ++ second) = first.text ++ second.text := by
  induction first with
  | nil => simp [text]
  | cons part rest ih => cases part <;> simp [text, ih, String.append_assoc]

/-- The handles of two wordings in a row. -/
theorem handles_append (first second : Wording) :
    handles (first ++ second) = first.handles ++ second.handles := by
  induction first with
  | nil => rfl
  | cons part rest ih => cases part <;> simp [handles, ih]

/-- Handles with words between them are those of the list. -/
theorem handles_enumeration (separator : String) (listed : List Handle) :
    (enumeration separator listed).handles = listed := by
  induction listed with
  | nil => rfl
  | cons first rest ih =>
    cases rest with
    | nil => rfl
    | cons second later =>
      rw [enumeration, handles, handles, ih]

/-- Handles between words are those of the list. -/
theorem handles_itemization (before behind : String) (listed : List Handle) :
    (itemization before behind listed).handles = listed := by
  induction listed with
  | nil => rfl
  | cons first rest ih =>
    have next : itemization before behind (first :: rest) =
        [.plain before, .handle first, .plain behind] ++ itemization before behind rest := rfl
    rw [next, handles_append, ih]
    rfl

/-- The text of handles with words between them. -/
theorem text_enumeration (separator : String) (listed : List Handle) :
    (enumeration separator listed).text = separator.intercalate (listed.map Handle.text) := by
  -- There is no separator behind the last handle, so a second one is looked for.
  induction listed with
  | nil => simp [enumeration, text]
  | cons first rest ih =>
    cases rest with
    | nil => simp [enumeration, text]
    | cons second later =>
      rw [enumeration, text, text, ih]
      simp [String.append_assoc]

/-- The text of handles between words. -/
theorem text_itemization (before behind : String) (listed : List Handle) :
    (itemization before behind listed).text =
      String.join (listed.map fun handle => before ++ (handle.text ++ behind)) := by
  induction listed with
  | nil => simp [itemization, text]
  | cons first rest ih =>
    have next : itemization before behind (first :: rest) =
        [.plain before, .handle first, .plain behind] ++ itemization before behind rest := rfl
    rw [next, text_append, ih]
    simp [text, String.append_assoc]

end Wording

/-- The numbers that stand behind the question marks of a text, in order. -/
def markedNumbers : List Char → List Nat
  | [] => []
  | c :: rest =>
    -- The digits are read where the mark is, and then passed over as plain text.
    if c = '?' then Nat.ofDigitChars 10 (rest.takeWhile Char.isDigit) 0 :: markedNumbers rest
    else markedNumbers rest

/-- Text without a question mark marks no number. -/
theorem markedNumbers_append {plain : List Char} (unmarked : '?' ∉ plain) (rest : List Char) :
    markedNumbers (plain ++ rest) = markedNumbers rest := by
  induction plain with
  | nil => rfl
  | cons c later ih =>
    rw [List.mem_cons, not_or] at unmarked
    rw [List.cons_append, markedNumbers, if_neg (Ne.symm unmarked.1), ih unmarked.2]

/-- No digit opens a text, so that a number in front of it ends there. -/
def OpensApart (text : String) : Prop :=
  text.toList.head?.all fun c => !c.isDigit

instance (text : String) : Decidable (OpensApart text) :=
  inferInstanceAs (Decidable (_ = true))

/-- What follows a text that opens apart does not matter, unless the text is empty. -/
theorem OpensApart.append {opening : String} (apart : OpensApart opening)
    (present : opening ≠ "") (rest : String) : OpensApart (opening ++ rest) := by
  unfold OpensApart at apart ⊢
  cases opened : opening.toList with
  | nil => exact absurd (String.toList_eq_nil_iff.mp opened) present
  | cons first later =>
    rw [opened] at apart
    rw [String.toList_append, opened]
    exact apart

/-- No number runs on into a text that opens apart. -/
theorem OpensApart.takeWhile_isDigit {text : String} (apart : OpensApart text) :
    text.toList.takeWhile Char.isDigit = [] := by
  cases opened : text.toList with
  | nil => rfl
  | cons first later =>
    have other : first.isDigit = false := by simpa [OpensApart, opened] using apart
    exact List.takeWhile_cons_of_neg (by simp [other])

/-- Numbers are marked on both sides of a place where none runs on. -/
theorem markedNumbers_append_of_opensApart (opening : List Char) {rest : String}
    (apart : OpensApart rest) :
    markedNumbers (opening ++ rest.toList) =
      markedNumbers opening ++ markedNumbers rest.toList := by
  induction opening with
  | nil => rfl
  | cons c later ih =>
    rw [List.cons_append, markedNumbers, markedNumbers, ih]
    split
    · -- The number behind this mark ends within the opening, or exactly where the rest begins.
      have ended : (later ++ rest.toList).takeWhile Char.isDigit =
          later.takeWhile Char.isDigit := by
        rw [List.takeWhile_append, apart.takeWhile_isDigit, List.append_nil]
        split
        · rename_i whole
          exact ((List.takeWhile_prefix _).eq_of_length whole).symm
        · rfl
      rw [ended, List.cons_append]
    · rfl

/-- The text of a handle marks its index, if no digit follows. -/
theorem markedNumbers_handle (handle : Handle) {rest : String} (apart : OpensApart rest) :
    markedNumbers (handle.text ++ rest).toList =
      handle.index :: markedNumbers rest.toList := by
  have written : handle.text.toList = '?' :: Nat.toDigits 10 handle.index := by
    simp [Handle.text, Nat.toString_eq_repr, Nat.toList_repr]
  have digits : ∀ c ∈ Nat.toDigits 10 handle.index, c.isDigit = true :=
    fun c member => Nat.isDigit_of_mem_toDigits (by omega) (by omega) member
  -- The mark itself is no digit, so the digits are passed over to the end of the number.
  have unmarked : '?' ∉ Nat.toDigits 10 handle.index := by
    intro member
    exact absurd (digits '?' member) (by decide)
  rw [String.toList_append, written, List.cons_append, markedNumbers, if_pos rfl,
    markedNumbers_append unmarked, List.takeWhile_append_of_pos digits, apart.takeWhile_isDigit,
    List.append_nil]
  -- The digits of an index are read as the index.
  rw [Nat.ofDigitChars_toDigits (by omega) (by omega)]

namespace Wording

/-- A wording whose plain parts mark nothing, and whose handles end where the next part begins. -/
def Legible : Wording → Prop
  | [] => True
  | .plain words :: rest => '?' ∉ words.toList ∧ Legible rest
  | .handle _ :: rest => OpensApart (text rest) ∧ Legible rest

/-- From the text of a legible wording its handles are read back. -/
theorem markedNumbers_text {wording : Wording} (legible : wording.Legible) :
    markedNumbers wording.text.toList = wording.handles.map (·.index) := by
  -- Plain parts mark nothing, and every handle ends where the rest begins.
  induction wording with
  | nil => rfl
  | cons part rest ih =>
    cases part with
    | plain words =>
      rw [text, String.toList_append, markedNumbers_append legible.1, ih legible.2, handles]
    | handle handle =>
      rw [text, markedNumbers_handle handle legible.1, ih legible.2, handles, List.map_cons]

/-- Handles with words between them are legible in front of words that end the last of them. -/
theorem legible_enumeration {separator : String} {closing : Wording}
    (apart : ∀ words, OpensApart (separator ++ words)) (unmarked : '?' ∉ separator.toList)
    (ended : OpensApart closing.text) (legible : closing.Legible) (listed : List Handle) :
    Legible (enumeration separator listed ++ closing) := by
  induction listed with
  | nil => exact legible
  | cons first rest ih =>
    cases rest with
    | nil => exact ⟨ended, legible⟩
    | cons second later => exact ⟨apart _, unmarked, ih⟩

/-- Handles between words are legible in front of anything legible. -/
theorem legible_itemization {before behind : String} {closing : Wording}
    (apart : ∀ words, OpensApart (behind ++ words)) (unmarked : '?' ∉ before.toList)
    (alsoUnmarked : '?' ∉ behind.toList) (legible : closing.Legible) (listed : List Handle) :
    Legible (itemization before behind listed ++ closing) := by
  induction listed with
  | nil => exact legible
  | cons first rest ih => exact ⟨unmarked, apart _, alsoUnmarked, ih⟩

end Wording

end Unknowns
