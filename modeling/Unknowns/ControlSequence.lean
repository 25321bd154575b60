/-! Control sequences for a terminal inside a text, and the text that is left without them. -/

namespace Unknowns

namespace ControlSequence

/-- Where a reading of a text stands. -/
inductive Place
  -- Outside every sequence.
  | text
  | escape
  -- Behind an escape and intermediate characters; one more character ends the sequence.
  | escapeIntermediates
  -- In a sequence with parameters, which a final character ends.
  | parameters
  -- In the head of a device control string, by what was last read of it.
  | device
  | deviceParameters
  | deviceIntermediates
  -- In the body of a control string, which only its terminator ends.
  | body
  -- In a command to the operating system, which the bell ends.
  | command
deriving DecidableEq

/-- Control characters that lay out a text instead of steering a terminal. -/
def isLayout (c : Char) : Bool :=
  c == '\t' || c == '\n' || c == '\x0c' || c == '\r'

/-- Characters that a text outside every sequence shows. -/
def isVisible (c : Char) : Bool :=
  isLayout c || (' ' ≤ c && c != '\x7f')

/-- Characters that may stand between an escape and the end of its sequence. -/
def isIntermediate (c : Char) : Bool :=
  ' ' ≤ c && c ≤ '/'

/-- Characters that parameters are written with. -/
def isParameter (c : Char) : Bool :=
  '0' ≤ c && c ≤ '?'

/-- Characters that end a sequence with parameters. -/
def isFinal (c : Char) : Bool :=
  '@' ≤ c && c ≤ '~'

/-- The encoding of a character holds the one-byte string terminator. -/
def terminatesString (c : Char) : Bool :=
  (String.utf8EncodeChar c).contains 0x9c

namespace Place

/-- The place behind an escape and one more character. -/
def afterEscape (c : Char) : Place :=
  if c = '[' then .parameters
  else if c = ']' then .command
  else if c = 'P' then .device
  -- Three kinds of string have no head.
  else if c = 'X' ∨ c = '^' ∨ c = '_' then .body
  else if isIntermediate c then .escapeIntermediates
  -- Any other character of the seven-bit code is a whole sequence with the escape.
  else if isParameter c || isFinal c then .text
  else .escape

/-- The place behind one more character. -/
def next (place : Place) (c : Char) : Place :=
  if c = '\x1b' then .escape
  -- Cancelling and substituting break any sequence off.
  else if c = '\x18' ∨ c = '\x1a' then .text
  else match place with
    | .text => .text
    | .escape => afterEscape c
    | .escapeIntermediates => if isParameter c || isFinal c then .text else .escapeIntermediates
    | .parameters => if isFinal c then .text else .parameters
    | .device =>
      if isIntermediate c then .deviceIntermediates
      else if isParameter c then .deviceParameters
      else if isFinal c then .body
      else .device
    | .deviceParameters =>
      if isIntermediate c then .deviceIntermediates
      -- A private mark may only be the first parameter character; elsewhere it spoils the head.
      else if isFinal c || (isParameter c && '<' ≤ c) then .body
      else .deviceParameters
    | .deviceIntermediates => if isParameter c || isFinal c then .body else .deviceIntermediates
    | .body => if terminatesString c then .text else .body
    | .command => if c = '\x07' then .text else .command

/-- A character starts a visible run at a place. Layout is heeded within a sequence, not in a string. -/
def shows (place : Place) (c : Char) : Bool :=
  match place with
  | .text => isVisible c
  | .escape | .escapeIntermediates | .parameters => isLayout c
  | _ => false

end Place

/-- The characters left of a text that is read from a place, inside a visible run or not. -/
def visibleFrom (place : Place) (running : Bool) : List Char → List Char
  | [] => []
  | c :: rest =>
    -- A run goes on up to a character that is not visible. A sequence that it broke into waits
    -- for the end of the run, and is forgotten when the run leaves the seven-bit code.
    if running && isVisible c then
      c :: visibleFrom (if c ≤ '\x7f' then place else .text) true rest
    else if place.shows c then c :: visibleFrom (place.next c) true rest
    else visibleFrom (place.next c) false rest

/-- Every character that is left is visible. -/
theorem isVisible_of_mem_visibleFrom {text : List Char} :
    ∀ {place : Place} {running : Bool} {c : Char},
      c ∈ visibleFrom place running text → isVisible c = true := by
  induction text with
  | nil => intro place running c member; simp [visibleFrom] at member
  | cons first rest ih =>
    intro place running c member
    unfold visibleFrom at member
    split at member
    · rename_i visible
      rcases List.mem_cons.1 member with same | member
      · subst same
        exact (Bool.and_eq_true_iff.1 visible).2
      · exact ih member
    · split at member
      · rename_i shown
        rcases List.mem_cons.1 member with same | member
        · subst same
          -- Whatever the place, what it shows is visible.
          revert shown
          cases place <;> simp +contextual [Place.shows, isVisible]
        · exact ih member
      · exact ih member

/-- Visible characters outside every sequence are left as they are. -/
theorem visibleFrom_of_visible {text : List Char} (visible : ∀ c ∈ text, isVisible c = true) :
    ∀ running, visibleFrom .text running text = text := by
  induction text with
  | nil => intro running; rfl
  | cons first rest ih =>
    intro running
    have head := visible first (by simp)
    have tail := ih fun c member => visible c (by simp [member])
    -- No visible character opens a sequence, so the reading stays outside.
    have outside : Place.text.next first = .text := by
      unfold Place.next
      split
      · rename_i escape
        subst escape
        exact absurd head (by decide)
      · simp
    cases running <;> simp [visibleFrom, Place.shows, head, tail, outside]

end ControlSequence

/-- What is left of a text without its control sequences; one that is not finished ends with it. -/
def visibleText (text : String) : String :=
  String.ofList (ControlSequence.visibleFrom .text false text.toList)

/-- A text of visible characters is left as it is. -/
theorem visibleText_of_visible {text : String}
    (visible : ∀ c ∈ text.toList, ControlSequence.isVisible c = true) :
    visibleText text = text := by
  rw [visibleText, ControlSequence.visibleFrom_of_visible visible, String.ofList_toList]

end Unknowns
