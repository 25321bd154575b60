import Unknowns.Hex
import Unknowns.Json.Document
import Unknowns.Json.Number

/-! The marks, words and texts that a JSON document is written with. -/

namespace Unknowns

namespace Json

/-- One token: a mark, a text, or a word that is a whole value. -/
inductive Token
  | openList
  | closeList
  | openObject
  | closeObject
  | comma
  | colon
  | text (value : String)
  | word (value : Document)

/-- The characters that may stand between tokens. -/
def isBlank (c : Char) : Bool :=
  c == ' ' || c == '\n' || c == '\t' || c == '\r'

/-- The token that a single mark stands for. -/
def mark? : Char → Option Token
  | '[' => some .openList
  | ']' => some .closeList
  | '{' => some .openObject
  | '}' => some .closeObject
  | ',' => some .comma
  | ':' => some .colon
  | _ => none

/-- The value that a bare word stands for. -/
def word? (word : List Char) : Option Document :=
  if word = ['n', 'u', 'l', 'l'] then some .null
  else if word = ['t', 'r', 'u', 'e'] then some (.boolean true)
  else if word = ['f', 'a', 'l', 's', 'e'] then some (.boolean false)
  else (number? word).map .number

/-- The character that a one-letter escape stands for. -/
def escaped? : Char → Option Char
  | '"' => some '"'
  | '\\' => some '\\'
  | '/' => some '/'
  | 'b' => some '\x08'
  | 'f' => some '\x0c'
  | 'n' => some '\n'
  | 'r' => some '\r'
  | 't' => some '\t'
  | _ => none

/-- Code units that open a surrogate pair. -/
def isLeading (unit : Nat) : Bool :=
  0xd800 ≤ unit && unit < 0xdc00

/-- Code units that complete a surrogate pair. -/
def isTrailing (unit : Nat) : Bool :=
  0xdc00 ≤ unit && unit < 0xe000

/-- The character that a surrogate pair encodes. -/
def pairedChar (leading trailing : Nat) : Char :=
  Char.ofNat (0x10000 + (leading - 0xd800) * 0x400 + (trailing - 0xdc00))

/-- Where a scan stands; characters read so far are kept latest first. -/
inductive Place
  -- In a word, or between tokens while no character of one has been read.
  | word (read : List Char)
  | text (read : List Char)
  | escape (read : List Char)
  -- In the hexadecimal digits of an escape, after a leading surrogate when there is one.
  | unit (read : List Char) (leading : Option Nat) (digits : Nat) (value : Nat)
  -- Behind a leading surrogate, whose partner must follow as another escape.
  | partner (read : List Char) (leading : Nat)
  | partnerEscape (read : List Char) (leading : Nat)

/-- A scan: the tokens found, latest first, and the place it stands at. -/
structure Scan where
  tokens : List Token
  place : Place

namespace Scan

/-- The tokens once the word under way has ended. -/
def endWord? (tokens : List Token) (read : List Char) : Option (List Token) :=
  if read.isEmpty then some tokens
  else (word? read.reverse).map fun value => .word value :: tokens

/-- A scan outside texts takes one more character. -/
def stepWord? (tokens : List Token) (read : List Char) (c : Char) : Option Scan :=
  -- Blanks, quotes and marks end a word; every other character belongs to it.
  if isBlank c then do
    return ⟨← endWord? tokens read, .word []⟩
  else if c = '"' then do
    return ⟨← endWord? tokens read, .text []⟩
  else match mark? c with
    | some mark => do return ⟨mark :: (← endWord? tokens read), .word []⟩
    | none => some ⟨tokens, .word (c :: read)⟩

/-- The place after a complete code unit; an unpaired surrogate is refused. -/
def endUnit? (read : List Char) (leading : Option Nat) (value : Nat) : Option Place :=
  match leading with
  -- A pair is complete only with a trailing surrogate.
  | some first =>
    if isTrailing value then some (.text (pairedChar first value :: read)) else none
  | none =>
    if isTrailing value then none
    else if isLeading value then some (.partner read value)
    else some (.text (Char.ofNat value :: read))

/-- A scan inside a text takes one more character, which is not the closing quote. -/
def stepText? : Place → Char → Option Place
  | .word _, _ => none
  | .text read, c =>
    if c = '\\' then some (.escape read)
    -- Control characters must be written as escapes.
    else if c.toNat < 0x20 then none
    else some (.text (c :: read))
  | .escape read, c =>
    if c = 'u' then some (.unit read none 0 0)
    else (escaped? c).map fun plain => .text (plain :: read)
  | .unit read leading digits value, c => do
    let extended := 16 * value + (← hexValue? c)
    if digits + 1 = 4 then endUnit? read leading extended
    else return .unit read leading (digits + 1) extended
  | .partner read leading, c =>
    if c = '\\' then some (.partnerEscape read leading) else none
  | .partnerEscape read leading, c =>
    if c = 'u' then some (.unit read (some leading) 0 0) else none

/-- A scan takes one more character. -/
def step? (scan : Scan) (c : Char) : Option Scan :=
  match scan.place with
  | .word read => stepWord? scan.tokens read c
  | .text read =>
    if c = '"' then
      some ⟨.text (String.ofList read.reverse) :: scan.tokens, .word []⟩
    else (stepText? (.text read) c).map fun place => { scan with place }
  | place => (stepText? place c).map fun next => { scan with place := next }

end Scan

/-- The tokens of a whole text, none when it cannot be cut into tokens. -/
def tokens? (text : String) : Option (List Token) := do
  let scan ← text.toList.foldlM Scan.step? ⟨[], .word []⟩
  match scan.place with
  | .word read => return (← Scan.endWord? scan.tokens read).reverse
  | _ => none

end Json

end Unknowns
