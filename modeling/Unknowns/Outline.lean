/-! Structured descriptions, written on one line or one part to a line. -/

namespace Unknowns

/-- A description: a bare text, a named tuple or record of parts, or a list. -/
inductive Outline
  | atom (text : String)
  | tuple (name : String) (items : List Outline)
  -- A record that is not closed has more fields than it shows.
  | record (name : String) (fields : List (String × Outline)) (closed : Bool)
  | list (items : List Outline)

/-- One character of a quoted text. -/
def quotedChar (c : Char) : String :=
  if c = '"' then "\\\""
  else if c = '\\' then "\\\\"
  else if c = '\n' then "\\n"
  else if c = '\t' then "\\t"
  else if c = '\r' then "\\r"
  else c.toString

/-- A text between quotes. -/
def quoted (text : String) : String :=
  "\"" ++ String.join (text.toList.map quotedChar) ++ "\""

namespace Outline

/-- The text of a name as a part of a description. -/
def ofName (name : String) : Outline := .atom (quoted name)

/-- The mark of fields that are not shown. -/
def moreFields (closed : Bool) : List String :=
  if closed then [] else [".."]

mutual

/-- The description on one line. -/
def inline : Outline → String
  | .atom text => text
  | .tuple name items => name ++ "(" ++ ", ".intercalate (inlineItems items) ++ ")"
  | .record name fields closed =>
    name ++ " \x7b " ++ ", ".intercalate (inlineFields fields ++ moreFields closed) ++ " \x7d"
  | .list items => "[" ++ ", ".intercalate (inlineItems items) ++ "]"

/-- Every item on one line of its own text. -/
def inlineItems : List Outline → List String
  | [] => []
  | item :: rest => item.inline :: inlineItems rest

/-- Every field with its name. -/
def inlineFields : List (String × Outline) → List String
  | [] => []
  | (name, value) :: rest => (name ++ ": " ++ value.inline) :: inlineFields rest

end

/-- One step of indentation. -/
def indentation : String := "    "

/-- Lines moved one step to the right. -/
def indented (lines : List String) : List String :=
  lines.map fun line => indentation ++ line

/-- Lines with a text put in front of the first of them. -/
def labelled (label : String) : List String → List String
  | [] => [label]
  | first :: rest => (label ++ first) :: rest

/-- Lines with a comma behind the last of them. -/
def withComma : List String → List String
  | [] => []
  | [last] => [last ++ ","]
  | first :: rest => first :: withComma rest

/-- Parts between an opening and a closing line, or on one line when there are none. -/
def enclosed (opening closing : String) (parts : List String) : List String :=
  -- An empty list or record stays on its line.
  if parts.isEmpty then [opening ++ closing]
  else opening :: indented parts ++ [closing]

mutual

/-- The description with one part to a line. -/
def lines : Outline → List String
  | .atom text => [text]
  | .tuple name items => enclosed (name ++ "(") ")" (itemLines items)
  | .record name fields closed =>
    -- The mark of more fields stands on a line of its own, without a comma.
    enclosed (name ++ " \x7b") "\x7d" (fieldLines fields ++ moreFields closed)
  | .list items => enclosed "[" "]" (itemLines items)

/-- The lines of every item, each ended by a comma. -/
def itemLines : List Outline → List String
  | [] => []
  | item :: rest => withComma item.lines ++ itemLines rest

/-- The lines of every field behind its name, each ended by a comma. -/
def fieldLines : List (String × Outline) → List String
  | [] => []
  | (name, value) :: rest => withComma (labelled (name ++ ": ") value.lines) ++ fieldLines rest

end

/-- The description with one part to a line, as one text. -/
def block (outline : Outline) : String :=
  "\n".intercalate outline.lines

end Outline

end Unknowns
