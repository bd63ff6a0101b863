import Cordon.Json.Printer

/-! # Writing values as YAML

`Json.blockText` writes a value as a YAML document in block style: one line for each entry and item,
objects indented under their keys by two blanks and lists not at all. A text stands without quotes
where it cannot be taken for anything else.
-/

namespace Cordon.Json

/-! ## Texts -/

def reservedWords : List String :=
  ["", "~", "null", "Null", "NULL", "true", "True", "TRUE", "false", "False", "FALSE", "y", "Y",
   "yes", "Yes", "YES", "n", "N", "no", "No", "NO", "on", "On", "ON", "off", "Off", "OFF",
   ".inf", ".Inf", ".INF", "-.inf", "-.Inf", "-.INF", "+.inf", "+.Inf", "+.INF",
   ".nan", ".NaN", ".NAN"]

def beginsNumber : List Char → Bool
  | '+' :: c :: _ | '-' :: c :: _ => c.isDigit || c == '.'
  | '.' :: c :: _ => c.isDigit
  | c :: _ => c.isDigit
  | [] => false

/-- Whether a text begins with a sign that means something at the start of a value. -/
def beginsIndicator : List Char → Bool
  | [c] => "#,[]\x7b\x7d&*!|>'\"%@\x60-?:".toList.contains c
  | c :: d :: _ =>
    "#,[]\x7b\x7d&*!|>'\"%@\x60".toList.contains c || ("-?:".toList.contains c && d == ' ')
  | [] => false

/-- Whether a sign inside a text ends it or begins a comment. -/
def breaksOff : List Char → Bool
  | ':' :: ' ' :: _ => true
  | ' ' :: '#' :: _ => true
  | [c] => c == ':' || c == ' '
  | _ :: rest => breaksOff rest
  | [] => false

def isPlainText (s : String) : Bool :=
  let text := s.toList
  !reservedWords.contains s && !beginsNumber text && !beginsIndicator text && !breaksOff text &&
    text.head? != some ' ' && !s.startsWith "---" && !s.startsWith "..."

def needsEscapes (s : String) : Bool := s.toList.any fun c => c.toNat < 32 || c.toNat = 127

def scalarText (s : String) : String :=
  if needsEscapes s then quote s
  else if isPlainText s then s
  else "'" ++ .ofList (s.toList.flatMap fun c => if c = '\'' then [c, c] else [c]) ++ "'"

/-! ## Values -/

def indented (lines : List String) : List String := lines.map ("  " ++ ·)

def itemLines : List String → List String
  | [] => []
  | first :: rest => ("- " ++ first) :: indented rest

mutual

def blockLines : Json → List String
  | .arr (j :: rest) => itemLines (blockLines j) ++ itemsLines rest
  | .obj ((k, j) :: rest) => entryLines k j ++ entriesLines rest
  | .arr [] => ["[]"]
  | .obj [] => ["\x7b\x7d"]
  | .null => ["null"]
  | .bool b => [if b then "true" else "false"]
  | .num n => [n.text]
  | .str s => [scalarText s]

def itemsLines : List Json → List String
  | [] => []
  | j :: rest => itemLines (blockLines j) ++ itemsLines rest

def entryLines (key : String) : Json → List String
  | .arr (j :: rest) => (scalarText key ++ ":") :: (itemLines (blockLines j) ++ itemsLines rest)
  | .obj ((k, j) :: rest) =>
    (scalarText key ++ ":") :: indented (entryLines k j ++ entriesLines rest)
  | .arr [] => [scalarText key ++ ": []"]
  | .obj [] => [scalarText key ++ ": \x7b\x7d"]
  | .null => [scalarText key ++ ": null"]
  | .bool b => [scalarText key ++ ": " ++ (if b then "true" else "false")]
  | .num n => [scalarText key ++ ": " ++ n.text]
  | .str s => [scalarText key ++ ": " ++ scalarText s]

def entriesLines : List (String × Json) → List String
  | [] => []
  | (k, j) :: rest => entryLines k j ++ entriesLines rest

end

def blockText (j : Json) : String := String.join ((blockLines j).map (· ++ "\n"))

end Cordon.Json
