import ProcessStep.Decimal.Layout
import ProcessStep.Json.Basic
import ProcessStep.Text.Quoted

/-!
Data values as text, without any space between the parts or laid out in lines. Text is escaped
only where the format requires it, and a number that is no number is written as null.
-/

namespace ProcessStep.Json

/-- How one character stands between the quotes of a text. -/
def escapedChar (c : Char) : List Char :=
  if c = '"' then ['\\', '"']
  else if c = '\\' then ['\\', '\\']
  else if c = '\n' then ['\\', 'n']
  else if c = '\r' then ['\\', 'r']
  else if c = '\t' then ['\\', 't']
  else if c.toNat = 8 then ['\\', 'b']
  else if c.toNat = 12 then ['\\', 'f']
  else if c.toNat < 0x20 then
    ['\\', 'u', '0', '0'] ++ (if c.toNat < 16 then ['0'] else []) ++ Text.hexDigits c.toNat
  else [c]

def quotedText (s : String) : String :=
  String.ofList ('"' :: s.toList.flatMap escapedChar ++ ['"'])

def numberText (x : Float) : String :=
  if x.isNaN || x.isInf then "null" else Decimal.Layout.data.text x

mutual

def compact : Json → String
  | .null => "null"
  | .bool b => if b then "true" else "false"
  | .int n => toString n
  | .float x => numberText x
  | .str s => quotedText s
  | .arr items => "[" ++ String.intercalate "," (compactItems items) ++ "]"
  | .obj fields => "\x7b" ++ String.intercalate "," (compactFields fields) ++ "\x7d"

def compactItems : List Json → List String
  | [] => []
  | v :: rest => compact v :: compactItems rest

def compactFields : List (String × Json) → List String
  | [] => []
  | (k, v) :: rest => (quotedText k ++ ":" ++ compact v) :: compactFields rest

end

def newLine (depth : Nat) : String :=
  String.ofList ('\n' :: List.replicate (2 * depth) ' ')

mutual

/-- The text of a value with every item and field on a line of its own. -/
def pretty (depth : Nat) : Json → String
  | .arr (v :: rest) =>
      "[" ++ newLine (depth + 1)
        ++ String.intercalate ("," ++ newLine (depth + 1)) (prettyItems (depth + 1) (v :: rest))
        ++ newLine depth ++ "]"
  | .obj (e :: rest) =>
      "\x7b" ++ newLine (depth + 1)
        ++ String.intercalate ("," ++ newLine (depth + 1)) (prettyFields (depth + 1) (e :: rest))
        ++ newLine depth ++ "\x7d"
  | v => compact v

def prettyItems (depth : Nat) : List Json → List String
  | [] => []
  | v :: rest => pretty depth v :: prettyItems depth rest

def prettyFields (depth : Nat) : List (String × Json) → List String
  | [] => []
  | (k, v) :: rest => (quotedText k ++ ": " ++ pretty depth v) :: prettyFields depth rest

end

/-- A computation whose value is printed came to an end. -/
theorem exists_of_printed {ε : Type} {x : Except ε Json} {text : String}
    (printed : x.map compact = .ok text) : ∃ v, x = .ok v ∧ v.compact = text := by
  cases x with
  | error e => cases printed
  | ok v => exact ⟨v, rfl, Except.ok.inj printed⟩

end ProcessStep.Json
