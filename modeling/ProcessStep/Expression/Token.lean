import ProcessStep.Decimal.Reading
import ProcessStep.Expression.Problem
import ProcessStep.Expression.Value
import ProcessStep.Text.Blank

/-!
Tokens. An expression is cut into names, literals and signs; a template is text with expressions
and statements between markers, whose markers may take away the blanks beside them. Names are
ASCII. Where the text is no token the tokens end with the problem, so that a reader of the tokens
that stops before it has its own complaint.
-/

namespace ProcessStep.Expression

inductive Token where
  | name (s : String)
  | str (s : String)
  | int (n : Nat)
  | float (x : Float)
  | sign (s : String)
  /-- Text of a template outside all markers. -/
  | plain (s : String)
  | openOutput
  | closeOutput
  | openTag
  | closeTag
  /-- The text goes wrong here. -/
  | broken (p : Problem)

namespace Token

/-! ### Literals -/

def isNameStart (c : Char) : Bool :=
  c.isAlpha || c == '_'

def isNameChar (c : Char) : Bool :=
  c.isAlphanum || c == '_'

def isGap (c : Char) : Bool :=
  c == ' ' || c == '\t' || c == '\n' || c == '\r' || c.toNat == 12

/-- Where in a number the reading stands. -/
inductive Place where
  | whole
  | fraction
  | exponent
  | afterSign

def beginsExponent : List Char → Bool
  | e :: c :: rest =>
      (e == 'e' || e == 'E') &&
        (Decimal.isDigit c || ((c == '+' || c == '-') && rest.head?.any Decimal.isDigit))
  | _ => false

/-- The place after one more character of a decimal number, if the character belongs to it. A point
before a name does not; it names an attribute. -/
def Place.next? (p : Place) (c : Char) (rest : List Char) : Option Place :=
  if c = '_' then some p
  else if Decimal.isDigit c then
    match p with
    | .exponent => some .afterSign
    | p => some p
  else
    match p with
    | .whole =>
        if c = '.' then
          if rest.head?.any isNameStart && !beginsExponent rest then none else some .fraction
        else if c = 'e' || c = 'E' then some .exponent else none
    | .fraction => if c = 'e' || c = 'E' then some .exponent else none
    | .exponent => if c = '+' || c = '-' then some .afterSign else none
    | .afterSign => none

/-- The longest decimal number at the front, whether it is a whole one, and the rest. -/
def spanNumber (p : Place) : List Char → List Char × Bool × List Char
  | [] => ([], p matches .whole, [])
  | c :: rest =>
      match p.next? c rest with
      | some p =>
          let (taken, isWhole, rest) := spanNumber p rest
          (c :: taken, isWhole, rest)
      | none => ([], p matches .whole, c :: rest)

/-- The value of a digit in a base up to sixteen. -/
def digitIn? (base : Nat) (c : Char) : Option Nat :=
  let v? :=
    if Decimal.isDigit c then some (Decimal.digitValue c)
    else if 'a' ≤ c && c ≤ 'f' then some (c.toNat - 'a'.toNat + 10)
    else if 'A' ≤ c && c ≤ 'F' then some (c.toNat - 'A'.toNat + 10)
    else none
  v?.filter (· < base)

/-- The number of some digits of a base, if there are any and it fits in 128 bits. -/
def wholeIn? (base : Nat) (digits : List Char) : Option Nat :=
  if digits.isEmpty then none
  else do
    let values ← digits.mapM (digitIn? base)
    let n := values.foldl (fun n d => n * base + d) 0
    if (n : Int) ≤ Value.greatestLiteral then some n else none

def radix? : List Char → Option Nat
  | '0' :: c :: _ =>
      if c = 'b' || c = 'B' then some 2
      else if c = 'o' || c = 'O' then some 8
      else if c = 'x' || c = 'X' then some 16
      else none
  | _ => none

def isRadixChar (base : Nat) (c : Char) : Bool :=
  c == '_' || Decimal.isDigit c || (base == 16 && (digitIn? 16 c).isSome)

/-- A number without its underscores, which are for the reader only and do not end it. -/
def plainNumber? (s : List Char) : Option (List Char) :=
  if s.getLast? = some '_' then none else some (s.filter (· != '_'))

/-- A number at the front of a text that begins with a digit. -/
def number (s : List Char) : Outcome (Token × List Char) :=
  let int (base : Nat) (digits rest : List Char) : Outcome (Token × List Char) :=
    match (plainNumber? digits).bind (wholeIn? base) with
    | some n => .ok (.int n, rest)
    | none => .error .malformed
  match radix? s with
  | some base =>
      let body := s.drop 2
      int base (body.takeWhile (isRadixChar base)) (body.dropWhile (isRadixChar base))
  | none =>
      let (taken, isWhole, rest) := spanNumber .whole s
      if isWhole then int 10 taken rest
      else match (plainNumber? taken).bind Decimal.ofText? with
        | some x => .ok (.float x, rest)
        | none => .error .malformed

/-- A number of the given length in hexadecimal digits, the first of which may be a plus sign. -/
def hexNumber? (length : Nat) (s : List Char) : Option Nat :=
  if s.length < length then none
  else match s.take length with
    | '+' :: digits => wholeIn? 16 digits
    | digits => wholeIn? 16 digits

def isOctal (c : Char) : Bool :=
  '0' ≤ c && c ≤ '7'

/-- What the escapes of a literal stand for. An unknown escape stands for itself. `fuel` is the
length of the literal. -/
def unescape (fuel : Nat) (s : List Char) : Outcome (List Char) :=
  match fuel, s with
  | 0, _ => .ok []
  | _, [] => .ok []
  | fuel + 1, '\\' :: c :: rest =>
      let one (d : Char) : Outcome (List Char) := do .ok (d :: (← unescape fuel rest))
      match c with
      | '"' => one '"'
      | '\\' => one '\\'
      | '/' => one '/'
      | '\'' => one '\''
      | 'b' => one (Char.ofNat 8)
      | 'f' => one (Char.ofNat 12)
      | 'n' => one '\n'
      | 'r' => one '\r'
      | 't' => one '\t'
      | 'x' =>
          match hexNumber? 2 rest with
          | some n => do .ok (Char.ofNat n :: (← unescape fuel (rest.drop 2)))
          | none => .error .badEscape
      | 'u' =>
          match hexNumber? 4 rest with
          | none => .error .badEscape
          | some n =>
              if 0xd800 ≤ n && n ≤ 0xdbff then
                match rest.drop 4 with
                | '\\' :: 'u' :: more =>
                    match hexNumber? 4 more with
                    | some m =>
                        if 0xdc00 ≤ m && m ≤ 0xdfff then do
                          let c := Char.ofNat (0x10000 + (n - 0xd800) * 0x400 + (m - 0xdc00))
                          .ok (c :: (← unescape fuel (more.drop 4)))
                        else .error .badEscape
                    | none => .error .badEscape
                | _ => .error .badEscape
              else if 0xdc00 ≤ n && n ≤ 0xdfff then .error .badEscape
              else do .ok (Char.ofNat n :: (← unescape fuel (rest.drop 4)))
      | c =>
          if isOctal c then
            let more := (rest.takeWhile isOctal).take 2
            match (wholeIn? 8 (c :: more)).filter (· < 256) with
            | some n => do .ok (Char.ofNat n :: (← unescape fuel (rest.drop more.length)))
            | none => .error .badEscape
          else do .ok ('\\' :: c :: (← unescape fuel rest))
  | fuel + 1, c :: rest => do .ok (c :: (← unescape fuel rest))

/-- A literal up to its closing quote, and the rest; nothing if it is not closed. -/
def spanQuote? (quote : Char) (escaped : Bool) : List Char → Option (List Char × List Char)
  | [] => none
  | c :: rest =>
      if escaped then (spanQuote? quote false rest).map fun (s, r) => (c :: s, r)
      else if c = quote then some ([], rest)
      else (spanQuote? quote (c == '\\') rest).map fun (s, r) => (c :: s, r)

def literal (quote : Char) (s : List Char) : Outcome (Token × List Char) :=
  match spanQuote? quote false s with
  | none => .error .malformed
  | some (body, rest) => do
      let cs ← unescape body.length body
      .ok (.str (String.ofList cs), rest)

/-! ### Signs -/

def longSigns : List String := ["//", "**", "==", "!=", ">=", "<="]

def shortSigns : List Char :=
  ['+', '-', '*', '/', '%', '.', ',', ':', '~', '|', '=', '>', '<', '(', ')', '[', ']',
    '\x7b', '\x7d']

/-- How a sign changes the number of open brackets. -/
def nesting (c : Char) : Int :=
  if c = '(' || c = '[' || c = '\x7b' then 1
  else if c = ')' || c = ']' || c = '\x7d' then -1
  else 0

/-- One token at the front of an expression that begins with no gap, and its nesting. -/
def next (s : List Char) : Outcome (Token × List Char × Int) :=
  match s with
  | [] => .error .malformed
  | c :: rest =>
      if longSigns.contains (String.ofList (s.take 2)) then
        .ok (.sign (String.ofList (s.take 2)), s.drop 2, 0)
      else if c = '\'' || c = '"' then do
        let (t, rest) ← literal c rest
        .ok (t, rest, 0)
      else if Decimal.isDigit c then do
        let (t, rest) ← number s
        .ok (t, rest, 0)
      else if shortSigns.contains c then .ok (.sign c.toString, rest, nesting c)
      else if isNameStart c then
        .ok (.name (String.ofList (s.takeWhile isNameChar)), s.dropWhile isNameChar, 0)
      else .error .malformed

/-- The tokens of a whole expression. `fuel` is the length of the text. -/
def ofExpression (fuel : Nat) (s : List Char) : List Token :=
  match fuel, s.dropWhile isGap with
  | _, [] => []
  | 0, _ => [.broken .malformed]
  | fuel + 1, s =>
      match next s with
      | .ok (t, rest, _) => t :: ofExpression fuel rest
      | .error p => [.broken p]

/-! ### Templates -/

/-- What a marker does with the blanks beside it. -/
inductive Margin where
  | keep
  | cut
  deriving DecidableEq

/-- The sign right behind an opening marker or before a closing one. -/
def margin : List Char → Margin × List Char
  | '-' :: rest => (.cut, rest)
  | '+' :: rest => (.keep, rest)
  | s => (.keep, s)

def cutAfter (m : Margin) (s : List Char) : List Char :=
  if m = .cut then Text.trimStart s else s

def cutBefore (m : Margin) (s : List Char) : List Char :=
  if m = .cut then Text.trimEnd s else s

inductive Marker where
  | output
  | tag
  | comment

/-- The text before the first opening marker, the marker, and what follows it. -/
def spanPlain : List Char → List Char × Option (Marker × List Char)
  | [] => ([], none)
  | '\x7b' :: '\x7b' :: rest => ([], some (.output, rest))
  | '\x7b' :: '%' :: rest => ([], some (.tag, rest))
  | '\x7b' :: '#' :: rest => ([], some (.comment, rest))
  | c :: rest =>
      let (before, found) := spanPlain rest
      (c :: before, found)

/-- Skips a comment: what its closing marker does, and what follows it. -/
def skipComment? (last : Option Char) : List Char → Option (Margin × List Char)
  | [] => none
  | '#' :: '\x7d' :: rest => some (if last = some '-' then .cut else .keep, rest)
  | c :: rest => skipComment? (some c) rest

/-- A word at the front of a text, and what follows it. -/
def skipWord? : List Char → List Char → Option (List Char)
  | [], s => some s
  | c :: word, d :: s => if c = d then skipWord? word s else none
  | _ :: _, [] => none

/-- The inside of a tag that consists of one word, after its margin, with the margin at its end
and what follows the tag. -/
def bareTag? (word : String) (s : List Char) : Option (Margin × List Char) := do
  let rest ← skipWord? word.toList (s.dropWhile isGap)
  let (m, rest) := margin (rest.dropWhile isGap)
  match rest with
  | '%' :: '\x7d' :: rest => some (m, rest)
  | _ => none

/-- The text up to the tag that ends a raw part, the margins of that tag, and what follows. -/
def spanRaw? : List Char → Option (List Char × Margin × Margin × List Char)
  | [] => none
  | c :: rest =>
      let further : Option (List Char × Margin × Margin × List Char) :=
        (spanRaw? rest).map fun (before, found) => (c :: before, found)
      match c, rest with
      | '\x7b', '%' :: inside =>
          let (m, inside) := margin inside
          match bareTag? "endraw" inside with
          | some (n, rest) => some ([], m, n, rest)
          | none => further
      | _, _ => further

def plainToken (s : List Char) : List Token :=
  if s.isEmpty then [] else [.plain (String.ofList s)]

/-- A closing marker at the front, when no bracket is open. -/
def closing? (close : List Char) (open? : Int) (s : List Char) : Option (Margin × List Char) :=
  if open? ≠ 0 then none
  else
    let (m, rest) := margin s
    match skipWord? close s with
    | some rest => some (.keep, rest)
    | none => (skipWord? close rest).map fun rest => (m, rest)

mutual

/-- Tokens of a template from a place outside all markers. -/
def ofTemplate (fuel : Nat) (m : Margin) (s : List Char) : List Token :=
  match fuel with
  | 0 => [.broken .malformed]
  | fuel + 1 =>
      let (before, found) := spanPlain (cutAfter m s)
      match found with
      | none => plainToken before
      | some (marker, rest) =>
          let (start, inside) := margin rest
          let lead := plainToken (cutBefore start before)
          match marker with
          | .comment =>
              match skipComment? none inside with
              | none => lead ++ [.broken .malformed]
              | some (m, rest) => lead ++ ofTemplate fuel m rest
          | .output =>
              lead ++ .openOutput :: ofInside fuel ['\x7d', '\x7d'] .closeOutput 0 inside
          | .tag =>
              match bareTag? "raw" inside with
              | none => lead ++ .openTag :: ofInside fuel ['%', '\x7d'] .closeTag 0 inside
              | some (first, rest) =>
                  match spanRaw? rest with
                  | none => lead ++ [.broken .malformed]
                  | some (raw, last, after, rest) =>
                      lead ++ plainToken (cutBefore last (cutAfter first raw)) ++
                        ofTemplate fuel after rest

def ofInside (fuel : Nat) (close : List Char) (closer : Token) (nested : Int) (s : List Char) :
    List Token :=
  match fuel with
  | 0 => [.broken .malformed]
  | fuel + 1 =>
      let s := s.dropWhile isGap
      match closing? close nested s with
      | some (m, rest) => closer :: ofTemplate fuel m rest
      | none =>
          if s.isEmpty then []
          else
            match next s with
            | .ok (t, rest, change) => t :: ofInside fuel close closer (nested + change) rest
            | .error p => [.broken p]

end

/-- One line end at the end of a template does not belong to it. -/
def withoutLastBreak (s : List Char) : List Char :=
  let cut (c : Char) (r : List Char) : List Char :=
    match r with
    | d :: rest => if d = c then rest else r
    | [] => []
  (cut '\r' (cut '\n' s.reverse)).reverse

end Token

def tokens (s : List Char) : List Token :=
  Token.ofExpression s.length s

def templateTokens (s : List Char) : List Token :=
  Token.ofTemplate (2 * s.length + 2) .keep (Token.withoutLastBreak s)

end ProcessStep.Expression
