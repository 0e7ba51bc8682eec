import ProcessStep.Decimal.Reading
import ProcessStep.Json.Node

/-!
Reading a text of data. The reader goes through the whole text once and never fails: it returns
a tree in which the place where the text breaks off is marked. `parse` is the plain use, the
value of a text or its first fault.

A value may be nested 127 deep. A deeper one, a number beyond the range of numbers and a text
with half of a surrogate pair are well formed but denote nothing.
-/

namespace ProcessStep.Json

/-- How deep lists and objects may be nested. -/
def deepest : Nat := 127

namespace Reader

/-- The blanks between the parts of a text of data. -/
def isSpace (c : Char) : Bool :=
  c == ' ' || c == '\n' || c == '\t' || c == '\r'

def skipSpace (s : List Char) : List Char :=
  s.dropWhile isSpace

/-- A value and the text after it; when the value breaks off, that text is of no use. -/
structure Part where
  node : Node
  rest : List Char

def Part.broken (b : Break) : Part := ⟨.broken b, []⟩

/-! ### Words and numbers -/

def word (node : Node) : List Char → List Char → Part
  | [], rest => ⟨node, rest⟩
  | _ :: _, [] => .broken .endedInWord
  | c :: expected, d :: rest => if c = d then word node expected rest else .broken .malformed

/-- The digits of a number as far as 64 bits hold them, and the digits left out. -/
structure Significand where
  value : Nat
  dropped : Nat

/-- Digits are taken up while the number stays below 2^64; after that they are only counted. -/
def Significand.take (s : Significand) : List Char → Significand
  | [] => s
  | c :: rest =>
      let next := s.value * 10 + Decimal.digitValue c
      if s.dropped = 0 && next ≤ Json.greatestInt then take ⟨next, 0⟩ rest
      else ⟨s.value, s.dropped + (c :: rest).length⟩

/-- A number with a fraction or an exponent, or one too long for 64 bits. -/
def scaled (negative : Bool) (coefficient : Nat) (exponent : Int) : Node :=
  match Decimal.ofScaled? coefficient exponent with
  | some x => .float (Decimal.signed negative x)
  | none => .unreadable none

/-- What follows the digits of a number up to its exponent, if it has one. -/
def exponentPart (negative : Bool) (coefficient : Nat) (exponent : Int) : List Char → Part
  | c :: rest =>
      if c = 'e' || c = 'E' then
        let (down, body) := Decimal.spanSign rest
        match body with
        | [] => .broken .endedInNumber
        | d :: _ =>
            if Decimal.isDigit d then
              let (digits, rest) := Decimal.spanDigits body
              let e : Int := Decimal.ofDigits digits
              -- No digits that fit a text outweigh an exponent of this size.
              let e := min e 1000000000
              ⟨scaled negative coefficient (if down then exponent - e else exponent + e), rest⟩
            else .broken .malformed
      else ⟨scaled negative coefficient exponent, c :: rest⟩
  | [] => ⟨scaled negative coefficient exponent, []⟩

/-- A number without its sign. Zero is not followed by further digits, and a point is. -/
def number (negative : Bool) (s : List Char) : Part :=
  let (whole, rest) := Decimal.spanDigits s
  match whole with
  | [] => .broken (if s.isEmpty then .endedInNumber else .malformed)
  | first :: others =>
      if first = '0' && !others.isEmpty then .broken .malformed
      else
        let read := Significand.take ⟨0, 0⟩ whole
        match rest with
        | '.' :: rest =>
            let (fraction, rest) := Decimal.spanDigits rest
            if fraction.isEmpty then .broken (if rest.isEmpty then .endedInNumber else .malformed)
            else
              let full := Significand.take ⟨read.value, 0⟩ fraction
              let taken := fraction.length - full.dropped
              exponentPart negative full.value ((read.dropped : Int) - taken) rest
        | c :: _ =>
            if c = 'e' || c = 'E' then exponentPart negative read.value read.dropped rest
            else ⟨integer negative read, rest⟩
        | [] => ⟨integer negative read, []⟩
where
  /-- Whole numbers from -2^63 to 2^64 - 1 stay whole, other than a negative zero. -/
  integer (negative : Bool) (read : Significand) : Node :=
    if read.dropped ≠ 0 then scaled negative read.value read.dropped
    else if !negative then .int read.value
    else if read.value = 0 || -Json.leastInt < read.value then
      .float (Decimal.signed true (Float.ofNat read.value))
    else .int (-read.value)

/-! ### Text -/

def hexValue? (c : Char) : Option Nat :=
  if Decimal.isDigit c then some (Decimal.digitValue c)
  else if 'a' ≤ c && c ≤ 'f' then some (c.toNat - 'a'.toNat + 10)
  else if 'A' ≤ c && c ≤ 'F' then some (c.toNat - 'A'.toNat + 10)
  else none

/-- Four hexadecimal digits; a text that has not even four bytes left is cut short. -/
def fourHex (s : List Char) : Except Break (Nat × List Char) :=
  if (s.take 4).foldl (fun n c => n + c.utf8Size) 0 < 4 then .error .ended
  else match s with
    | a :: b :: c :: d :: rest =>
        match hexValue? a, hexValue? b, hexValue? c, hexValue? d with
        | some a, some b, some c, some d => .ok (((a * 16 + b) * 16 + c) * 16 + d, rest)
        | _, _, _, _ => .error .malformed
    | _ => .error .malformed

def isLeading (n : Nat) : Bool := 0xd800 ≤ n && n ≤ 0xdbff

def isTrailing (n : Nat) : Bool := 0xdc00 ≤ n && n ≤ 0xdfff

/-- A text between quotes: its characters, unless it denotes nothing, and what follows it. -/
structure Quote where
  text : Option String
  rest : Except Break (List Char)

/-- What one escape stands for; half of a surrogate pair stands for nothing. -/
def escape (s : List Char) : Except Break (Option Char × List Char) :=
  match s with
  | [] => .error .ended
  | c :: rest =>
      match c with
      | '"' => .ok (some '"', rest)
      | '\\' => .ok (some '\\', rest)
      | '/' => .ok (some '/', rest)
      | 'b' => .ok (some (Char.ofNat 8), rest)
      | 'f' => .ok (some (Char.ofNat 12), rest)
      | 'n' => .ok (some '\n', rest)
      | 'r' => .ok (some '\r', rest)
      | 't' => .ok (some '\t', rest)
      | 'u' => do
          let (n, rest) ← fourHex rest
          if isLeading n then
            match rest with
            | [] => .error .ended
            | ['\\'] => .error .ended
            | '\\' :: 'u' :: tail => do
                let (m, tail) ← fourHex tail
                if isTrailing m then
                  .ok (some (Char.ofNat (0x10000 + (n - 0xd800) * 0x400 + (m - 0xdc00))), tail)
                else .ok (none, tail)
            | _ => .ok (none, rest)
          else if isTrailing n then .ok (none, rest)
          else .ok (some (Char.ofNat n), rest)
      | _ => .error .malformed

/-- Reads up to the closing quote. The characters come last first in `read`, which is nothing
once an escape denoted nothing. `fuel` is the length of the text. -/
def quote (fuel : Nat) (read : Option (List Char)) (s : List Char) : Quote :=
  match fuel, s with
  | 0, _ => ⟨read.map fun cs => String.ofList cs.reverse, .error .ended⟩
  | _, [] => ⟨read.map fun cs => String.ofList cs.reverse, .error .ended⟩
  | fuel + 1, c :: rest =>
      if c = '"' then ⟨read.map fun cs => String.ofList cs.reverse, .ok rest⟩
      else if c = '\\' then
        match escape rest with
        | .error b => ⟨read.map fun cs => String.ofList cs.reverse, .error b⟩
        | .ok (some c, rest) => quote fuel (read.map (c :: ·)) rest
        | .ok (none, rest) => quote fuel none rest
      else if c.toNat < 0x20 then
        ⟨read.map fun cs => String.ofList cs.reverse, .error .malformed⟩
      else quote fuel (read.map (c :: ·)) rest

def Quote.part (q : Quote) : Part :=
  match q.text, q.rest with
  | some s, .ok rest => ⟨.str s, rest⟩
  | some _, .error b => .broken b
  | none, .ok rest => ⟨.unreadable none, rest⟩
  | none, .error b => ⟨.unreadable (some b), []⟩

/-! ### Lists, objects and values -/

/-- A list or an object that is nested too deep can only be passed over. -/
def bounded (depth : Nat) (node : Node) : Node :=
  if depth ≤ deepest then node else .unreadable node.stop?

/-- A member under its key. Under a key that denotes nothing there is nothing to read. -/
def keyed (key : Option String) (n : Node) : Option String × Node :=
  match key with
  | some k => (some k, n)
  | none => (none, .unreadable n.stop?)

mutual

def value (fuel depth : Nat) (s : List Char) : Part :=
  match fuel with
  | 0 => .broken .ended
  | fuel + 1 =>
      match skipSpace s with
      | [] => .broken .ended
      | c :: rest =>
          if c = 'n' then word .null "ull".toList rest
          else if c = 't' then word (.bool true) "rue".toList rest
          else if c = 'f' then word (.bool false) "alse".toList rest
          else if c = '"' then (quote (rest.length + 1) (some []) rest).part
          else if c = '-' then number true rest
          else if Decimal.isDigit c then number false (c :: rest)
          else if c = '[' then
            let (found, stop, rest) := items fuel (depth + 1) true rest
            ⟨bounded (depth + 1) (.arr found stop), rest⟩
          else if c = '\x7b' then
            let (found, stop, rest) := members fuel (depth + 1) true rest
            ⟨bounded (depth + 1) (.obj found stop), rest⟩
          else .broken .malformed

/-- The items up to the closing bracket; before every item but the first there is a comma. -/
def items (fuel depth : Nat) (first : Bool) (s : List Char) :
    List Node × Option Break × List Char :=
  match fuel with
  | 0 => ([], some .ended, [])
  | fuel + 1 =>
      match skipSpace s with
      | [] => ([], some .ended, [])
      | c :: rest =>
          if c = ']' then ([], none, rest)
          else if first then item fuel depth (c :: rest)
          else if c = ',' then
            match skipSpace rest with
            | [] => ([.broken .ended], some .ended, [])
            | d :: rest =>
                if d = ']' then ([], some .malformed, []) else item fuel depth (d :: rest)
          else ([], some .malformed, [])

def item (fuel depth : Nat) (s : List Char) : List Node × Option Break × List Char :=
  match fuel with
  | 0 => ([], some .ended, [])
  | fuel + 1 =>
      let head := value fuel depth s
      match head.node.stop? with
      | some b => ([head.node], some b, [])
      | none =>
          let (tail, stop, rest) := items fuel depth false head.rest
          (head.node :: tail, stop, rest)

def members (fuel depth : Nat) (first : Bool) (s : List Char) :
    List (Option String × Node) × Option Break × List Char :=
  match fuel with
  | 0 => ([], some .ended, [])
  | fuel + 1 =>
      match skipSpace s with
      | [] => ([], some .ended, [])
      | c :: rest =>
          if c = '\x7d' then ([], none, rest)
          else if first then member fuel depth (c :: rest)
          else if c = ',' then
            match skipSpace rest with
            | [] => ([(none, .broken .ended)], some .ended, [])
            | rest => member fuel depth rest
          else ([], some .malformed, [])

/-- One member and all after it: a quoted key, a colon and a value. -/
def member (fuel depth : Nat) (s : List Char) :
    List (Option String × Node) × Option Break × List Char :=
  match fuel, s with
  | fuel + 1, '"' :: rest =>
      let key := quote (rest.length + 1) (some []) rest
      match key.rest with
      | .error b =>
          ([(none, if key.text.isSome then .broken b else .unreadable (some b))], some b, [])
      | .ok rest =>
          match skipSpace rest with
          | ':' :: rest =>
              let head := value fuel depth rest
              match head.node.stop? with
              | some b => ([keyed key.text head.node], some b, [])
              | none =>
                  let (tail, stop, rest) := members fuel depth false head.rest
                  (keyed key.text head.node :: tail, stop, rest)
          | [] => ([keyed key.text (.broken .ended)], some .ended, [])
          | _ => ([keyed key.text (.broken .malformed)], some .malformed, [])
  | 0, _ => ([], some .ended, [])
  | _, _ => ([], some .malformed, [])

end

end Reader

/-- The tree of a text, and the break behind it if anything stands there. -/
def Source.ofText (s : String) : Source :=
  let cs := s.toList
  let part := Reader.value (4 * cs.length + 4) 0 cs
  let after := match Reader.skipSpace part.rest with
    | [] => none
    | _ => some .malformed
  .text part.node after

def parse (s : String) : Except Fault Json :=
  match Source.ofText s with
  | .value v => .ok v
  | .text root after => do
      let v ← root.toJson
      Node.finish after v

end ProcessStep.Json
