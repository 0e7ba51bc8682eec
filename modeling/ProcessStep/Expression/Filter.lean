import ProcessStep.Expression.Test
import ProcessStep.Decimal.Reading

/-!
The filters that may follow a bar: those of `named?`, and `map`. Any other filter is unknown. The
filters `attr`, `batch`, `chain`, `dictsort`, `format`, `groupby`, `indent`, `lines`, `pprint`,
`slice`, `tojson`, `unique`, `urlencode` and `zip` are left out.
-/

namespace ProcessStep.Expression.Filter

open Arguments

def plain (f : Value → Outcome Value) (v : Value) (args : List Given) : Outcome Value := do
  done args
  f v

/-- The value is a text whose markup characters are escaped already. -/
def isSafe : Value → Bool
  | .str _ safe => safe
  | _ => false

/-- A filter on texts; what it makes of a safe text is safe. -/
def ofText (f : String → String) : Value → List Given → Outcome Value :=
  plain fun v => .ok (.str (f v.toText) (isSafe v))

def items (v : Value) : Outcome (List Value) :=
  match v.iterate? with
  | some xs => .ok xs
  | none => .error .invalidOperation

/-! ### Texts -/

def escapeMarkup (s : String) : String :=
  String.join <| s.toList.map fun c =>
    match c with
    | '<' => "&lt;"
    | '>' => "&gt;"
    | '&' => "&amp;"
    | '"' => "&quot;"
    | '\'' => "&#x27;"
    | '/' => "&#x2f;"
    | c => c.toString

/-- Markup characters are written as entities, once. -/
def escape : Value → Outcome Value
  | .str s true => .ok (.str s true)
  | .str s false => .ok (.str (escapeMarkup s) true)
  | v =>
      match v.kind with
      | .undefined => .ok (.str v.toText true)
      | .none => .ok (.str v.toText true)
      | .bool => .ok (.str v.toText true)
      | .number => .ok (.str v.toText true)
      | _ => .ok (.str (escapeMarkup v.toText) true)

def join (v : Value) (args : List Given) : Outcome Value := do
  let (separator, args) ← optional Given.toText args
  done args
  if v.isAbsent then .ok (.text "")
  else
    let xs ← items v
    .ok (.text (String.intercalate (separator.getD "") (xs.map Value.toText)))

/-- The places of `pattern` are counted from the front and do not overlap; an empty pattern
stands between all characters and at both ends. `fuel` is the length of the text. -/
def splitAll (fuel : Nat) (pattern s : List Char) : List (List Char) :=
  go fuel [] s
where
  go : Nat → List Char → List Char → List (List Char)
    | 0, read, s => [read.reverse ++ s]
    | _, read, [] => [read.reverse]
    | fuel + 1, read, c :: rest =>
        if pattern.isPrefixOf (c :: rest) then
          read.reverse :: go fuel [] ((c :: rest).drop pattern.length)
        else go fuel (c :: read) rest

/-- The parts of a text between the places of a pattern. -/
def splitOn (pattern s : List Char) : List (List Char) :=
  if pattern.isEmpty then [] :: s.map ([·]) ++ [[]]
  else splitAll s.length pattern s

def atMost (n : Nat) (separator : List Char) (parts : List (List Char)) : List (List Char) :=
  if parts.length ≤ n then parts
  else parts.take (n - 1) ++ [List.intercalate separator (parts.drop (n - 1))]

/-- The first `n` words, and then the rest as it is from the next word on, or blanks that are left
over. -/
def splitWords (n : Nat) (s : List Char) : List (List Char) :=
  match n, Text.trimStart s with
  | _, [] => if s.isEmpty then [] else [s]
  | 0, s => [s]
  | n + 1, s => s.takeWhile (!Text.isBlank ·) :: splitWords n (s.dropWhile (!Text.isBlank ·))

/-- The parts of a safe text are safe. -/
def split (v : Value) (args : List Given) : Outcome Value := do
  let (pattern, args) ← optional Given.text args
  let (limit, args) ← optional Given.position args
  done args
  let s := (← (Given.value v).text).toList
  let limit := (limit.filter (0 ≤ ·)).map Int.toNat
  let parts := match pattern, limit with
    | none, none => Text.words s
    | none, some n => splitWords n s
    | some p, none => splitOn p.toList s
    | some p, some n => atMost (n + 1) p.toList (splitOn p.toList s)
  .ok (.sequence (parts.map fun p => .str (String.ofList p) (isSafe v)))

def replace (v : Value) (args : List Given) : Outcome Value := do
  let (old, args) ← required Given.toText args
  let (new, args) ← required Given.toText args
  done args
  .ok (.text (String.ofList
    (List.intercalate new.toList (splitOn old.toList v.toText.toList))))

def trim (v : Value) (args : List Given) : Outcome Value := do
  let (chars, args) ← optional Given.toText args
  done args
  let s := v.toText.toList
  let trimmed := match chars with
    | none => Text.trim s
    | some cs => Text.trimBy (cs.toList.contains ·) s
  .ok (.str (String.ofList trimmed) (isSafe v))

/-! ### Numbers -/

def abs : Value → Outcome Value
  | .int n .unsigned => .ok (.int n .unsigned)
  | .int n _ => Value.whole n.natAbs
  | .float x => .ok (if x.isNaN then .nan else .float x.abs)
  | .nan => .ok .nan
  | _ => .error .invalidOperation

/-- A floating-point number without its fraction, moved into the range of whole numbers. -/
def truncate (x : Float) : Value :=
  .int
    (if x.isNaN then 0
      else if x.isInf then (if x < 0 then Value.leastWhole else Value.greatestWhole)
      else max Value.leastWhole (min Value.greatestWhole (Value.truncated x)))
    .wide

/-- An optional sign and decimal digits as a whole number. -/
def decimal? (s : List Char) : Option Int :=
  let (negative, digits) := Decimal.spanSign s
  if digits.isEmpty || !digits.all Decimal.isDigit then none
  else
    let n : Int := Decimal.ofDigits digits
    some (if negative then -n else n)

def int : Value → Outcome Value
  | .undefined => .ok (.count 0)
  | .none => .ok (.count 0)
  | .bool b => .ok (.count (if b then 1 else 0))
  | .int n w => .ok (.int n w)
  | .float x => .ok (truncate x)
  | .nan => .ok (.int 0 .wide)
  | .str s _ =>
      match (decimal? s.toList).filter Value.fits, Decimal.ofText? s.toList with
      | some n, _ => .ok (.int n .wide)
      | none, some x => .ok (truncate x)
      | none, none => .error .invalidOperation
  | _ => .error .invalidOperation

/-- The number that a text reads as; what is not a number has a sign as well. -/
def readFloat? (s : List Char) : Option Value :=
  (Decimal.ofText? s).map fun x => if x.isNaN && s.head? ≠ some '-' then .nan else .float x

def float : Value → Outcome Value
  | .undefined => .ok (.float 0)
  | .none => .ok (.float 0)
  | .bool b => .ok (.float (if b then 1 else 0))
  | .int n _ => .ok (.float (Float.ofInt n))
  | .float x => .ok (.float x)
  | .nan => .ok .nan
  | .str s _ =>
      match readFloat? s.toList with
      | some v => .ok v
      | none => .error .invalidOperation
  | _ => .error .invalidOperation

/-- The product with a power, by repeated squaring and with a rounding at every step. -/
def timesPower (product x : Float) (n : Nat) : Float :=
  if n = 0 then product
  else timesPower (if n % 2 = 1 then product * x else product) (x * x) (n / 2)
termination_by n
decreasing_by omega

def tenTo (n : Int) : Float :=
  if 0 ≤ n then timesPower 1 10 n.toNat else 1 / timesPower 1 10 n.natAbs

/-- A number of places: a whole number of 32 bits. -/
def places (g : Given) : Outcome Int := do
  let n ← g.position
  if -2147483648 ≤ n && n < 2147483648 then .ok n else .error .invalidOperation

/-- Halves are rounded away from zero. -/
def round (v : Value) (args : List Given) : Outcome Value := do
  let (precision, args) ← optional places args
  done args
  match v with
  | .int n w => .ok (.int n w)
  | .nan => .ok .nan
  | .float x =>
      let unit := tenTo (precision.getD 0)
      .ok (.float ((unit * x).round / unit))
  | _ => .error .invalidOperation

def sum (v : Value) : Outcome Value := do
  (← items v).foldlM
    (fun total x =>
      if x.isUndefined then .ok total
      else if x.kind = .number then Value.add total x
      else .error .invalidOperation)
    (.int 0 .signed)

/-! ### Lists and maps -/

def length (v : Value) : Outcome Value :=
  match v.length? with
  | some n => .ok (.count n)
  | none => .error .invalidOperation

def first : Value → Outcome Value
  | .str s _ => .ok ((s.toList.head?.map fun c => .text c.toString).getD .undefined)
  | .list _ xs => .ok (xs.head?.getD .undefined)
  | .repetition xs times => .ok (if times = 0 then .undefined else xs.head?.getD .undefined)
  | .map entries => .ok ((entries.head?.map (·.1)).getD .undefined)
  | _ => .error .invalidOperation

def last : Value → Outcome Value
  | .str s _ => .ok ((s.toList.getLast?.map fun c => .text c.toString).getD .undefined)
  | .list _ xs => .ok (xs.getLast?.getD .undefined)
  | .repetition xs times => .ok (if times = 0 then .undefined else xs.getLast?.getD .undefined)
  | _ => .error .invalidOperation

def reverse : Value → Outcome Value
  | .undefined => .ok .undefined
  | .none => .ok .none
  | .str s safe => .ok (.str (String.ofList s.toList.reverse) safe)
  | .list _ xs => .ok (.list .stream xs.reverse)
  | .repetition xs times => .ok (.repetition xs.reverse times)
  | .map entries => .ok (.list .stream (entries.map (·.1)).reverse)
  | _ => .error .invalidOperation

def pairs : Value → Outcome Value
  | .map entries => .ok (.list .stream (entries.map fun (k, v) => .sequence [k, v]))
  | _ => .error .invalidOperation

/-- Of equal least items the first counts. -/
def least : List Value → Value
  | [] => .undefined
  | x :: xs => xs.foldl (fun m y => if y.order m == .lt then y else m) x

/-- Of equal greatest items the last counts. -/
def greatest : List Value → Value
  | [] => .undefined
  | x :: xs => xs.foldl (fun m y => if y.order m == .lt then m else y) x

/-- The order for sorting; unless the case counts, small and capital ASCII letters are alike. -/
def sortOrder (caseCounts : Bool) (a b : Value) : Ordering :=
  match a, b with
  | .str s x, .str t y =>
      if caseCounts then (Value.str s x).order (.str t y)
      else compare (Text.toSmallAscii s) (Text.toSmallAscii t)
  | a, b => a.order b

/-- The paths of a list with commas, those without characters left out. -/
def sortPaths (s : String) : List String :=
  ((splitOn [','] s.toList).map fun p => String.ofList (Text.trim p)).filter (!·.isEmpty)

/-- What an item is sorted by: its part at a path, or its parts at several paths as a list. -/
def sortKey (paths : List String) (v : Value) : Outcome Value :=
  match paths with
  | [p] => v.path p
  | paths => do .ok (.sequence (← paths.mapM v.path))

/-- The order for sorting by paths. Items without a part are alike to all others. -/
def orderBy (caseCounts : Bool) (paths : List String) (a b : Value) : Ordering :=
  match sortKey paths a, sortKey paths b with
  | .ok v, .ok w => sortOrder caseCounts v w
  | _, _ => .eq

/-- The first item may stand before the second one. -/
def notAfter (order : Value → Value → Ordering) (reversed : Bool) (a b : Value) : Bool :=
  if reversed then order b a != .gt else order a b != .gt

/-- Puts an item behind the last one that it does not precede; the list has its last item first. -/
def insertBehind (notAfter : Value → Value → Bool) (x : Value) : List Value → List Value
  | [] => [x]
  | y :: rest => if notAfter y x then x :: y :: rest else y :: insertBehind notAfter x rest

/-- The items in order; equal ones stay in theirs. Short lists are sorted by insertion, which also
says where the items go that are alike to all others. -/
def sorted (notAfter : Value → Value → Bool) (xs : List Value) : List Value :=
  if xs.length ≤ 20 then (xs.foldl (fun found x => insertBehind notAfter x found) []).reverse
  else xs.mergeSort notAfter

def truthKeyword (entries : List (Value × Value)) (name : String) : Outcome Bool :=
  match keyword? entries name with
  | some v => (Given.value v).truth
  | none => .ok false

def textKeyword? (entries : List (Value × Value)) (name : String) : Outcome (Option String) :=
  match keyword? entries name with
  | some v => do .ok (some (← (Given.value v).text))
  | none => .ok none

/-- Equal items stay in their order, also in the reversed one. -/
def sort (v : Value) (args : List Given) : Outcome Value := do
  let (entries, args) := keywords args
  done args
  let xs ← items v
  let caseCounts ← truthKeyword entries "case_sensitive"
  let paths := (← textKeyword? entries "attribute").map sortPaths
  let reversed ← truthKeyword entries "reverse"
  onlyNamed entries ["case_sensitive", "attribute", "reverse"]
  let order := match paths with
    | none => sortOrder caseCounts
    | some paths => orderBy caseCounts paths
  .ok (.sequence (sorted (notAfter order reversed) xs))

/-- The value, or another one, whatever it is, where there is none. With a second argument that
holds, the other one also stands for values that do not hold. -/
def default (v : Value) (args : List Given) : Outcome Value := do
  let (other, isLax) ← match args with
    | [] => .ok (.text "", false)
    | [g] => .ok (g.toValue, false)
    | [g, lax] => .ok (g.toValue, lax.toValue.isTruthy)
    | _ => .error .tooManyArguments
  .ok (if v.isUndefined || (isLax && !v.isTruthy) then other else v)

def choose (wanted : Bool) (member : Option String) (v : Value) (args : List Given) :
    Outcome Value := do
  let (test, args) ← optional Given.toText args
  match test with
  | none => .ok ()
  | some name => if (Test.named? name).isSome then .ok () else .error .unknownTest
  let kept ← (← items v).filterM fun x => do
    let subject ← match member with
      | none => .ok x
      | some p => x.path p
    let holds ← match test with
      | none => .ok subject.isTruthy
      | some name => Test.apply name subject args
    .ok (holds == wanted)
  .ok (.sequence kept)

def chooseBy (wanted : Bool) (v : Value) (args : List Given) : Outcome Value := do
  let (member, args) ← required Given.toText args
  choose wanted (some member) v args

/-- The part of an item that a path or a position names, or the default for what is missing. -/
def mapPart (member : Value) (default : Value) (x : Value) : Outcome Value :=
  let part := match member with
    | .str p _ => x.path p
    | key => x.item key
  match part with
  | .ok v => .ok (if v.isUndefined then default else v)
  | .error e => if default.isUndefined then .error e else .ok default

/-- Filters other than `map`, by name. -/
def named? : String → Option (Value → List Given → Outcome Value)
  | "upper" => some (ofText Text.toCapital)
  | "lower" => some (ofText Text.toSmall)
  | "title" => some (plain fun v => .ok (.text (Text.toTitle v.toText)))
  | "capitalize" => some (ofText Text.capitalize)
  | "length" => some (plain length)
  | "count" => some (plain length)
  | "join" => some join
  | "first" => some (plain first)
  | "last" => some (plain last)
  | "sort" => some sort
  | "reverse" => some (plain reverse)
  | "min" => some (plain fun v => do .ok (least (← items v)))
  | "max" => some (plain fun v => do .ok (greatest (← items v)))
  | "sum" => some (plain sum)
  | "default" => some default
  | "d" => some default
  | "trim" => some trim
  | "replace" => some replace
  | "split" => some split
  | "abs" => some (plain abs)
  | "round" => some round
  | "int" => some (plain int)
  | "float" => some (plain float)
  | "string" => some (plain fun v => .ok (if v.kind = .text then v else .text v.toText))
  | "bool" => some (plain fun v => .ok (.bool v.isTruthy))
  | "list" => some (plain fun v => do .ok (.sequence (← items v)))
  | "items" => some (plain pairs)
  | "select" => some (choose true none)
  | "reject" => some (choose false none)
  | "selectattr" => some (chooseBy true)
  | "rejectattr" => some (chooseBy false)
  | "escape" => some (plain escape)
  | "e" => some (plain escape)
  | "safe" => some (plain fun v => .ok (.str v.toText true))
  | _ => none

def isKnown (name : String) : Bool :=
  name = "map" || (named? name).isSome

/-- Applies the filter of a name to positional arguments. With them, `map` applies another filter
item by item. -/
def applyByPosition (name : String) (v : Value) : List Value → Outcome Value
  | [] =>
      if name = "map" then .error .invalidOperation
      else match named? name with
        | some f => f v []
        | none => .error .unknownFilter
  | a :: rest =>
      if name ≠ "map" then
        match named? name with
        | some f => f v (.value a :: rest.map .value)
        | none => .error .unknownFilter
      else match a with
        | .str filter _ =>
            if isKnown filter then do
              let xs ← (← items v).mapM fun x => applyByPosition filter x rest
              .ok (.sequence xs)
            else .error .unknownFilter
        | _ => .error .invalidOperation

/-- Applies the filter of a name. With the named argument `attribute`, `map` looks up a part item
by item; otherwise it has no use for named arguments. -/
def apply (name : String) (v : Value) (args : List Given) : Outcome Value :=
  if name ≠ "map" then
    match named? name with
    | some f => f v args
    | none => .error .unknownFilter
  else
    let (entries, rest) := keywords args.reverse
    let positional := rest.reverse.map Given.toValue
    match keyword? entries "attribute", positional with
    | none, _ => applyByPosition name v positional
    | some _, _ :: _ => .error .tooManyArguments
    | some member, [] => do
        let default := (Value.keyed? entries (.text "default")).getD .undefined
        let xs ← (← items v).mapM (mapPart member default)
        onlyNamed entries ["attribute", "default"]
        .ok (.sequence xs)

end ProcessStep.Expression.Filter
