import ProcessStep.Expression.Value
import ProcessStep.Proofs.Tables

/-!
Data as values of the expression language and back. `Json.Plain` says which data there are:
their objects are in the order of their keys, their whole numbers are in range, and their
floating-point numbers are finite. Whatever is plain, however deep it lies, is had back from the
value that it becomes (`toJson?_ofJson`).
-/

namespace ProcessStep

/-- What data can be, at every depth. -/
inductive Json.Plain : Json → Prop
  | null : Plain .null
  | bool (b : Bool) : Plain (.bool b)
  | int {n : Int} (least : leastInt ≤ n) (greatest : n ≤ greatestInt) : Plain (.int n)
  | float {x : Float} (isNumber : x.isNaN = false) (finite : x.isInf = false) : Plain (.float x)
  | str (s : String) : Plain (.str s)
  | arr {items : List Json} (values : ∀ v ∈ items, Plain v) : Plain (.arr items)
  | obj {fields : List (String × Json)} (sorted : Table.Sorted fields)
      (values : ∀ e ∈ fields, Plain e.2) : Plain (.obj fields)

namespace Expression.Value

theorem intJson?_of_plain {n : Int} (plain : (Json.int n).Plain) :
    intJson? n = some (.int n) := by
  cases plain with
  | int least greatest => simp [intJson?, least, greatest]

theorem floatJson_of_plain {x : Float} (plain : (Json.float x).Plain) :
    floatJson x = .float x := by
  cases plain with
  | float isNumber finite =>
      rw [floatJson, isNumber, finite]
      rfl

mutual

/-- Data are had back from the value that they become. -/
theorem toJson?_ofJson : ∀ {v : Json}, v.Plain → (ofJson v).toJson? = some v
  | .null, _ => rfl
  | .bool _, _ => rfl
  | .int n, plain => by rw [ofJson, toJson?, intJson?_of_plain plain]
  | .float x, plain => by rw [ofJson, toJson?, floatJson_of_plain plain]
  | .str _, _ => rfl
  | .arr items, plain => by
      cases plain with
      | arr values =>
          rw [ofJson, sequence, toJson?, toItems?_ofItems values]
          rfl
  | .obj fields, plain => by
      cases plain with
      | obj sorted values =>
          -- The entries are written in their order, so they make the same table again.
          have same : Table.extend [] fields = fields := Table.ofList_of_sorted sorted
          rw [ofJson, toJson?, toFields?_ofFields [] values, same]
          rfl

/-- Items that are data are the same again after a detour through the values of the engine. -/
theorem toItems?_ofItems : ∀ {vs : List Json}, (∀ v ∈ vs, v.Plain) →
    toItems? (ofItems vs) = some vs
  | [], _ => rfl
  | v :: vs, plain => by
      obtain ⟨first, rest⟩ := List.forall_mem_cons.mp plain
      rw [ofItems, toItems?, toJson?_ofJson first, toItems?_ofItems rest]
      rfl

/-- Fields that are data are read back one after the other over what was read. -/
theorem toFields?_ofFields : ∀ (read : Table Json) {t : List (String × Json)},
    (∀ e ∈ t, e.2.Plain) → toFields? read (ofFields t) = some (read.extend t)
  | _, [], _ => rfl
  | read, (k, v) :: t, plain => by
      obtain ⟨first, rest⟩ := List.forall_mem_cons.mp plain
      rw [ofFields, toFields?, toJson?_ofJson first, Table.extend_cons]
      exact toFields?_ofFields (read.insert k v) rest

end

end Expression.Value

end ProcessStep
