import ProcessStep.Json.Node
import ProcessStep.Proofs.Tables

/-!
Data values and the trees that denote them. Whatever a tree denotes is canonical, and a canonical
value is denoted by its own tree. So reading a value and writing it again loses nothing but the
order and the repetitions of keys.
-/

namespace ProcessStep

/-- A computation that came to an end did so with each of its steps. -/
theorem exists_of_bind_eq_ok {ε α β : Type} {x : Except ε α} {f : α → Except ε β} {b : β}
    (ends : x >>= f = .ok b) : ∃ a, x = .ok a ∧ f a = .ok b := by
  cases x with
  | error e => cases ends
  | ok a => exact ⟨a, rfl, ends⟩

namespace Json

theorem field?_object (fields : List (String × Json)) (k : String) :
    (object fields).field? k = Table.last? fields k :=
  Table.get?_ofList fields k

/-! ### What trees denote -/

/-- A table whose values are canonical. -/
structure Proper (t : Table Json) : Prop where
  sorted : t.Sorted
  values : ∀ e ∈ t, e.2.Canonical

namespace Proper

theorem nil : Proper [] := ⟨Table.sorted_nil, fun _ none => nomatch none⟩

theorem insert {t : Table Json} (proper : Proper t) (k : String) {v : Json}
    (canonical : v.Canonical) : Proper (t.insert k v) where
  sorted := Table.sorted_insert proper.sorted k v
  values e member := by
    rcases Table.eq_or_mem_of_mem_insert member with rfl | member
    · exact canonical
    · exact proper.values e member

theorem canonical {t : Table Json} (proper : Proper t) : (obj t).Canonical :=
  .obj proper.sorted proper.values

end Proper

namespace Node

theorem eq_of_finish {α : Type} {stop : Option Break} {x y : α} (ends : finish stop x = .ok y) :
    y = x := by
  cases stop with
  | none => exact (Except.ok.inj ends).symm
  | some stop => cases ends

/-- Only null denotes null. -/
theorem eq_null_of_toJson {n : Node} (read : n.toJson = .ok .null) : n = .null := by
  cases n with
  | null => rfl
  | arr items stop =>
      rw [toJson] at read
      obtain ⟨vs, _, ends⟩ := exists_of_bind_eq_ok read
      cases eq_of_finish ends
  | obj members stop =>
      rw [toJson] at read
      obtain ⟨t, _, ends⟩ := exists_of_bind_eq_ok read
      cases eq_of_finish ends
  | _ => cases read

mutual

/-- Values that are read have sorted objects, whatever the order of the keys in the text. -/
theorem canonical_of_toJson : ∀ {n : Node} {v : Json}, n.toJson = .ok v → v.Canonical
  | .null, _, read => by cases read; exact .null
  | .bool b, _, read => by cases read; exact .bool b
  | .int n, _, read => by cases read; exact .int n
  | .float x, _, read => by cases read; exact .float x
  | .str s, _, read => by cases read; exact .str s
  | .arr items stop, v, read => by
      rw [toJson] at read
      obtain ⟨vs, values, ends⟩ := exists_of_bind_eq_ok read
      rw [eq_of_finish ends]
      exact .arr (canonical_of_toItems values)
  | .obj members stop, v, read => by
      rw [toJson] at read
      obtain ⟨t, fields, ends⟩ := exists_of_bind_eq_ok read
      rw [eq_of_finish ends]
      exact (proper_of_toFields .nil fields).canonical
  | .unreadable _, _, read => by cases read
  | .broken _, _, read => by cases read

theorem canonical_of_toItems : ∀ {ns : List Node} {vs : List Json},
    toItems ns = .ok vs → ∀ v ∈ vs, v.Canonical
  | [], _, read => by cases read; exact fun _ none => nomatch none
  | n :: ns, vs, read => by
      rw [toItems] at read
      obtain ⟨v, first, read⟩ := exists_of_bind_eq_ok read
      obtain ⟨vs, rest, ends⟩ := exists_of_bind_eq_ok read
      cases ends
      exact List.forall_mem_cons.mpr ⟨canonical_of_toJson first, canonical_of_toItems rest⟩

/-- Reading members into a table of canonical values leaves one. -/
theorem proper_of_toFields : ∀ {members : List (Option String × Node)} {read t : Table Json},
    Proper read → toFields read members = .ok t → Proper t
  | [], _, _, proper, found => by cases found; exact proper
  | (none, n) :: _, _, _, _, found => by cases found
  | (some k, n) :: members, read, t, proper, found => by
      rw [toFields] at found
      obtain ⟨v, first, rest⟩ := exists_of_bind_eq_ok found
      exact proper_of_toFields (proper.insert k (canonical_of_toJson first)) rest

end

/-! ### The trees of values -/

theorem ofJson_ne_null {v : Json} (given : v ≠ .null) : ofJson v ≠ .null := by
  cases v <;> simp [ofJson] at given ⊢

mutual

/-- A canonical value is read back from the node that it is written as. -/
theorem toJson_ofJson : ∀ {v : Json}, v.Canonical → (ofJson v).toJson = .ok v
  | .null, _ => rfl
  | .bool _, _ => rfl
  | .int _, _ => rfl
  | .float _, _ => rfl
  | .str _, _ => rfl
  | .arr items, canonical => by
      cases canonical with
      | arr values => rw [ofJson, toJson, toItems_ofItems values]; rfl
  | .obj fields, canonical => by
      cases canonical with
      | obj sorted values =>
          have same : Table.extend [] fields = fields := Table.ofList_of_sorted sorted
          rw [ofJson, toJson, toFields_ofFields [] values, same]
          rfl

theorem toItems_ofItems : ∀ {vs : List Json}, (∀ v ∈ vs, v.Canonical) →
    toItems (ofItems vs) = .ok vs
  | [], _ => rfl
  | v :: vs, canonical => by
      obtain ⟨first, rest⟩ := List.forall_mem_cons.mp canonical
      rw [ofItems, toItems, toJson_ofJson first, toItems_ofItems rest]
      rfl

theorem toFields_ofFields : ∀ (read : Table Json) {t : List (String × Json)},
    (∀ e ∈ t, e.2.Canonical) → toFields read (ofFields t) = .ok (read.extend t)
  | _, [], _ => rfl
  | read, (k, v) :: t, canonical => by
      obtain ⟨first, rest⟩ := List.forall_mem_cons.mp canonical
      rw [ofFields, toFields, toJson_ofJson first, Table.extend_cons]
      exact toFields_ofFields (read.insert k v) rest

end

/-- A table of canonical values is read back from its fields. -/
theorem toFields_of_proper {t : Table Json} (proper : Proper t) :
    toFields [] (ofFields t) = .ok t := by
  rw [toFields_ofFields [] proper.values]
  exact congrArg Except.ok (Table.ofList_of_sorted proper.sorted)

end Node

end Json

end ProcessStep
