import ProcessStep.Definition.Decoder
import ProcessStep.Proofs.Formats.Values

/-!
What decoders give back. A decoder returns a value from its written form (`Decoder.Returns`), and
keeps a format if it does so for all that it can read (`Decoder.Keeps`). Lists, optional values
and records keep their formats as far as their parts do. A record keeps its fields in two steps:
what holds of all that is assigned holds of what was read (`Record.holds_of_decoder`), and a
table of fields is read as if the fields were assigned one after the other
(`Record.Writes.returns`).
-/

namespace ProcessStep.Definition

open Json (Node)

variable {α : Type} {o : Origin} {n : Node} {a : α} {v : Json} {write : α → Json}

/-- A break behind a value is an error, or changes nothing. -/
theorem eq_of_finish {stop : Option Json.Break} {x y : α} (ends : finish stop x = .ok y) :
    y = x := by
  cases stop with
  | none => exact (Except.ok.inj ends).symm
  | some stop => cases ends

namespace Decoder

/-- The value is read from what is written of it, which is not null. -/
structure Returns (d : Decoder α) (v : Json) (a : α) : Prop where
  given : v ≠ .null
  read : ∀ o, d o (.ofJson v) = .ok a

/-- All that is read, except from null, is returned from what is written of it. -/
def Keeps (d : Decoder α) (write : α → Json) : Prop :=
  ∀ ⦃o n a⦄, n ≠ .null → d o n = .ok a → d.Returns (write a) a

/-! ### Single values -/

theorem returns_text (s : String) : text.Returns (.str s) s := ⟨nofun, fun _ => rfl⟩

theorem returns_truth (b : Bool) : truth.Returns (.bool b) b := ⟨nofun, fun _ => rfl⟩

theorem returns_natural (n : Nat) : natural.Returns (.int n) n where
  given := nofun
  read o := by simp [Node.ofJson, natural, Int.not_lt.mpr (Int.natCast_nonneg n)]

theorem returns_any (given : v ≠ .null) (canonical : v.Canonical) : any.Returns v v where
  given := given
  read o := by rw [any, Node.toJson_ofJson canonical]

/-- Any value is read as what the node stands for. -/
theorem toJson_of_any (read : any o n = .ok v) : n.toJson = .ok v := by
  unfold any at read
  cases found : n.toJson with
  | ok v' => rw [found] at read; cases read; rfl
  | error f => rw [found] at read; cases read

/-- Values that were read are read back from themselves. -/
theorem keeps_any : Keeps any fun v => v := fun _ _ v given read => by
  have denotes := toJson_of_any read
  refine returns_any (fun isNull => given ?_) (Node.canonical_of_toJson denotes)
  subst isNull
  exact Node.eq_null_of_toJson denotes

/-! ### Optional values and lists -/

/-- An optional value that is not null is read as the value. -/
theorem optional_of_given (d : Decoder α) (o : Origin) (given : n ≠ .null) :
    optional d o n = d o n >>= fun a => .ok (some a) := by
  cases n <;> first | exact absurd rfl given | rfl

theorem returns_optional {d : Decoder α} (returns : d.Returns v a) :
    (optional d).Returns v (some a) where
  given := returns.given
  read o := by
    rw [optional_of_given d o (Node.ofJson_ne_null returns.given), returns.read]
    rfl

/-- The value of an optional field is read back if there is one. -/
theorem Keeps.optional {d : Decoder α} {a? : Option α} (keeps : d.Keeps write)
    (read : optional d o n = .ok a?) : ∀ a, a? = some a → d.Returns (write a) a := by
  rintro a rfl
  by_cases given : n = .null
  · subst given
    cases read
  · rw [optional_of_given d o given] at read
    obtain ⟨a', read, same⟩ := exists_of_bind_eq_ok read
    cases same
    exact keeps given read

theorem returns_list {d : Decoder α} {as : List α}
    (returns : ∀ a ∈ as, d.Returns (write a) a) : (list d).Returns (.arr (as.map write)) as where
  given := nofun
  read o := by
    have items : each d o (Node.ofItems (as.map write)) = .ok as := by
      induction as with
      | nil => rfl
      | cons a as ih =>
          obtain ⟨first, rest⟩ := List.forall_mem_cons.mp returns
          rw [List.map_cons, Node.ofItems, each, first.read o, ih rest]
          rfl
    rw [Node.ofJson, list, items]
    rfl

theorem Keeps.each {d : Decoder α} {as : List α} {ns : List Node} (keeps : d.Keeps write)
    (refuses : ∀ o a, d o .null ≠ .ok a) (read : each d o ns = .ok as) :
    ∀ a ∈ as, d.Returns (write a) a := by
  induction ns generalizing as with
  | nil =>
      cases read
      exact fun _ none => nomatch none
  | cons n ns ih =>
      obtain ⟨a, first, read⟩ := exists_of_bind_eq_ok read
      obtain ⟨as, rest, same⟩ := exists_of_bind_eq_ok read
      cases same
      have given : n ≠ .null := fun isNull => refuses o a (isNull ▸ first)
      exact List.forall_mem_cons.mpr ⟨keeps given first, ih rest⟩

/-- The items of a list that was read are read back one by one. -/
theorem Keeps.list {d : Decoder α} {as : List α} (keeps : d.Keeps write)
    (refuses : ∀ o a, d o .null ≠ .ok a) (read : list d o n = .ok as) :
    ∀ a ∈ as, d.Returns (write a) a := by
  cases n with
  | arr items stop =>
      obtain ⟨as', read, ends⟩ := exists_of_bind_eq_ok read
      rw [eq_of_finish ends]
      exact keeps.each refuses read
  | _ => cases read

end Decoder

/-! ### Records -/

namespace Record

variable {r : Record α}

/-- Records are not read from null. -/
theorem refuses_null (o : Origin) (a : α) : r.decoder o .null ≠ .ok a := nofun

section Invariant

variable {P : α → Prop} (assign : ∀ {o x k n y}, P x → r.assign o x k n = .ok y → P y)

include assign

/-- What every assignment of a field keeps holds after all members were read. -/
theorem holds_of_visit {members : List (Option String × Node)} {seen seen' : List String}
    {x y : α} (holds : P x) (read : r.visit o seen x members = .ok (seen', y)) : P y := by
  induction members generalizing seen x with
  | nil =>
      cases read
      exact holds
  | cons e members ih =>
      obtain ⟨_ | k, n⟩ := e
      · cases read
      rw [visit] at read
      split at read
      · split at read
        · cases read
        · obtain ⟨x', assigned, read⟩ := exists_of_bind_eq_ok read
          exact ih (assign holds assigned) read
      · split at read
        · cases read
        · exact ih holds read

/-- What every assignment of a field keeps holds after all items were read. -/
theorem holds_of_visitItems {names names' : List String} {items items' : List Node} {x y : α}
    (holds : P x) (read : r.visitItems o x names items = .ok (y, names', items')) : P y := by
  induction names generalizing x items with
  | nil =>
      cases read
      exact holds
  | cons k names ih =>
      cases items with
      | nil =>
          cases read
          exact holds
      | cons n items =>
          obtain ⟨x', assigned, read⟩ := exists_of_bind_eq_ok read
          exact ih (assign holds assigned) read

/-- What holds of the defaults and of all that is assigned holds of every record that is read. -/
theorem holds_of_decoder (blank : P r.blank) (read : r.decoder o n = .ok a) : P a := by
  cases n with
  | obj members stop =>
      obtain ⟨⟨seen, x⟩, visited, read⟩ := exists_of_bind_eq_ok read
      have holds := holds_of_visit assign blank visited
      dsimp only at read
      split at read
      · cases read
      · split at read
        · cases read
        · cases read
          exact holds
  | arr items stop =>
      obtain ⟨⟨x, missing, extra⟩, visited, read⟩ := exists_of_bind_eq_ok read
      have holds := holds_of_visitItems assign blank visited
      cases missing with
      | cons k names =>
          dsimp only at read
          split at read
          · cases read
          · cases read
          · cases read
            exact holds
      | nil =>
          cases extra with
          | nil => cases o <;> exact eq_of_finish read ▸ holds
          | cons n ns => cases o <;> cases read
  | _ => cases read

end Invariant

/-! ### Written records -/

/-- The fields of a table assigned one after the other. -/
def assigned (r : Record α) (o : Origin) (x : α) : Table Json → Except DecodeError α
  | [] => .ok x
  | (k, v) :: rest => do
      let x ← r.assign o x k (.ofJson v)
      r.assigned o x rest

/-- A table of fields of the record that come once each, the required ones among them, which
make the record when they are assigned one after the other. -/
structure Writes (r : Record α) (t : Table Json) (a : α) : Prop where
  known : ∀ k ∈ t.keys, k ∈ r.names
  distinct : t.keys.Nodup
  required : ∀ k ∈ r.required, k ∈ t.keys
  assigned : ∀ o, r.assigned o r.blank t = .ok a

/-- Fields that are known and come once each are assigned in the order of the table. -/
theorem visit_ofFields {t : Table Json} {seen : List String} {x : α}
    (known : ∀ k ∈ t.keys, k ∈ r.names) (distinct : t.keys.Nodup) (new : ∀ k ∈ t.keys, k ∉ seen)
    (ends : r.assigned o x t = .ok a) :
    r.visit o seen x (Node.ofFields t) = .ok (t.keys.reverse ++ seen, a) := by
  induction t generalizing seen x with
  | nil =>
      cases ends
      rfl
  | cons e t ih =>
      obtain ⟨k, v⟩ := e
      obtain ⟨first, rest⟩ := List.nodup_cons.mp distinct
      obtain ⟨x', assigned, ends⟩ := exists_of_bind_eq_ok ends
      obtain ⟨isKnown, known⟩ := List.forall_mem_cons.mp known
      obtain ⟨isNew, new⟩ := List.forall_mem_cons.mp new
      -- What is still to come is new after this field too, as its key comes once.
      have unseen : ∀ k' ∈ Table.keys t, k' ∉ k :: seen := fun k' later => by
        rw [List.mem_cons, not_or]
        exact ⟨fun same => first (same ▸ later), new k' later⟩
      rw [Node.ofFields, visit, if_pos (List.contains_iff_mem.mpr isKnown),
        if_neg (mt List.contains_iff_mem.mp isNew), assigned]
      exact (ih known rest unseen ends).trans (by simp [Table.keys])

/-- A written record is read as what it was written of. -/
theorem Writes.returns {t : Table Json} (writes : r.Writes t a) :
    r.decoder.Returns (.obj t) a where
  given := nofun
  read o := by
    have visited := visit_ofFields writes.known writes.distinct
      (fun _ _ => List.not_mem_nil) (writes.assigned o)
    have complete : r.required.find? (!(t.keys.reverse ++ []).contains ·) = none := by
      simpa using writes.required
    rw [Node.ofJson, decoder, ofObject, visited]
    dsimp only [bind, Except.bind]
    rw [complete]

end Record

end ProcessStep.Definition
