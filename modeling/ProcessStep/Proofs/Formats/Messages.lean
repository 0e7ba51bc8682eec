import ProcessStep.Proofs.Formats.Definitions

/-!
The formats of messages and snapshots. A message that was read has no data under `loop`
(`Message.PartsReturn`), so what is written of it can be taken apart again.
-/

namespace ProcessStep

open Definition (Decoder Origin iterationRecord messageDecoder visitMessage)
open Json (Node)

namespace Message

variable {m m' : Message} {o : Origin} {n : Node} {seen : Bool}
variable {members : List (Option String × Node)}

/-- A message whose iteration and data are read back from what is written of them. -/
structure PartsReturn (m : Message) : Prop where
  proper : Json.Proper m.data
  free : m.data.get? "loop" = none
  iteration : ∀ i, m.iteration = some i → iterationRecord.decoder.Returns i.toJson i

/-! ### What is read -/

/-- Reading one member after the other keeps the parts of a message apart. -/
theorem partsReturn_of_visit (parts : m.PartsReturn)
    (read : visitMessage o seen m members = .ok m') : m'.PartsReturn := by
  induction members generalizing seen m with
  | nil =>
      cases read
      exact parts
  | cons e members ih =>
      obtain ⟨_ | k, n⟩ := e
      · cases read
      rw [visitMessage] at read
      split at read
      · split at read
        · cases read
        · obtain ⟨i, found, read⟩ := exists_of_bind_eq_ok read
          refine ih ?_ read
          exact { parts with iteration := Definition.keeps_iteration.optional found }
      · next isData =>
          obtain ⟨v, found, read⟩ := exists_of_bind_eq_ok read
          have canonical := Node.canonical_of_toJson (Decoder.toJson_of_any found)
          refine ih ?_ read
          refine { parts with proper := parts.proper.insert k canonical, free := ?_ }
          rw [Table.get?_insert_of_ne _ _ isData, parts.free]

/-- In a message that was read, the iteration and the data are apart. -/
theorem partsReturn_of_decoder (read : messageDecoder o n = .ok m) : m.PartsReturn := by
  cases n with
  | obj members stop =>
      obtain ⟨m', visited, ends⟩ := exists_of_bind_eq_ok read
      rw [Definition.eq_of_finish ends]
      have blank : PartsReturn .empty := ⟨.nil, rfl, nofun⟩
      exact partsReturn_of_visit blank visited
  | _ => cases read

/-! ### What is written -/

def written (m : Message) : Table Json :=
  (Table.insertSome [] "loop" (m.iteration.map Iteration.toJson)).extend m.data

/-- A field `loop` of the data stands in the place of the iteration. -/
theorem get?_written_of_proper (proper : Json.Proper m.data) (k : String) :
    m.written.get? k =
      (m.data.get? k).or (if k = "loop" then m.iteration.map Iteration.toJson else none) := by
  rw [written, Table.get?_extend, Table.last?_of_sorted proper.sorted, Table.get?_insertSome]
  by_cases isLoop : k = "loop"
  · simp [isLoop]
  · simp [isLoop, Ne.symm isLoop]

/-- In a written message the iteration stands under `loop`, and every field under its name. -/
theorem get?_written (parts : m.PartsReturn) (k : String) :
    m.written.get? k =
      if k = "loop" then m.iteration.map Iteration.toJson else m.data.get? k := by
  rw [get?_written_of_proper parts.proper]
  by_cases isLoop : k = "loop"
  · simp [isLoop, parts.free]
  · simp [isLoop]

theorem sorted_written (m : Message) : m.written.Sorted := by
  refine Table.sorted_extend ?_ m.data
  cases m.iteration with
  | none => exact Table.sorted_nil
  | some i => exact Table.sorted_insert Table.sorted_nil _ _

/-- The iteration after reading what stands under `loop`, if anything does. -/
def readLoop (o : Origin) (earlier : Option Iteration) (v : Option Json) :
    Except Definition.DecodeError (Option Iteration) :=
  v.elim (.ok earlier) fun v => iterationRecord.decoder.optional o (.ofJson v)

/-- Members that come once each are taken apart into the iteration and the data. -/
theorem visit_ofFields {t : Table Json} (distinct : t.keys.Nodup)
    (once : seen = true → "loop" ∉ t.keys)
    (values : ∀ e ∈ t, e.1 ≠ "loop" → e.2.Canonical) :
    visitMessage o seen m (Node.ofFields t) =
      (readLoop o m.iteration (t.get? "loop")).map fun i =>
        ⟨i, m.data.extend (t.filter fun e => e.1 ≠ "loop")⟩ := by
  induction t generalizing seen m with
  | nil => rfl
  | cons e t ih =>
      obtain ⟨k, v⟩ := e
      obtain ⟨first, rest⟩ := List.nodup_cons.mp distinct
      obtain ⟨value, values⟩ := List.forall_mem_cons.mp values
      rw [Node.ofFields, visitMessage, Table.get?_cons]
      by_cases isLoop : k = "loop"
      · have unseen : seen = false := by
          cases seen with
          | false => rfl
          | true => exact absurd (isLoop ▸ List.mem_cons_self) (once rfl)
        have last : "loop" ∉ Table.keys t := isLoop ▸ first
        rw [if_pos isLoop, if_pos isLoop, unseen, readLoop, Option.elim_some]
        cases iterationRecord.decoder.optional o (.ofJson v) with
        | error e => rfl
        | ok i =>
            refine (ih rest (fun _ => last) values).trans ?_
            rw [Table.get?_eq_none_iff.mpr last]
            simp [readLoop, isLoop, Except.map]
      · have read : Decoder.any o (.ofJson v) = .ok v := by
          rw [Decoder.any, Node.toJson_ofJson (value isLoop)]
        have once (isSeen : seen = true) : "loop" ∉ Table.keys t := fun later =>
          once isSeen (List.mem_cons_of_mem _ later)
        rw [if_neg isLoop, if_neg isLoop, read]
        refine Eq.trans (ih rest once values) ?_
        simp [isLoop]

/-- What is read back of a message: under `loop` an iteration, everything else as its data. -/
theorem read_written (proper : Json.Proper m.data) (o : Origin) :
    messageDecoder o (.ofJson m.toJson) =
      (readLoop o none (m.written.get? "loop")).map fun i =>
        ⟨i, m.data.filter fun e => e.1 ≠ "loop"⟩ := by
  have values : ∀ e ∈ m.written, e.1 ≠ "loop" → e.2.Canonical := fun e member isData => by
    have found := Table.get?_of_mem (Table.distinct_of_sorted m.sorted_written) member
    rw [get?_written_of_proper proper, if_neg isData, Option.or_none] at found
    exact proper.values e (Table.mem_of_get? found)
  have data : Table.ofList (m.written.filter fun e => e.1 ≠ "loop") =
      m.data.filter fun e => e.1 ≠ "loop" := by
    have sorted := List.Pairwise.filter (fun e => decide (e.1 ≠ "loop")) m.sorted_written
    rw [Table.ofList_of_sorted sorted]
    refine Table.ext_of_sorted sorted (List.Pairwise.filter _ proper.sorted) fun k => ?_
    rw [Table.get?_filter_ne, Table.get?_filter_ne, get?_written_of_proper proper]
    by_cases isLoop : k = "loop" <;> simp [isLoop]
  have once : false = true → "loop" ∉ m.written.keys := nofun
  have visited : visitMessage o false .empty (Node.ofFields m.written) =
      (readLoop o none (m.written.get? "loop")).map fun i =>
        ⟨i, m.data.filter fun e => e.1 ≠ "loop"⟩ := by
    rw [visit_ofFields (Table.distinct_of_sorted m.sorted_written) once values, ← data]
    rfl
  calc messageDecoder o (.obj (Node.ofFields m.written) none)
      = visitMessage o false .empty (Node.ofFields m.written) >>= Definition.finish none := rfl
    _ = visitMessage o false .empty (Node.ofFields m.written) := by
        cases visitMessage o false .empty (Node.ofFields m.written) <;> rfl
    _ = _ := visited

/-- Without a field `loop` nothing is taken out of the data. -/
theorem filter_of_free (free : m.data.get? "loop" = none) :
    (m.data.filter fun e => e.1 ≠ "loop") = m.data :=
  List.filter_eq_self.mpr fun _ member => decide_eq_true fun isLoop =>
    Table.get?_eq_none_iff.mp free (isLoop ▸ List.mem_map_of_mem member)

theorem returns (parts : m.PartsReturn) : messageDecoder.Returns m.toJson m where
  given := nofun
  read o := by
    have iteration : readLoop o none (m.iteration.map Iteration.toJson) = .ok m.iteration := by
      cases found : m.iteration with
      | none => rfl
      | some i => exact (Decoder.returns_optional (parts.iteration i found)).read o
    rw [read_written parts.proper, get?_written parts, if_pos rfl, iteration,
      filter_of_free parts.free]
    rfl

theorem keeps : messageDecoder.Keeps toJson := fun _ _ _ _ read =>
  returns (partsReturn_of_decoder read)

end Message

end ProcessStep
