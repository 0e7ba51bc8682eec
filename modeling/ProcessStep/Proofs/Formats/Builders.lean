import ProcessStep.Proofs.Formats.RoundTrip
import ProcessStep.Resolution.Parameter

/-!
What builders make, read back from what is written of it. Builders can make what is never read
(`Lasts`): a literal or an item that is null, and data under `loop`. Null is written where a value
is optional and is taken for no value when it is read; data under `loop` are written in the place
of the iteration and are read as one. All else is read back as it was made (`reread_exactly`).
-/

namespace ProcessStep

open Definition (DecodeError Decoder Parameter iterationRecord iterationWithoutNull)

namespace Message

/-- What is read back of a message of canonical data. -/
def reread (m : Message) : Except DecodeError Message :=
  match m.data.get? "loop" with
  | none => .ok { m with iteration := m.iteration.map iterationWithoutNull }
  | some v =>
      (iterationRecord.decoder.optional .value (.ofJson v)).map fun i =>
        ⟨i, m.data.filter fun e => e.1 ≠ "loop"⟩

end Message

namespace Format

/-- What builders make of canonical data. A message takes any iteration. -/
inductive Built : (f : Format) → f.Carrier → Prop
  | named (name : String) : Built .parameter (Parameter.named name)
  | expression (name e : String) : Built .parameter (Parameter.ofExpression name e)
  | template (name t : String) : Built .parameter (Parameter.ofTemplate name t)
  | literal (name : String) {v : Json} (canonical : v.Canonical) :
      Built .parameter (Parameter.ofLiteral name v)
  | sequential (index : Nat) : Built .iteration (Iteration.sequential index)
  | parallel (index : Nat) : Built .iteration (Iteration.parallel index)
  | withItem {i : Iteration} (built : Built .iteration i) {v : Json} (canonical : v.Canonical) :
      Built .iteration (i.withItem v)
  | ofData {data : Table Json} (proper : Json.Proper data) : Built .message (Message.mk none data)
  | ofJson {v : Json} (canonical : v.Canonical) : Built .message (Message.ofJson v)
  | withIteration {m : Message} (built : Built .message m) {i : Iteration}
      (item : ∀ v, i.item = some v → v.Canonical) : Built .message (m.withIteration i)

def reread : (f : Format) → f.Carrier → Except DecodeError f.Carrier
  | .parameter, p => .ok p.withoutNull
  | .iteration, i => .ok (iterationWithoutNull i)
  | .message, m => m.reread
  | _, d => .ok d

/-- Nothing of it is lost when it is written and read back. -/
def Lasts : (f : Format) → f.Carrier → Prop
  | .parameter, p => p.literal ≠ some .null
  | .iteration, i => i.item ≠ some .null
  | .message, m => m.data.get? "loop" = none ∧ ∀ i, m.iteration = some i → i.item ≠ some .null
  | _, _ => True

/-- The second serves for the first: a parameter has the same values in the input and in the output,
a message the same data and the same iteration. -/
def SameUse : (f : Format) → f.Carrier → f.Carrier → Prop
  | .parameter, p, p' =>
      (∀ m s, p'.inputValue m s = p.inputValue m s) ∧
        ∀ result s, p'.outputValue result s = p.outputValue result s
  | .message, m, m' => m'.data = m.data ∧ m'.iteration = m.iteration
  | _, d, d' => d' = d

/-! ### What was built is canonical -/

def Canonical : (f : Format) → f.Carrier → Prop
  | .parameter, p => ∀ v, p.literal = some v → v.Canonical
  | .iteration, i => ∀ v, i.item = some v → v.Canonical
  | .message, m =>
      Json.Proper m.data ∧ ∀ i, m.iteration = some i → ∀ v, i.item = some v → v.Canonical
  | _, _ => True

/-- Canonical data make a message whose data are canonical. -/
theorem proper_ofJson {v : Json} (canonical : v.Canonical) : Json.Proper (Message.ofJson v).data := by
  cases canonical with
  | obj sorted values => exact ⟨sorted, values⟩
  | null => exact .nil
  | bool b => exact Json.Proper.nil.insert "value" (.bool b)
  | int n => exact Json.Proper.nil.insert "value" (.int n)
  | float x => exact Json.Proper.nil.insert "value" (.float x)
  | str s => exact Json.Proper.nil.insert "value" (.str s)
  | arr items => exact Json.Proper.nil.insert "value" (.arr items)

/-- All that builders make of canonical data is canonical. -/
theorem Built.canonical {f : Format} {d : f.Carrier} (built : f.Built d) : f.Canonical d := by
  induction built with
  | named _ => exact nofun
  | expression _ _ => exact nofun
  | template _ _ => exact nofun
  | literal _ canonical =>
      rintro _ ⟨⟩
      exact canonical
  | sequential _ => exact nofun
  | parallel _ => exact nofun
  | withItem _ canonical _ =>
      rintro _ ⟨⟩
      exact canonical
  | ofData proper => exact ⟨proper, nofun⟩
  | @ofJson v canonical =>
      refine ⟨proper_ofJson canonical, fun i found => ?_⟩
      rw [Message.iteration_ofJson] at found
      cases found
  | withIteration _ item ih =>
      refine ⟨ih.1, ?_⟩
      rintro _ ⟨⟩
      exact item

/-! ### What is read back -/

/-- Reading a written message back is `reread`: the fields and the round are told apart again. -/
theorem decode_message {m : Message} (canonical : Format.message.Canonical m) :
    Definition.messageDecoder.decode (.value m.toJson) = m.reread := by
  obtain ⟨proper, item⟩ := canonical
  refine (Message.read_written proper .value).trans ?_
  rw [Message.get?_written_of_proper proper, if_pos rfl, Message.reread]
  cases loop : m.data.get? "loop" with
  | some v => rfl
  | none =>
      rw [Option.none_or, Message.filter_of_free loop]
      cases found : m.iteration with
      | none => rfl
      | some i =>
          have again := Definition.returns_iteration_given (item i found)
          rw [Option.map_some, Message.readLoop, Option.elim_some,
            (Decoder.returns_optional again).read .value]
          rfl

/-- What is written of a built value is read back as `reread` says, or fails as it says. -/
theorem decode_write {f : Format} {d : f.Carrier} (built : f.Built d) :
    f.decoder.decode (.value (f.write d)) = f.reread d := by
  have canonical := built.canonical
  cases f with
  | parameter => exact (Parameter.returns_given canonical).read .value
  | iteration => exact (Definition.returns_iteration_given canonical).read .value
  | message => exact decode_message canonical
  | _ => cases built

/-! ### What lasts -/

/-- Without a field `loop` in the data a message is read back but for an item that is null. -/
theorem reread_message_of_free {m : Message} (free : m.data.get? "loop" = none) :
    m.reread = .ok { m with iteration := m.iteration.map iterationWithoutNull } := by
  rw [Message.reread, free]

/-- A field `loop` in the data does not come back as a field. -/
theorem reread_message_of_loop {m m' : Message} {v : Json} (loop : m.data.get? "loop" = some v)
    (again : m.reread = .ok m') : m'.data.get? "loop" = none := by
  have again : (iterationRecord.decoder.optional .value (.ofJson v)).map (fun i =>
      Message.mk i (m.data.filter fun e => e.1 ≠ "loop")) = .ok m' := by
    rwa [Message.reread, loop] at again
  cases read : iterationRecord.decoder.optional .value (.ofJson v) with
  | error e =>
      rw [read] at again
      cases again
  | ok i =>
      rw [read] at again
      cases again
      rw [Table.get?_filter_ne, if_pos rfl]

theorem map_withoutNull_eq_self_iff {i : Option Iteration} :
    i.map iterationWithoutNull = i ↔ ∀ j, i = some j → j.item ≠ some .null := by
  cases i with
  | none => simp
  | some i => simp [Definition.iterationWithoutNull_eq_self_iff]

theorem sameUse_refl (f : Format) (d : f.Carrier) : f.SameUse d d := by
  cases f with
  | parameter => exact ⟨fun _ _ => rfl, fun _ _ => rfl⟩
  | message => exact ⟨rfl, rfl⟩
  | _ => rfl

/-- A message that is read back serves for the first one exactly if nothing of it was lost. -/
theorem sameUse_message_iff {m m' : Message} (again : m.reread = .ok m') :
    Format.message.SameUse m m' ↔ Format.message.Lasts m := by
  cases loop : m.data.get? "loop" with
  | some v =>
      have gone := reread_message_of_loop loop again
      constructor
      · rintro ⟨data, _⟩
        rw [data, loop] at gone
        cases gone
      · rintro ⟨free, _⟩
        rw [free] at loop
        cases loop
  | none =>
      cases (reread_message_of_free loop).symm.trans again
      exact ⟨fun same => ⟨loop, map_withoutNull_eq_self_iff.mp same.2⟩,
        fun lasts => ⟨rfl, map_withoutNull_eq_self_iff.mpr lasts.2⟩⟩

theorem inputValue_of_found {name : String} {m : Message} {v : Json} (found : m.get? name = some v)
    (s : Scope) : (Parameter.named name).inputValue m s = .ok v := by
  have fallback : ((m.get? name).or (s.vars.get? name)).getD .null = v := by
    rw [found]
    rfl
  exact congrArg Except.ok fallback

/-- A literal null gives null everywhere, what is read back of it gives the field of its name. -/
theorem sameUse_parameter_iff {p : Parameter} (built : Format.parameter.Built p) :
    Format.parameter.SameUse p p.withoutNull ↔ p.literal ≠ some .null := by
  constructor
  · intro same isNull
    cases built with
    | literal name _ =>
        cases isNull
        let m : Message := ⟨none, [(name, .bool true)]⟩
        have found : m.get? name = some (.bool true) := if_pos rfl
        have value := inputValue_of_found found ⟨[], [], []⟩
        cases value.symm.trans (same.1 m ⟨[], [], []⟩)
    | _ => cases isNull
  · intro given
    rw [Definition.Parameter.withoutNull_eq_self_iff.mpr given]
    exact sameUse_refl .parameter p

/-- What is read back serves for what was written exactly if nothing of it was lost. -/
theorem sameUse_iff {f : Format} {d d' : f.Carrier} (built : f.Built d)
    (again : f.reread d = .ok d') : f.SameUse d d' ↔ f.Lasts d := by
  cases f with
  | parameter =>
      cases again
      exact sameUse_parameter_iff built
  | iteration =>
      cases again
      exact Definition.iterationWithoutNull_eq_self_iff
  | message => exact sameUse_message_iff again
  | _ => cases built

/-- If nothing is lost, the value is read back as it is. -/
theorem reread_of_lasts {f : Format} {d : f.Carrier} (lasts : f.Lasts d) : f.reread d = .ok d := by
  cases f with
  | parameter => exact congrArg Except.ok (Definition.Parameter.withoutNull_eq_self_iff.mpr lasts)
  | iteration => exact congrArg Except.ok (Definition.iterationWithoutNull_eq_self_iff.mpr lasts)
  | message =>
      obtain ⟨free, given⟩ := lasts
      refine (reread_message_of_free free).trans ?_
      rw [map_withoutNull_eq_self_iff.mpr given]
      rfl
  | _ => rfl

/-- What was built and written is read back without null where a value is optional, and with the
data under `loop` as the iteration. It is the same, and serves as the same, exactly if there is
neither in it. -/
theorem reread_exactly {f : Format} {d : f.Carrier} (built : f.Built d) :
    f.decoder.decode (.value (f.write d)) = f.reread d ∧
      (f.decoder.decode (.value (f.write d)) = .ok d ↔ f.Lasts d) ∧
      ∀ d', f.decoder.decode (.value (f.write d)) = .ok d' → (f.SameUse d d' ↔ f.Lasts d) := by
  rw [decode_write built]
  exact ⟨rfl, ⟨fun again => (sameUse_iff built again).mp (f.sameUse_refl d), reread_of_lasts⟩,
    fun _ => sameUse_iff built⟩

/-- A message of one order in the round of a loop for an article. -/
def ordered : Message :=
  (Message.ofJson (.obj [("orderId", .int 7)])).withIteration
    ((Iteration.sequential 2).withItem (.str "sku-3"))

/-- The round and its item are read back with the data. -/
theorem ordered_reread : Format.message.decoder.decode (.value ordered.toJson) = .ok ordered := by
  have canonical : (Json.obj [("orderId", .int 7)]).Canonical :=
    (Json.Proper.nil.insert "orderId" (.int 7)).canonical
  have item : ∀ v, ((Iteration.sequential 2).withItem (.str "sku-3")).item = some v → v.Canonical := by
    rintro _ ⟨⟩
    exact .str _
  have lasts : Format.message.Lasts ordered := by
    refine ⟨rfl, ?_⟩
    rintro _ ⟨⟩
    exact nofun
  exact (reread_exactly (.withIteration (.ofJson canonical) item)).2.1.mpr lasts

/-- A literal null is read back as a parameter that looks its name up in the order, and data under
`loop` as the iteration. -/
theorem null_and_loop_lost :
    let literal := Parameter.ofLiteral "orderId" .null
    let order := Message.ofJson (.obj [("orderId", .int 7)])
    let looped := Message.mk none [("loop", .obj [("index", .int 2)])]
    (Format.parameter.Built literal ∧
        Format.parameter.decoder.decode (.value literal.toJson) = .ok (Parameter.named "orderId") ∧
        literal.inputValue order ⟨[], [], []⟩ = .ok .null ∧
        (Parameter.named "orderId").inputValue order ⟨[], [], []⟩ = .ok (.int 7)) ∧
      Format.message.Built looped ∧
        Format.message.decoder.decode (.value looped.toJson) = .ok ⟨some (.parallel 2), []⟩ := by
  have round : (Json.obj [("index", .int 2)]).Canonical :=
    (Json.Proper.nil.insert "index" (.int 2)).canonical
  exact ⟨⟨.literal _ .null, rfl, rfl, rfl⟩, .ofData (Json.Proper.nil.insert "loop" round), rfl⟩

end Format

end ProcessStep
