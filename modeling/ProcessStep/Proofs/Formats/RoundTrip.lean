import ProcessStep.Execution.Snapshot
import ProcessStep.Proofs.Formats.Messages

/-!
Formats round trip. `Format` lists everything that is read out of data and written as data.
Whatever a format can read, from a value or from a text, it reads again from what it writes of
it, so that reading and writing brings data into a normal form.
-/

namespace ProcessStep

open Definition (Decoder DecodeError)
open Json (Node Source)

/-- What has a format of its own. -/
inductive Format where
  | process
  | activity
  | mapping
  | parameter
  | flow
  | form
  | field
  | message
  | iteration
  | config
  | failure
  | snapshot

namespace Format

def Carrier : Format → Type
  | .process => Definition.Process
  | .activity => Definition.Activity
  | .mapping => Definition.Mapping
  | .parameter => Definition.Parameter
  | .flow => Definition.Flow
  | .form => Definition.Form
  | .field => Definition.Field
  | .message => Message
  | .iteration => Iteration
  | .config => ExecutionConfig
  | .failure => Failure
  | .snapshot => Snapshot

def decoder : (f : Format) → Decoder f.Carrier
  | .process => Definition.processDecoder
  | .activity => Definition.Activity.record.decoder
  | .mapping => Definition.Mapping.record.decoder
  | .parameter => Definition.Parameter.record.decoder
  | .flow => Definition.Flow.record.decoder
  | .form => Definition.Form.record.decoder
  | .field => Definition.Field.record.decoder
  | .message => Definition.messageDecoder
  | .iteration => Definition.iterationRecord.decoder
  | .config => Definition.configRecord.decoder
  | .failure => Definition.failureRecord.decoder
  | .snapshot => Decoder.table

def write : (f : Format) → f.Carrier → Json
  | .process => Definition.Process.toJson
  | .activity => Definition.Activity.toJson
  | .mapping => Definition.Mapping.toJson
  | .parameter => Definition.Parameter.toJson
  | .flow => Definition.Flow.toJson
  | .form => Definition.Form.toJson
  | .field => Definition.Field.toJson
  | .message => Message.toJson
  | .iteration => Iteration.toJson
  | .config => ExecutionConfig.toJson
  | .failure => Failure.toJson
  | .snapshot => .obj

def normalize (f : Format) (source : Source) : Except DecodeError Json :=
  (f.decoder.decode source).map f.write

/-- The data of a message are apart from its iteration, and both are in what is written of it. -/
def TakesApart : (f : Format) → f.Carrier → Prop
  | .message, m =>
      m.data.get? "loop" = none ∧
        ∀ k, m.toJson.field? k =
          if k = "loop" then m.iteration.map Iteration.toJson else m.data.get? k
  | _, _ => True

theorem keeps_snapshot : Decoder.table.Keeps Json.obj := fun o n t _ read => by
  cases n with
  | obj members stop =>
      dsimp only [Decoder.table] at read
      split at read
      · next fields =>
          rw [Definition.eq_of_finish read]
          have proper := Node.proper_of_toFields .nil fields
          refine ⟨nofun, fun o => ?_⟩
          rw [Node.ofJson, Decoder.table, Node.toFields_of_proper proper]
          rfl
      · cases read
  | _ => cases read

/-- Every format writes what it read so that it is read back. -/
theorem keeps (f : Format) : f.decoder.Keeps f.write := by
  cases f with
  | process => exact Definition.Process.keeps
  | activity => exact Definition.Activity.keeps
  | mapping => exact Definition.Mapping.keeps
  | parameter => exact Definition.Parameter.keeps
  | flow => exact fun _ _ f _ _ => Definition.Flow.returns f
  | form => exact fun _ _ f _ _ => Definition.Form.returns f
  | field => exact fun _ _ f _ _ => Definition.Field.returns f
  | message => exact Message.keeps
  | iteration => exact Definition.keeps_iteration
  | config => exact fun _ _ c _ _ => Definition.returns_config c
  | failure => exact fun _ _ f _ _ => Definition.returns_failure f
  | snapshot => exact keeps_snapshot

/-- No format is read from null. -/
theorem refuses_null (f : Format) (o : Definition.Origin) (d : f.Carrier) :
    f.decoder o .null ≠ .ok d := by
  cases f <;> exact nofun

/-- What is read from a source was read from a node, whatever the source is. -/
theorem exists_of_decode {f : Format} {source : Source} {d : f.Carrier}
    (read : f.decoder.decode source = .ok d) : ∃ o n, f.decoder o n = .ok d := by
  cases source with
  | value v => exact ⟨_, _, read⟩
  | text root after =>
      obtain ⟨d', read, ends⟩ := exists_of_bind_eq_ok read
      cases Definition.eq_of_finish ends
      exact ⟨_, _, read⟩

/-- Reading a message tells its iteration and its data apart. -/
theorem takesApart {f : Format} {o : Definition.Origin} {n : Node} {d : f.Carrier}
    (read : f.decoder o n = .ok d) : f.TakesApart d := by
  cases f with
  | message =>
      have parts := Message.partsReturn_of_decoder read
      exact ⟨parts.free, Message.get?_written parts⟩
  | _ => trivial

/-- What was read is read again from what is written of it, and nothing changes any more. -/
theorem round_trip {f : Format} {source : Source} {d : f.Carrier}
    (read : f.decoder.decode source = .ok d) :
    f.decoder.decode (.value (f.write d)) = .ok d ∧
      f.normalize (.value (f.write d)) = .ok (f.write d) ∧ f.TakesApart d := by
  obtain ⟨o, n, read⟩ := exists_of_decode read
  have given : n ≠ .null := fun isNull => f.refuses_null o d (isNull ▸ read)
  have again : f.decoder.decode (.value (f.write d)) = .ok d := (f.keeps given read).read .value
  refine ⟨again, ?_, takesApart read⟩
  rw [normalize, again]
  rfl

/-- A message in which the fields of the iteration are given by their places, one of them as null,
and in which null is data. -/
theorem listed_message_round_trip :
    let source : Source := .value
      (.obj [("loop", .arr [.int 2, .null, .int 5]), ("note", .null)])
    let m : Message := ⟨some ⟨2, none, some 5, false⟩, [("note", .null)]⟩
    Format.message.decoder.decode source = .ok m ∧
      Format.message.decoder.decode (.value m.toJson) = .ok m ∧
      m.toJson.field? "loop" = some (.object
        [("index", .int 2), ("isSequential", .bool false), ("cardinality", .int 5)]) := by
  intro source m
  have read : Format.message.decoder.decode source = .ok m := rfl
  obtain ⟨again, _, _, fields⟩ := round_trip read
  exact ⟨read, again, (fields "loop").trans rfl⟩

end Format

end ProcessStep
