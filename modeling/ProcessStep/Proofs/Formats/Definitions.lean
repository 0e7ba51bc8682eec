import ProcessStep.Definition.Reading
import ProcessStep.Definition.Writing
import ProcessStep.Proofs.Formats.Records

/-!
The formats of definitions. Each record is read back from what is written of it, provided that
its parts are (`returns`), and the parts of a record that was read are such (`keeps`).
-/

namespace ProcessStep

open Json (Node)

namespace Definition

open Decoder

theorem read_text (o : Origin) (s : String) : text o (.str s) = .ok s :=
  (returns_text s).read o

theorem read_optional_text (o : Origin) (s : String) :
    optional text o (.str s) = .ok (some s) :=
  (returns_optional (returns_text s)).read o

/-! ### Null where a value is optional -/

/-- An optional value as it is read back: null counts as absence. -/
def given? : Option Json → Option Json
  | some .null => none
  | v => v

/-- Only a null is lost as an optional value. -/
theorem given?_eq_self_iff {v : Option Json} : given? v = v ↔ v ≠ some .null := by
  constructor
  · rintro same rfl
    cases same
  · intro given
    rw [given?]
    exact given

def Parameter.withoutNull (p : Parameter) : Parameter :=
  { p with literal := given? p.literal }

theorem Parameter.withoutNull_eq_self_iff {p : Parameter} :
    p.withoutNull = p ↔ p.literal ≠ some .null := by
  rw [← given?_eq_self_iff]
  exact ⟨fun same => congrArg literal same, fun same => congrArg (Parameter.mk _ _ _) same⟩

def iterationWithoutNull (i : Iteration) : Iteration :=
  { i with item := given? i.item }

theorem iterationWithoutNull_eq_self_iff {i : Iteration} :
    iterationWithoutNull i = i ↔ i.item ≠ some .null := by
  rw [← given?_eq_self_iff]
  refine ⟨fun same => congrArg Iteration.item same, fun same => ?_⟩
  rw [iterationWithoutNull, same]

/-- An optional value is read back, but a null as absence. -/
theorem read_given {v : Json} (canonical : v.Canonical) (o : Origin) :
    optional any o (.ofJson v) = .ok (given? (some v)) := by
  by_cases isNull : v = .null
  · subst isNull
    rfl
  · rw [given?_eq_self_iff.mpr (by simpa using isNull)]
    exact (returns_optional (returns_any isNull canonical)).read o

/-! ### Parts that are returned -/

/-- The literal of a parameter is read back from what is written of it. -/
def Parameter.PartsReturn (p : Parameter) : Prop :=
  ∀ v, p.literal = some v → any.Returns v v

structure Mapping.PartsReturn (m : Mapping) : Prop where
  input : ∀ p ∈ m.input, Parameter.record.decoder.Returns p.toJson p
  output : ∀ p ∈ m.output, Parameter.record.decoder.Returns p.toJson p

def Activity.PartsReturn (a : Activity) : Prop :=
  ∀ m, a.mapping = some m → Mapping.record.decoder.Returns m.toJson m

def Process.PartsReturn (p : Process) : Prop :=
  ∀ a ∈ p.activities, Activity.record.decoder.Returns a.toJson a

/-- The item of a round of a loop is read back from what is written of it. -/
def ItemReturns (i : Iteration) : Prop :=
  ∀ v, i.item = some v → any.Returns v v

/-- What is read back as any value has its objects sorted. -/
theorem canonical_of_returns {v : Json} (returns : any.Returns v v) : v.Canonical :=
  Node.canonical_of_toJson (toJson_of_any (returns.read .value))

/-! ### What is written -/

section Writing

-- A written table is worked out one field at a time. The order of the field names is left to the
-- dischargers, which decide it.

attribute [local simp] Table.insertSome Table.ofList Table.extend Table.insert_nil
  Table.insert_of_lt Table.insert_of_gt Table.keys
  Record.assigned Node.ofJson read_text read_optional_text bind Except.bind

namespace Parameter

/-- A parameter is read back but for a literal null. -/
theorem returns_given {p : Parameter} (literal : ∀ v, p.literal = some v → v.Canonical) :
    record.decoder.Returns p.toJson p.withoutNull := by
  obtain ⟨name, expression, template, literal?⟩ := p
  have readLiteral {v} (found : literal? = some v) := read_given (literal v found)
  cases expression <;> cases template <;> cases literal? <;> apply Record.Writes.returns <;>
    constructor <;> simp (disch := first | rfl | decide) [record, named, readLiteral, withoutNull,
      given?]

theorem returns {p : Parameter} (literal : p.PartsReturn) :
    record.decoder.Returns p.toJson p := by
  have again := returns_given fun v found => canonical_of_returns (literal v found)
  rwa [withoutNull_eq_self_iff.mpr fun isNull => (literal .null isNull).given rfl] at again

end Parameter

namespace Mapping

theorem returns {m : Mapping} (parts : m.PartsReturn) : record.decoder.Returns m.toJson m := by
  have input := (returns_list parts.input).read
  have output := (returns_list parts.output).read
  simp only [Node.ofJson] at input output
  apply Record.Writes.returns
  constructor <;> simp (disch := decide) [record, empty, input, output]

end Mapping

namespace Field

theorem returns (f : Field) : record.decoder.Returns f.toJson f := by
  obtain ⟨id, label, type, default?⟩ := f
  cases label <;> cases default? <;> apply Record.Writes.returns <;>
    constructor <;> simp (disch := decide) [record, ofId]

end Field

namespace Form

theorem returns (f : Form) : record.decoder.Returns f.toJson f := by
  obtain ⟨key, fields⟩ := f
  have fields := (returns_list fun f (_ : f ∈ fields) => Field.returns f).read
  simp only [Node.ofJson] at fields
  cases key <;> apply Record.Writes.returns <;>
    constructor <;> simp (disch := decide) [record, fields]

end Form

namespace Activity

theorem returns {a : Activity} (mapping : a.PartsReturn) :
    record.decoder.Returns a.toJson a := by
  obtain ⟨id, type, name, mapping?, form?⟩ := a
  have readMapping {m} (found : mapping? = some m) := (returns_optional (mapping m found)).read
  have readForm (f : Form) := (returns_optional (Form.returns f)).read
  cases name <;> cases mapping? <;> cases form? <;> apply Record.Writes.returns <;>
    constructor <;> simp (disch := first | rfl | decide) [record, ofType, readMapping, readForm]

end Activity

namespace Flow

theorem returns (f : Flow) : record.decoder.Returns f.toJson f := by
  obtain ⟨id, source, target, isDefault, condition⟩ := f
  have isDefault := (returns_truth isDefault).read
  simp only [Node.ofJson] at isDefault
  cases condition <;> apply Record.Writes.returns <;>
    constructor <;> simp (disch := decide) [record, between, isDefault]

end Flow

namespace Process

theorem returns {p : Process} (activities : p.PartsReturn) :
    record.decoder.Returns p.toJson p := by
  have activities := (returns_list activities).read
  have flows := (returns_list fun f (_ : f ∈ p.flows) => Flow.returns f).read
  simp only [Node.ofJson] at activities flows
  apply Record.Writes.returns
  constructor <;> simp (disch := decide) [record, activities, flows]

end Process

/-- An iteration is read back but for an item that is null. -/
theorem returns_iteration_given {i : Iteration} (item : ∀ v, i.item = some v → v.Canonical) :
    iterationRecord.decoder.Returns i.toJson (iterationWithoutNull i) := by
  obtain ⟨index, item?, cardinality, isSequential⟩ := i
  have readItem {v} (found : item? = some v) := read_given (item v found)
  have natural (n : Nat) := (returns_natural n).read
  have count (n : Nat) := (returns_optional (returns_natural n)).read
  have truth := (returns_truth isSequential).read
  simp only [Node.ofJson] at natural count truth
  cases item? <;> cases cardinality <;> apply Record.Writes.returns <;>
    constructor <;> simp (disch := first | rfl | decide) [iterationRecord, Iteration.parallel,
      readItem, natural, count, truth, iterationWithoutNull, given?]

/-- A round of a loop is read back if its item is. -/
theorem returns_iteration {i : Iteration} (item : ItemReturns i) :
    iterationRecord.decoder.Returns i.toJson i := by
  have again := returns_iteration_given fun v found => canonical_of_returns (item v found)
  rwa [iterationWithoutNull_eq_self_iff.mpr fun isNull => (item .null isNull).given rfl] at again

theorem returns_failure (f : Failure) : failureRecord.decoder.Returns f.toJson f := by
  obtain ⟨message, code⟩ := f
  cases code <;> apply Record.Writes.returns <;>
    constructor <;> simp (disch := decide) [failureRecord]

/-- The policy is written by its name, which is read back. -/
theorem returns_config (c : ExecutionConfig) : configRecord.decoder.Returns c.toJson c := by
  obtain ⟨policy⟩ := c
  cases policy <;> apply Record.Writes.returns <;>
    constructor <;> simp [configRecord, RestorePolicy.name, policyDecoder, policyNamed,
      policyOfName?]

end Writing

/-! ### What is read -/

/-- A parameter that was read is written so that it is read back. -/
theorem Parameter.keeps : record.decoder.Keeps toJson := fun _ _ _ _ read => by
  have blank : PartsReturn (named "") := nofun
  refine returns (Record.holds_of_decoder (P := PartsReturn) (fun holds assigned => ?_) blank read)
  dsimp only [record] at assigned
  split at assigned <;> obtain ⟨_, read, same⟩ := exists_of_bind_eq_ok assigned <;> cases same
  · exact holds
  · exact holds
  · exact holds
  · exact keeps_any.optional read

theorem Mapping.keeps : record.decoder.Keeps toJson := fun _ _ _ _ read => by
  have blank : PartsReturn empty := ⟨List.forall_mem_nil _, List.forall_mem_nil _⟩
  refine returns (Record.holds_of_decoder (P := PartsReturn) (fun holds assigned => ?_) blank read)
  dsimp only [record] at assigned
  split at assigned <;> obtain ⟨_, read, same⟩ := exists_of_bind_eq_ok assigned <;> cases same
  · exact { holds with input := Parameter.keeps.list Record.refuses_null read }
  · exact { holds with output := Parameter.keeps.list Record.refuses_null read }

theorem Activity.keeps : record.decoder.Keeps toJson := fun _ _ _ _ read => by
  have blank : PartsReturn (ofType "" "") := nofun
  refine returns (Record.holds_of_decoder (P := PartsReturn) (fun holds assigned => ?_) blank read)
  dsimp only [record] at assigned
  split at assigned <;> obtain ⟨_, read, same⟩ := exists_of_bind_eq_ok assigned <;> cases same
  · exact holds
  · exact holds
  · exact holds
  · exact Mapping.keeps.optional read
  · exact holds

/-- A process that was read is written so that it is read back, with all its parts. -/
theorem Process.keeps : record.decoder.Keeps toJson := fun _ _ _ _ read => by
  have blank : PartsReturn ⟨"", "", [], []⟩ := List.forall_mem_nil _
  refine returns (Record.holds_of_decoder (P := PartsReturn) (fun holds assigned => ?_) blank read)
  dsimp only [record] at assigned
  split at assigned <;> obtain ⟨_, read, same⟩ := exists_of_bind_eq_ok assigned <;> cases same
  · exact holds
  · exact holds
  · exact Activity.keeps.list Record.refuses_null read
  · exact holds

theorem keeps_iteration : iterationRecord.decoder.Keeps Iteration.toJson := fun _ _ _ _ read => by
  have blank : ItemReturns (.parallel 0) := nofun
  refine returns_iteration (Record.holds_of_decoder (P := ItemReturns) (fun holds assigned => ?_)
    blank read)
  dsimp only [iterationRecord] at assigned
  split at assigned <;> obtain ⟨_, read, same⟩ := exists_of_bind_eq_ok assigned <;> cases same
  · exact holds
  · exact keeps_any.optional read
  · exact holds
  · exact holds

end Definition

end ProcessStep
