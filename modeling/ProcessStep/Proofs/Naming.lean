import Mathlib.Control.Monad.Basic
import ProcessStep.Json.Printer
import ProcessStep.Proofs.Collecting
import ProcessStep.Proofs.Restoring
import ProcessStep.Proofs.Resuming
import ProcessStep.Proofs.Scopes
import ProcessStep.Proofs.Settling

/-!
What names stand for in output parameters. `Execution.outputName` says it layer by layer: the
variables and services, the result, the fields of the result, the input, the fields of the input,
the iteration. `output_eq_iff` says that the parameters of an output see exactly these names
(`Scope.Shows`), and what the output is made of.
-/

namespace ProcessStep

open Definition (Parameter)
open Expression (Context Term Value)

/-- What is found last among the fields of a value is its field. -/
theorem Json.last?_fields {v : Json} (sorted : Table.Sorted (v.fields?.getD [])) (k : String) :
    Table.last? (v.fields?.getD []) k = v.field? k := by
  rw [Table.last?_of_sorted sorted, field?]
  cases v.fields? <;> rfl

theorem Json.Canonical.sorted_fields {v : Json} (canonical : v.Canonical) :
    Table.Sorted (v.fields?.getD []) := by
  cases canonical with
  | obj sorted _ => exact sorted
  | _ => exact Table.sorted_nil

namespace Execution

variable {b : Behaviour} {m : Message} {env : Environment} {e : Execution} {v raw : Json}

/-! ### Input and output -/

/-- The fields of a resolved input are sorted, be it an object of parameters or the whole scope. -/
theorem sorted_inputOf (resolved : inputOf b m env = .ok v) :
    Table.Sorted (v.fields?.getD []) := by
  unfold inputOf resolveInput at resolved
  generalize (start b m env "").activity.inputParameters = ps at resolved
  cases ps with
  | nil =>
      cases resolved
      exact Table.sorted_insert (Table.sorted_insert (env.sorted_scope []) _ _) _ _
  | cons p ps =>
      dsimp only at resolved
      generalize collected : Parameter.collect _ [] (p :: ps) = outcome at resolved
      cases outcome with
      | error x => cases resolved
      | ok t =>
          cases resolved
          obtain ⟨_, collects⟩ := Parameter.collect_eq_iff.mp collected
          exact collects.sorted

/-- Whatever was done to an execution, it has the input of its activity, message and environment. -/
theorem input_of_reached {allowed : Operation → Prop} (reached : Reached allowed b m env e) :
    e.behaviour = b ∧ e.environment = env ∧ e.input.1 = inputOf b m env := by
  induction reached with
  | start token => exact ⟨rfl, rfl, (Intact.of_fresh (.start token)).input_fst⟩
  | withConfig c _ ih | triggeredBy f _ ih | withRootFlow root _ ih =>
      obtain ⟨behaviour, environment, input⟩ := ih
      refine ⟨behaviour, environment, ?_⟩
      rw [← input]
      exact input_congr rfl rfl
  | @perform e op _ _ ih =>
      obtain ⟨behaviour, environment, input⟩ := ih
      have same := SameSetup.effect op e
      exact ⟨same.behaviour.trans behaviour, same.environment.trans environment,
        same.input.trans input⟩

/-- What a name stands for in an output parameter, for an input and a result. -/
def outputName (env : Environment) (input raw : Json) (k : String) : Option Value :=
  if k = "variables" then some (.ofJson (.obj env.vars))
  else if k = "services" then some (Context.serviceMap env.services)
  else if k = "result" then some (.ofJson raw)
  else
    ((raw.field? k).or <|
      if k = "input" then some input
      else (input.field? k).or (env.iterationName k)).map .ofJson

/-- What the output is for an input and a result. -/
inductive Output (b : Behaviour) (env : Environment) (raw : Json) :
    Except ResolutionError Json → Except ResolutionError Json → Prop where
  /-- Without parameters it is the result, whether there is an input or not. -/
  | whole {input : Except ResolutionError Json} (none : b.activity.outputParameters = []) :
      Output b env raw input (.ok raw)
  | unresolved {x : ResolutionError} (declared : b.activity.outputParameters ≠ []) :
      Output b env raw (.error x) (.error x)
  /-- All parameters see the same names, and without a source the field of their name. -/
  | collected {input : Json} {s : Scope} {outcome : Except ResolutionError (Table Json)}
      (declared : b.activity.outputParameters ≠ [])
      (shows : s.Shows env.services (outputName env input raw))
      (collection : Parameter.Collection
        (fun p => p.resolve s ((raw.field? p.name).getD .null))
        b.activity.outputParameters outcome) :
      Output b env raw (.ok input) (outcome.map .obj)

/-- `Output` leaves no choice: for an input and a result there is one output. -/
theorem Output.unique {input outcome outcome' : Except ResolutionError Json}
    (output : Output b env raw input outcome) (output' : Output b env raw input outcome') :
    outcome = outcome' := by
  cases output with
  | whole none =>
      cases output' with
      | whole => rfl
      | unresolved declared | collected declared => exact absurd none declared
  | unresolved declared =>
      cases output' with
      | whole none => exact absurd none declared
      | unresolved => rfl
  | collected declared shows collection =>
      cases output' with
      | whole none => exact absurd none declared
      | collected _ shows' collection' =>
          simp only [shows.resolve_eq shows'] at collection
          rw [← Parameter.collect_eq_iff.mpr collection, ← Parameter.collect_eq_iff.mpr collection']

/-- Output parameters see exactly the names that `outputName` gives a meaning. -/
theorem shows_outputScope (environment : e.environment = env)
    (sortedInput : Table.Sorted (v.fields?.getD [])) (canonical : raw.Canonical) :
    (Parameter.outputScope raw (e.outputScope v)).Shows env.services (outputName env v raw) := by
  subst environment
  have extra : (e.outputScope v).extra =
      Table.insert (e.environment.scope (v.fields?.getD [])).extra "input" v :=
    Scope.extra_put v rfl
  have sorted : (e.outputScope v).extra.Sorted := by
    rw [extra]
    exact Table.sorted_insert (e.environment.sorted_scope _) _ _
  have vars : (e.outputScope v).vars = e.environment.vars := by simp [outputScope]
  have services : (e.outputScope v).services = e.environment.services := by simp [outputScope]
  have overlaid := Scope.shows_overlaid sorted canonical.sorted_fields "result" raw
  rw [vars, services] at overlaid
  refine ⟨overlaid.services, overlaid.sorted, fun k => (overlaid.root k).trans ?_⟩
  refine ite_congr rfl (fun _ => rfl) fun notVariables => ite_congr rfl (fun _ => rfl)
    fun notServices => ite_congr rfl (fun _ => rfl) fun _ => ?_
  -- The extra keys are those of the environment, under the fields of the input and the input.
  have free : Scope.isReserved k = false := by simp [Scope.isReserved, notVariables, notServices]
  rw [← Table.last?_of_sorted canonical.sorted_fields, Json.last?_fields canonical.sorted_fields,
    extra, Table.get?_insert, e.environment.get?_extra_scope _ free, Json.last?_fields sortedInput]
  simp only [eq_comm]

/-- The parameters of the output need the input, whatever their sources are. -/
theorem output_of_declared (declared : e.activity.outputParameters ≠ []) :
    e.output.1 = e.input.1 >>= fun v =>
      (Parameter.collect (·.outputValue (e.result.getD .null) (e.outputScope v)) []
        e.activity.outputParameters).map .obj := by
  have same (v : Json) : e.input.2.outputScope v = e.outputScope v := by
    rw [outputScope, environment_input, outputScope]
  simp only [← same]
  unfold output
  generalize e.activity.outputParameters = ps at declared
  cases ps with
  | nil => exact absurd rfl declared
  | cons p ps =>
      rcases e.input with ⟨_ | v, e'⟩ <;> rfl

/-- The output is what the input and the result make it, its parameters see the names that they
should, and nothing but these names decides their values. A name evaluates to what it stands for,
unless a template gives it another value, and else to a built-in function. -/
theorem output_eq_iff (reached : Reached (fun _ => True) b m env e)
    (canonical : (e.result.getD .null).Canonical) :
    (∀ outcome, e.output.1 = outcome ↔ Output b env (e.result.getD .null) e.input.1 outcome) ∧
      ∀ v, e.input.1 = .ok v →
        let s := Parameter.outputScope (e.result.getD .null) (e.outputScope v)
        let meaning := outputName env v (e.result.getD .null)
        s.Shows env.services meaning ∧
          ∀ frames k, (Term.name k).eval { Context.ofScope s with frames } =
            .ok ((((frames.findSome? (Table.get? · k)).or (meaning k)).or
              (Context.builtin? k)).getD .undefined) := by
  obtain ⟨rfl, environment, input⟩ := input_of_reached reached
  have shows {v : Json} (known : e.input.1 = .ok v) :=
    shows_outputScope environment (sorted_inputOf (input.symm.trans known)) canonical
  refine ⟨fun outcome => ?_, fun v known => ⟨shows known, (shows known).eval_name⟩⟩
  suffices output : Output e.behaviour env (e.result.getD .null) e.input.1 e.output.1 from
    ⟨fun same => same ▸ output, output.unique⟩
  by_cases declared : e.activity.outputParameters = []
  · have whole : e.output.1 = .ok (e.result.getD .null) := by
      rw [output, declared]
    rw [whole]
    exact .whole declared
  · rw [output_of_declared declared]
    cases known : e.input.1 with
    | error x => exact .unresolved declared
    | ok v => exact .collected declared (shows known) (Parameter.collect_eq_iff.mp rfl)

/-- Fields with the names of what lies under them. -/
def shadows : Json := .obj [("input", .bool true), ("loop", .int 3), ("variables", .null)]

/-- The first activity of `triage` with two declarations of one name, in the first round of a
loop, with `shadows` as its result. -/
def shadowed : Execution :=
  let outputs := [.named "loop", .named "input", .ofLiteral "loop" (.int 4),
    .ofExpression "sum" "loop + variables.total",
    .ofTemplate "line" "\x7b\x7b input \x7d\x7d, \x7b\x7b result.loop \x7d\x7d"]
  let environment := (Environment.ofVariables [("total", .int 7)]).forIteration (.sequential 0)
  let activity := { triageStep with mapping := some ⟨[], outputs⟩ }
  (start ⟨activity, none⟩ .empty environment "").after [.setResult shadows]

/-- The last declaration counts, and a field hides the input and the round of the loop from
expressions and templates, but no variables. -/
theorem shadowed_output_eq :
    (∃ v, Output shadowed.behaviour shadowed.environment shadows shadowed.input.1 (.ok v) ∧
      v.compact = "\x7b\"input\":true,\"line\":\"True, 3\",\"loop\":4,\"sum\":10\x7d") ∧
      ∀ v, shadowed.input.1 = .ok v →
        outputName shadowed.environment v shadows "variables" =
            some (.ofJson (.obj [("total", .int 7)])) ∧
          (Term.name "loop").eval
            (.ofScope (Parameter.outputScope shadows (shadowed.outputScope v))) =
              .ok (.ofJson (.int 3)) := by
  have reached : Reached (fun _ => True) shadowed.behaviour .empty shadowed.environment shadowed :=
    .perform (.start "") trivial
  have canonical : shadows.Canonical := by
    refine .obj (by decide) fun e member => ?_
    simp only [List.mem_cons, List.not_mem_nil, or_false] at member
    rcases member with rfl | rfl | rfl
    · exact .bool true
    · exact .int 3
    · exact .null
  obtain ⟨outcomes, names⟩ := output_eq_iff reached canonical
  obtain ⟨output, resolved, printed⟩ := Json.exists_of_printed
    (by decide +kernel : shadowed.output.1.map Json.compact = .ok
      "\x7b\"input\":true,\"line\":\"True, 3\",\"loop\":4,\"sum\":10\x7d")
  exact ⟨⟨output, (outcomes _).mp resolved, printed⟩,
    fun v known => ⟨rfl, (names v known).2 [] "loop"⟩⟩

end Execution

end ProcessStep
