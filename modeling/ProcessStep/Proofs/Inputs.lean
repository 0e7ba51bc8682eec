import ProcessStep.Proofs.Naming
import ProcessStep.Proofs.Reading

/-!
What the input of an execution is. `Execution.Input` says it parameter by parameter: each value is
what its parameter comes to by itself, for the message and the environment that the execution was
started with, and the first parameter that has none makes the input fail under its name. So the
order of parameters with distinct names does not matter (`Collects.of_perm`), and what an execution
did before does not matter either (`input_is_pointwise`).
-/

namespace ProcessStep

open Definition (Parameter)

namespace Definition.Parameter

variable {value : Parameter → Except ResolutionError Json} {ps ps' : List Parameter}
variable {p : Parameter} {t : Table Json} {m : Message} {s : Scope} {v : Json}

/-! ### Parameters with distinct names -/

theorem AllResolve.of_perm (perm : ps'.Perm ps) (all : AllResolve value ps) :
    AllResolve value ps' := fun p member => all p (perm.mem_iff.mp member)

/-- A parameter whose name comes once gives the value of its name. -/
theorem Collects.get?_of_mem (collects : Collects value ps t)
    (distinct : (ps.map (·.name)).Nodup) (member : p ∈ ps) :
    ∃ v, value p = .ok v ∧ t.get? p.name = some v := by
  obtain ⟨before, after, rfl⟩ := List.append_of_mem member
  rw [List.map_append, List.map_cons] at distinct
  have last := (List.nodup_cons.mp (List.nodup_append.mp distinct).2.1).1
  exact collects.last before p after rfl last

/-- With distinct names no value hides another, so the order does not matter. -/
theorem Collects.of_perm (perm : ps'.Perm ps) (distinct : (ps.map (·.name)).Nodup)
    (collects : Collects value ps t) : Collects value ps' t where
  sorted := collects.sorted
  names k := (collects.names k).trans (perm.map (·.name)).mem_iff.symm
  last before p after split _ := by
    have listed : p ∈ ps' := split ▸ List.mem_append_right before List.mem_cons_self
    exact collects.get?_of_mem distinct (perm.mem_iff.mp listed)

/-- The table of a single parameter. -/
theorem collects_singleton (resolved : value p = .ok v) :
    Collects value [p] [(p.name, v)] := by
  have all : AllResolve value [p] := List.forall_mem_singleton.mpr ⟨v, resolved⟩
  have entries : entries value [p] = [(p.name, v)] := entries_cons_of_ok resolved []
  have collects := collects_entries all
  rwa [entries] at collects

/-- The error of a parameter names it. -/
theorem exists_of_inputValue_eq_error {x : ResolutionError} (fails : p.inputValue m s = .error x) :
    ∃ cause, x = .parameter p.name cause := by
  unfold inputValue resolve at fails
  cases resolved : p.resolveSource (inputScope m s)
      (((m.get? p.name).or (s.vars.get? p.name)).getD .null) with
  | ok v =>
      rw [resolved] at fails
      cases fails
  | error cause =>
      rw [resolved] at fails
      cases fails
      exact ⟨cause, rfl⟩

end Definition.Parameter

namespace Execution

open Definition.Parameter (AllResolve Collects Collection)

variable {b : Behaviour} {m : Message} {env : Environment} {e : Execution}
variable {s : Scope} {ps ps' : List Parameter} {p : Parameter} {v : Json}

/-- What the input is for a message and a scope, by the parameters that are declared. -/
inductive Input (m : Message) (s : Scope) (ps : List Parameter) :
    Except ResolutionError Json → Prop where
  /-- Without parameters it is the whole scope. -/
  | whole (none : ps = []) : Input m s ps (.ok s.toJson)
  /-- All parameters have values by themselves. -/
  | complete {t : Table Json} (declared : ps ≠ []) (all : AllResolve (·.inputValue m s) ps)
      (collects : Collects (·.inputValue m s) ps t) : Input m s ps (.ok (.obj t))
  /-- The first parameter without a value gives the error. -/
  | failed {before after : List Parameter} {p : Parameter} {cause : ResolutionError}
      (split : ps = before ++ p :: after) (passed : AllResolve (·.inputValue m s) before)
      (fails : p.inputValue m s = .error (.parameter p.name cause)) :
      Input m s ps (.error (.parameter p.name cause))

/-- With declared parameters the input is the object of their values, or the error of one. -/
theorem input_of_collection {outcome : Except ResolutionError (Table Json)} (declared : ps ≠ [])
    (collection : Collection (·.inputValue m s) ps outcome) :
    Input m s ps (outcome.map .obj) := by
  cases collection with
  | complete all collects => exact .complete declared all collects
  | failed split passed fails =>
      obtain ⟨cause, rfl⟩ := Parameter.exists_of_inputValue_eq_error fails
      exact .failed split passed fails

theorem resolveInput_of_declared (declared : e.activity.inputParameters ≠ []) :
    e.resolveInput = (Parameter.collect (·.inputValue e.message (e.environment.scope [])) []
      e.activity.inputParameters).map .obj := by
  unfold resolveInput
  generalize e.activity.inputParameters = ps at declared
  cases ps with
  | nil => exact absurd rfl declared
  | cons p ps => rfl

/-- Resolving the input comes to what `Input` says, and to nothing else. -/
theorem resolveInput_eq_iff (e : Execution) (outcome : Except ResolutionError Json) :
    e.resolveInput = outcome ↔
      Input e.message (e.environment.scope []) e.activity.inputParameters outcome := by
  by_cases none : e.activity.inputParameters = []
  · have whole : e.resolveInput = .ok (e.environment.scope []).toJson := by
      rw [resolveInput, none]
    rw [whole]
    constructor
    · rintro rfl
      exact .whole none
    · rintro (_ | ⟨declared, _, _⟩ | ⟨split, _, _⟩)
      · rfl
      · exact absurd none declared
      · simp [none] at split
  · rw [resolveInput_of_declared none]
    constructor
    · rintro rfl
      exact input_of_collection none (Parameter.collect_eq_iff.mp rfl)
    · rintro (isEmpty | ⟨_, all, collects⟩ | ⟨split, passed, fails⟩)
      · exact absurd isEmpty none
      · rw [Parameter.collect_eq_iff.mpr (.complete all collects)]
        rfl
      · rw [Parameter.collect_eq_iff.mpr (.failed split passed fails)]
        rfl

/-! ### Inputs of different activities -/

/-- The order of parameters with distinct names does not matter. -/
theorem Input.of_perm (perm : ps'.Perm ps) (distinct : (ps.map (·.name)).Nodup)
    (input : Input m s ps (.ok v)) : Input m s ps' (.ok v) := by
  cases input with
  | whole none =>
      subst none
      exact .whole perm.eq_nil
  | complete declared all collects =>
      have declared' : ps' ≠ [] := fun none => declared (none ▸ perm).nil_eq.symm
      exact .complete declared' (all.of_perm perm) (collects.of_perm perm distinct)

/-- The last parameter of a name has by itself the value that it has among the others. -/
theorem Input.alone {before after : List Parameter}
    (input : Input m s (before ++ p :: after) (.ok v)) (last : p.name ∉ after.map (·.name)) :
    ∃ w, v.field? p.name = some w ∧ Input m s [p] (.ok (.obj [(p.name, w)])) := by
  generalize split : before ++ p :: after = ps at input
  cases input with
  | whole none => simp [none] at split
  | complete _ all collects =>
      obtain ⟨w, resolved, found⟩ := collects.last before p after split.symm last
      exact ⟨w, found, .complete (List.cons_ne_nil _ _)
        (List.forall_mem_singleton.mpr ⟨w, resolved⟩) (Parameter.collects_singleton resolved)⟩

/-- No operation changes the message. -/
theorem message_of_reached {allowed : Operation → Prop} (reached : Reached allowed b m env e) :
    e.message = m := by
  induction reached with
  | start token => rfl
  | withConfig _ _ ih | triggeredBy _ _ ih | withRootFlow _ _ ih => exact ih
  | @perform e op _ _ ih => exact (SameSetup.effect op e).message.trans ih

/-- Whatever was done before, the input is that of the message and the environment. -/
theorem input_eq_iff {allowed : Operation → Prop} (reached : Reached allowed b m env e)
    (outcome : Except ResolutionError Json) :
    e.input.1 = outcome ↔ Input m (env.scope []) b.activity.inputParameters outcome := by
  rw [(input_of_reached reached).2.2]
  exact resolveInput_eq_iff (start b m env "") outcome

/-- A failure to resolve the input is not kept. -/
theorem knownInput_of_error {x : ResolutionError} (fails : e.input.1 = .error x) :
    e.knownInput = none := by
  cases known : e.knownInput with
  | none => rfl
  | some v =>
      rw [input_of_known known] at fails
      cases fails

/-- Whatever was done to an execution, its input is what its parameters come to one by one. A
failure is not kept, and neither the message nor the environment changes. Executions of other
activities for the same message and environment agree: one that declares the parameters in another
order, with distinct names, has the same input, and one that declares a single parameter has the
value of its name. -/
theorem input_is_pointwise (reached : Reached (fun _ => True) b m env e) :
    (∀ outcome, e.input.1 = outcome ↔ Input m (env.scope []) b.activity.inputParameters outcome) ∧
      (∀ x, e.input.1 = .error x → e.knownInput = none ∧ e.input.2 = e) ∧
      e.input.2.message = m ∧ e.input.2.environment = env ∧
      ∀ b' e', Reached (fun _ => True) b' m env e' →
        (b'.activity.inputParameters.Perm b.activity.inputParameters →
          (b.activity.inputParameters.map (·.name)).Nodup →
          ∀ v, e'.input.1 = .ok v ↔ e.input.1 = .ok v) ∧
        ∀ before p after, b.activity.inputParameters = before ++ p :: after →
          p.name ∉ after.map (·.name) → b'.activity.inputParameters = [p] →
          ∀ v, e.input.1 = .ok v →
            ∃ w, v.field? p.name = some w ∧ e'.input.1 = .ok (.obj [(p.name, w)]) := by
  have setup := SameSetup.of_recalls (Recalls.refl (e := e)).input
  refine ⟨input_eq_iff reached, fun x fails => ⟨knownInput_of_error fails, input_snd_of_error fails⟩,
    setup.message.trans (message_of_reached reached),
    setup.environment.trans (input_of_reached reached).2.1, fun b' e' reached' => ⟨?_, ?_⟩⟩
  · intro perm distinct v
    have distinct' := (perm.map (·.name)).nodup_iff.mpr distinct
    rw [input_eq_iff reached, input_eq_iff reached']
    exact ⟨.of_perm perm.symm distinct', .of_perm perm distinct⟩
  · intro before p after split last single v resolved
    rw [input_eq_iff reached, split] at resolved
    obtain ⟨w, found, alone⟩ := resolved.alone last
    refine ⟨w, found, ?_⟩
    rw [input_eq_iff reached', single]
    exact alone

/-- The first activity of `triage` with declared parameters, for a message with a total, in the
first round of a loop. -/
def declaring (ps : List Parameter) : Execution :=
  start ⟨{ triageStep with mapping := some ⟨ps, []⟩ }, none⟩ (.ofJson (.obj [("total", .int 7)]))
    ((Environment.ofVariables [("total", .int 5), ("rate", .int 2)]).forIteration (.sequential 0)) ""

/-- A field of the message hides the variable of its name, an expression and a template still find
the variable and the message, and the parameters may change places. -/
theorem declaring_input_is_pointwise :
    let sum : Parameter := .ofExpression "sum" "total + variables.total"
    let line : Parameter :=
      .ofTemplate "line" "\x7b\x7b total \x7d\x7d, \x7b\x7b loop.index \x7d\x7d"
    let ps := [.named "total", line, sum, .ofLiteral "note" .null]
    ∃ v, (declaring ps).input.1 = .ok v ∧ (declaring ps.reverse).input.1 = .ok v ∧
      v.compact = "\x7b\"line\":\"7, 0\",\"note\":null,\"sum\":12,\"total\":7\x7d" ∧
      ∃ w, v.field? "sum" = some w ∧ (declaring [sum]).input.1 = .ok (.obj [("sum", w)]) := by
  intro sum line ps
  have reached (ps : List Parameter) : Reached (fun _ => True) (declaring ps).behaviour
      (declaring []).message (declaring []).environment (declaring ps) := .start ""
  obtain ⟨_, _, _, _, others⟩ := input_is_pointwise (reached ps)
  obtain ⟨v, resolved, printed⟩ := Json.exists_of_printed
    (by decide +kernel : (declaring ps).input.1.map Json.compact = .ok
      "\x7b\"line\":\"7, 0\",\"note\":null,\"sum\":12,\"total\":7\x7d")
  have distinct : (ps.map (·.name)).Nodup := by decide
  refine ⟨v, resolved, ?_, printed, ?_⟩
  · exact ((others _ _ (reached ps.reverse)).1 ps.reverse_perm distinct v).mpr resolved
  · exact (others _ _ (reached [sum])).2 (ps.take 2) sum [.ofLiteral "note" .null] rfl (by decide)
      rfl v resolved

end Execution

end ProcessStep
