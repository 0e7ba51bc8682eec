import ProcessStep.Proofs.Tables
import ProcessStep.Resolution.Parameter

/-!
What is found in scopes. Expressions find the variables and the services under their own names and
every other name among the extra keys (`Scope.get?_root`); the scope of an environment has there
what was written last, and under that the names of the iteration (`Environment.get?_extra_scope`).
`Scope.Shows` lists what is found under all names, and expressions, templates and parameters depend
on a scope by nothing else.
-/

namespace ProcessStep

open Definition (Parameter)
open Expression (Context Term Value)

namespace Scope

variable {s : Scope}

/-! ### Extra keys -/

/-- The last value written under a key counts, and the others stay as they were. -/
theorem get?_extra_extend (s : Scope) (es : List (String × Json)) {k : String}
    (free : isReserved k = false) :
    (s.extend es).extra.get? k = (Table.last? es k).or (s.extra.get? k) := by
  induction es generalizing s with
  | nil => rfl
  | cons e es ih =>
      rw [extend_cons, ih, Table.last?]
      cases reserved : isReserved e.1 with
      | true =>
          have differs : e.1 ≠ k := fun same => by simp [same, free] at reserved
          rw [put_of_reserved e.2 reserved, if_neg differs, Option.or_none]
      | false =>
          rw [extra_put e.2 reserved, Table.get?_insert]
          cases Table.last? es k with
          | some v => rfl
          | none => by_cases same : e.1 = k <;> simp [same]

theorem sorted_extend (sorted : s.extra.Sorted) (es : List (String × Json)) :
    (s.extend es).extra.Sorted := by
  induction es generalizing s with
  | nil => exact sorted
  | cons e es ih =>
      rw [extend_cons]
      refine ih ?_
      cases reserved : isReserved e.1 with
      | true => rwa [put_of_reserved e.2 reserved]
      | false =>
          rw [extra_put e.2 reserved]
          exact Table.sorted_insert sorted e.1 e.2

/-! ### Names -/

/-- The variables and the services go before every extra key. -/
theorem get?_root (s : Scope) (k : String) :
    (Context.ofScope s).root.get? k =
      if k = "variables" then some (.ofJson (.obj s.vars))
      else if k = "services" then some (Context.serviceMap s.services)
      else (s.extra.get? k).map .ofJson := by
  simp only [Context.ofScope, Table.get?_insert, Table.get?_map]
  by_cases isVariables : k = "variables"
  · subst isVariables
    rfl
  · simp only [isVariables, Ne.symm isVariables, if_false, eq_comm]

theorem sorted_root (sorted : s.extra.Sorted) : (Context.ofScope s).root.Sorted :=
  Table.sorted_insert (Table.sorted_insert (Table.sorted_map sorted Value.ofJson) _ _) _ _

/-- What expressions and templates find in the scope under the names, and which services they can
call. A name without a meaning is not in the scope. -/
structure Shows (s : Scope) (services : Services) (meaning : String → Option Value) : Prop where
  services : (Context.ofScope s).services = services
  sorted : (Context.ofScope s).root.Sorted
  root : ∀ k, (Context.ofScope s).root.get? k = meaning k

namespace Shows

variable {s' : Scope} {services : Services} {meaning : String → Option Value}

/-- A name means what the innermost frame of a template says, then what the scope says, and then
a built-in function. -/
theorem lookup?_eq (shows : s.Shows services meaning) (frames : List (Table Value)) (k : String) :
    { Context.ofScope s with frames }.lookup? k =
      ((frames.findSome? (Table.get? · k)).or (meaning k)).or (Context.builtin? k) := by
  simp only [Context.lookup?, shows.root]
  cases frames.findSome? (Table.get? · k) with
  | some v => rfl
  | none => cases meaning k <;> rfl

/-- The value of a name in an expression or a template; a name without a meaning is undefined. -/
theorem eval_name (shows : s.Shows services meaning) (frames : List (Table Value)) (k : String) :
    (Term.name k).eval { Context.ofScope s with frames } =
      .ok ((((frames.findSome? (Table.get? · k)).or (meaning k)).or
        (Context.builtin? k)).getD .undefined) := by
  rw [Term.eval, shows.lookup?_eq]

/-- A scope is known by what it shows: nothing else of it reaches the engine. -/
theorem context_eq (shows : s.Shows services meaning) (shows' : s'.Shows services meaning) :
    Context.ofScope s = Context.ofScope s' := by
  have root : (Context.ofScope s).root = (Context.ofScope s').root :=
    Table.ext_of_sorted shows.sorted shows'.sorted fun k =>
      (shows.root k).trans (shows'.root k).symm
  calc Context.ofScope s
      = ⟨[], (Context.ofScope s).root, (Context.ofScope s).services⟩ := rfl
    _ = ⟨[], (Context.ofScope s').root, (Context.ofScope s').services⟩ := by
        rw [root, shows.services, shows'.services]

/-- Expressions and templates depend on a scope only by the names in it. -/
theorem scope_resolve_eq (shows : s.Shows services meaning) (shows' : s'.Shows services meaning)
    (expression : String) : s.resolve expression = s'.resolve expression := by
  simp only [resolve, evaluate, shows.context_eq shows']

theorem scope_render_eq (shows : s.Shows services meaning) (shows' : s'.Shows services meaning)
    (template : String) : s.render template = s'.render template := by
  simp only [render, Template.render, shows.context_eq shows']

/-- Values of parameters depend on a scope only by the names in it. -/
theorem resolve_eq (shows : s.Shows services meaning) (shows' : s'.Shows services meaning)
    (p : Parameter) (fallback : Json) : p.resolve s fallback = p.resolve s' fallback := by
  simp only [Parameter.resolve, Parameter.resolveSource, shows.scope_resolve_eq shows',
    shows.scope_render_eq shows']

end Shows

/-- A scope with the fields of a value over its extra keys, and with the whole value under a name of
its own. -/
theorem shows_overlaid {es : Table Json} (extra : s.extra.Sorted)
    (fields : es.Sorted) (whole : String) (v : Json) :
    Shows { s.extend es with extra := (s.extend es).extra.insert whole v } s.services fun k =>
      if k = "variables" then some (.ofJson (.obj s.vars))
      else if k = "services" then some (Context.serviceMap s.services)
      else if k = whole then some (.ofJson v)
      else ((Table.get? es k).or (s.extra.get? k)).map .ofJson where
  services := s.services_extend es
  sorted := sorted_root (Table.sorted_insert (sorted_extend extra es) _ _)
  root k := by
    rw [get?_root, vars_extend, services_extend]
    refine ite_congr rfl (fun _ => rfl) fun notVariables =>
      ite_congr rfl (fun _ => rfl) fun notServices => ?_
    have free : isReserved k = false := by simp [isReserved, notVariables, notServices]
    rw [Table.get?_insert, get?_extra_extend _ _ free, Table.last?_of_sorted fields]
    by_cases isWhole : k = whole
    · rw [if_pos isWhole, if_pos isWhole.symm]
      rfl
    · rw [if_neg isWhole, if_neg (Ne.symm isWhole)]

end Scope

/-! ### The layers of an environment -/

namespace Environment

variable (env : Environment) (es : List (String × Json))

/-- What the iteration of an environment says of a name. -/
def iterationName (k : String) : Option Json :=
  env.iteration.bind fun i =>
    if k = "loop" then some i.toJson else if k = "item" then i.item else none

/-- The keys of an iteration are `loop`, and `item` if it is for one. -/
theorem last?_iterationKeys (k : String) :
    Table.last? (iterationKeys env.iteration) k = env.iterationName k := by
  rw [iterationName]
  cases env.iteration with
  | none => rfl
  | some i =>
      rw [iterationKeys, Table.last?, Option.bind_some]
      cases i.item with
      | none => simp [Table.last?, eq_comm]
      | some v =>
          by_cases isLoop : k = "loop"
          · subst isLoop
            rfl
          · simp [Table.last?, isLoop, eq_comm]

/-- Under the keys that are given stand the names of the iteration. -/
theorem get?_extra_scope {k : String} (free : Scope.isReserved k = false) :
    (env.scope es).extra.get? k = (Table.last? es k).or (env.iterationName k) := by
  rw [scope, Scope.get?_extra_extend _ _ free, Scope.get?_extra_extend _ _ free,
    last?_iterationKeys, Table.get?_nil, Option.or_none]

theorem sorted_scope : Table.Sorted (env.scope es).extra :=
  Scope.sorted_extend (Scope.sorted_extend Table.sorted_nil _) _

/-- Keys that are written last hide the names of the iteration. -/
theorem shows_scope :
    (env.scope es).Shows env.services fun k =>
      if k = "variables" then some (.ofJson (.obj env.vars))
      else if k = "services" then some (Context.serviceMap env.services)
      else ((Table.last? es k).or (env.iterationName k)).map .ofJson where
  services := env.services_scope es
  sorted := Scope.sorted_root (env.sorted_scope es)
  root k := by
    rw [Scope.get?_root, vars_scope, services_scope]
    refine ite_congr rfl (fun _ => rfl) fun notVariables =>
      ite_congr rfl (fun _ => rfl) fun notServices => ?_
    have free : Scope.isReserved k = false := by simp [Scope.isReserved, notVariables, notServices]
    rw [env.get?_extra_scope es free]

/-- An environment for a round of a loop: the variables and services of the process, with `loop`
and `item` from the iteration and from no other. -/
structure IsScopedTo (env' env : Environment) (i : Iteration) : Prop where
  vars : env'.vars = env.vars
  services : env'.services = env.services
  shows : ∀ es, (env'.scope es).Shows env.services fun k =>
    if k = "variables" then some (.ofJson (.obj env.vars))
    else if k = "services" then some (Context.serviceMap env.services)
    else ((Table.last? es k).or
      (if k = "loop" then some i.toJson else if k = "item" then i.item else none)).map .ofJson

theorem isScopedTo_forIteration (i : Iteration) : (env.forIteration i).IsScopedTo env i where
  vars := rfl
  services := rfl
  shows es := (env.forIteration i).shows_scope es

end Environment

end ProcessStep
