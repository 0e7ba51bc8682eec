import ProcessStep.Proofs.Converting
import ProcessStep.Proofs.Scopes

/-!
The views of a scope. A scope is looked at in three ways: a name is looked up in it, it is written
down as data as a whole, and expressions find their names in it. `Scope.Views` says that they all
see the same; the services are the exception, of which data have the names and expressions what
can be called. `Scope.Write` is what can be done to the scope of an environment, and no sequence of
writes hides the variables or the services (`views_agree`).
-/

namespace ProcessStep

open Expression (Context Given Outcome Value)

namespace Expression.Value

/-- Texts are the same key only if they are the same text. -/
theorem order_text_eq_iff (s t : String) : (order (text s) (text t) == .eq) = true ↔ s = t := by
  have same : order (text s) (text t) = compare s t := by
    simp only [order, text, spreadBeside, spread, spreadOrder]
  rw [same, beq_iff_eq, Std.compare_eq_iff_eq]

end Expression.Value

namespace Expression.Context

/-- What a call of a service gives: its arguments reach it as data, and its answer is data. -/
def answer (name : String) (service : Service) (args : List Given) : Outcome Value :=
  match args.mapM (·.toValue.toJson?) with
  | none => .error .invalidOperation
  | some data =>
      match service data with
      | .ok v => .ok (.ofJson v)
      | .error text => .error (.serviceFailed name text)

/-- Among the services as a map each is found under its name. -/
theorem keyed?_serviceMap (names : List String) (name : String) :
    Value.keyed? (names.map fun n => (.text n, .service n)) (.text name) =
      if name ∈ names then some (.service name) else none := by
  induction names with
  | nil => rfl
  | cons n names ih =>
      rw [List.map_cons, Value.keyed?, ih]
      by_cases same : n = name
      · subst same
        simp [(Value.order_text_eq_iff n n).mpr rfl]
      · have differs : ¬(Value.order (.text n) (.text name) == .eq) = true := by
          rwa [Value.order_text_eq_iff]
        rw [if_neg differs]
        simp [Ne.symm same]

/-- Calling a method of the services calls the service of that name, if there is one. -/
theorem callMethod_serviceMap (c : Context) (name : String) (args : List Given) :
    c.callMethod (serviceMap c.services) name args =
      match Table.get? c.services name with
      | none => .error .unknownMethod
      | some service => answer name service args := by
  rw [serviceMap, callMethod, keyed?_serviceMap]
  cases found : Table.get? c.services name with
  | none =>
      have absent : name ∉ c.services.names := Table.get?_eq_none_iff.mp found
      rw [if_neg absent]
  | some service =>
      have listed : name ∈ c.services.names := List.mem_map_of_mem (Table.mem_of_get? found)
      rw [if_pos listed]
      show c.callService name args = answer name service args
      rw [callService, found]
      rfl

end Expression.Context

namespace Scope

/-! ### Three views -/

/-- All values in the scope are data. -/
structure Plain (s : Scope) : Prop where
  vars : (Json.obj s.vars).Plain
  extra : ∀ e ∈ s.extra, e.2.Plain

/-- A scope shows the same under every name, whoever looks. -/
structure Views (s : Scope) : Prop where
  /-- In the scope as data a name has the value that is found under it. -/
  data : ∀ k, s.toJson.field? k = s.get? k
  /-- In expressions it has that value, too. -/
  expressions : ∀ k, k ≠ "services" →
    ((Context.ofScope s).root.get? k).map Value.toJson? = (s.get? k).map some
  /-- Expressions find the services as a map under just the names that are found in the scope, and
  call them by these. -/
  services : ∃ names entries, s.get? "services" = some (.texts names) ∧
    (Context.ofScope s).root.get? "services" = some (.map entries) ∧
    entries.map (·.1) = names.map .text ∧
    (∀ name, name ∈ names ↔ ∃ service, Table.get? s.services name = some service) ∧
    ∀ name args, (Context.ofScope s).callMethod (.map entries) name args =
      match Table.get? s.services name with
      | none => .error .unknownMethod
      | some service => Context.answer name service args

/-- A scope written as data has under every key what looking it up gives. -/
theorem field?_toJson (s : Scope) (k : String) : s.toJson.field? k = s.get? k := by
  show Table.get? (Table.insert (Table.insert s.extra _ _) _ _) k = s.get? k
  rw [Table.get?_insert, Table.get?_insert, get?]
  by_cases isServices : "services" = k
  · subst isServices
    rfl
  · by_cases isVariables : "variables" = k
    · subst isVariables
      rfl
    · rw [if_neg isServices, if_neg isVariables, if_neg (Ne.symm isVariables),
        if_neg (Ne.symm isServices)]

/-- What the engine finds under a name is the same as data, but for the services. -/
theorem toJson?_root {s : Scope} (plain : s.Plain) {k : String} (other : k ≠ "services") :
    ((Context.ofScope s).root.get? k).map Value.toJson? = (s.get? k).map some := by
  rw [get?_root, get?]
  by_cases isVariables : k = "variables"
  · rw [if_pos isVariables, if_pos isVariables, Option.map_some, Option.map_some,
      Value.toJson?_ofJson plain.vars]
  · rw [if_neg isVariables, if_neg isVariables, if_neg other, if_neg other, Option.map_map]
    cases found : s.extra.get? k with
    | none => rfl
    | some v =>
        have plainValue : v.Plain := plain.extra (k, v) (Table.mem_of_get? found)
        simp [Value.toJson?_ofJson plainValue]

/-- The three ways to look at a scope of data agree. -/
theorem views_of_plain {s : Scope} (plain : s.Plain) : s.Views where
  data := field?_toJson s
  expressions _ other := toJson?_root plain other
  services := by
    refine ⟨s.services.names, s.services.names.map fun n => (.text n, .service n), rfl, ?_, ?_, ?_,
      fun name args => ?_⟩
    · rw [get?_root]
      rfl
    · rw [List.map_map]
      rfl
    · intro name
      constructor
      · intro listed
        exact Option.ne_none_iff_exists'.mp fun absent => Table.get?_eq_none_iff.mp absent listed
      · rintro ⟨service, found⟩
        exact List.mem_map_of_mem (Table.mem_of_get? found)
    · exact Context.callMethod_serviceMap (Context.ofScope s) name args

/-! ### Writing -/

inductive Write where
  | put (k : String) (v : Json)
  | extend (entries : Table Json)

namespace Write

def entries : Write → List (String × Json)
  | put k v => [(k, v)]
  | extend entries => entries

end Write

def write (s : Scope) : Write → Scope
  | .put k v => s.put k v
  | .extend entries => s.extend entries

def written (s : Scope) (ws : List Write) : Scope := ws.foldl write s

theorem extend_append (s : Scope) (es fs : List (String × Json)) :
    s.extend (es ++ fs) = (s.extend es).extend fs := by
  simp [extend, List.foldl_append]

/-- Writes come to writing all their entries. -/
theorem written_eq (s : Scope) (ws : List Write) :
    s.written ws = s.extend (ws.flatMap Write.entries) := by
  induction ws generalizing s with
  | nil => rfl
  | cons w ws ih =>
      rw [List.flatMap_cons, extend_append, ← ih]
      cases w <;> rfl

/-- No write puts anything under a reserved name. -/
theorem get?_extra_extend_of_reserved (s : Scope) (es : List (String × Json)) {k : String}
    (reserved : isReserved k = true) : (s.extend es).extra.get? k = s.extra.get? k := by
  induction es generalizing s with
  | nil => rfl
  | cons e es ih =>
      rw [extend_cons, ih]
      cases same : isReserved e.1 with
      | true => rw [put_of_reserved e.2 same]
      | false =>
          have differs : e.1 ≠ k := by
            rintro rfl
            rw [reserved] at same
            cases same
          rw [extra_put e.2 same, Table.get?_insert_of_ne _ _ differs]

end Scope

namespace Environment

/-- The scope of the environment, whatever is written to it, has its variables and services, no
extra key of their names, and under every other key the value that was given last: by a write, or
else as an extra key at the beginning, or else by the iteration. -/
structure Underlies (env : Environment) (extra : List (String × Json)) (ws : List Scope.Write)
    (s : Scope) : Prop where
  vars : s.vars = env.vars
  services : s.services = env.services
  reserved : ∀ k, Scope.isReserved k = true → s.extra.get? k = none
  free : ∀ k, Scope.isReserved k = false →
    s.extra.get? k =
      (Table.last? (ws.flatMap Scope.Write.entries) k).or
        ((Table.last? extra k).or (env.iterationName k))

/-- No write to the scope of an environment reaches its variables or services. -/
theorem underlies_written (env : Environment) (extra : List (String × Json))
    (ws : List Scope.Write) : env.Underlies extra ws ((env.scope extra).written ws) := by
  rw [Scope.written_eq]
  constructor
  · simp
  · simp
  · intro k reserved
    rw [Scope.get?_extra_extend_of_reserved _ _ reserved, scope,
      Scope.get?_extra_extend_of_reserved _ _ reserved,
      Scope.get?_extra_extend_of_reserved _ _ reserved, Table.get?_nil]
  · intro k free
    rw [Scope.get?_extra_extend _ _ free, get?_extra_scope _ _ free]

end Environment

namespace Scope

/-- All views of a scope agree, even if its extra keys have reserved names. In the scope of an
environment they never do, and nothing that is written to it hides its variables or services. -/
theorem views_agree :
    (∀ s : Scope, s.Plain → s.Views) ∧
      ∀ env extra ws, Environment.Underlies env extra ws ((env.scope extra).written ws) :=
  ⟨fun _ => views_of_plain, Environment.underlies_written⟩

/-- A scope whose extra keys were given the names of the variables and the services. -/
def masked : Scope where
  vars := [("total", .int 7)]
  services := [("echo", fun args => .ok (.arr args))]
  extra := [("note", .arr [.null, .obj [("to", .str "all")]]), ("services", .texts ["fake"]),
    ("variables", .null)]

theorem plain_masked : masked.Plain where
  vars := .obj (by decide) (List.forall_mem_singleton.mpr (.int (by decide) (by decide)))
  extra := by
    have inner : (Json.obj [("to", .str "all")]).Plain :=
      .obj (by decide) (List.forall_mem_singleton.mpr (.str "all"))
    intro e member
    simp only [masked, List.mem_cons, List.not_mem_nil, or_false] at member
    rcases member with rfl | rfl | rfl
    · exact .arr (List.forall_mem_cons.mpr ⟨.null, List.forall_mem_singleton.mpr inner⟩)
    · exact .arr (List.forall_mem_singleton.mpr (.str "fake"))
    · exact .null

/-- The extra keys of `masked` hide nothing, and in the first round of a loop neither does what is
written to its variables; the name of the loop itself can be given to something else. -/
theorem masked_views_agree :
    let rounds := (Environment.ofVariables [("total", .int 7)]).forIteration (.sequential 0)
    let s := (rounds.scope []).written [.put "variables" .null, .extend [("loop", .int 3)]]
    masked.Plain ∧
      masked.toJson.field? "variables" = some (.obj [("total", .int 7)]) ∧
      ((Context.ofScope masked).root.get? "note").map Value.toJson? =
        some (some (.arr [.null, .obj [("to", .str "all")]])) ∧
      s.vars = [("total", .int 7)] ∧ s.extra.get? "variables" = none ∧
      s.extra.get? "loop" = some (.int 3) := by
  intro rounds s
  obtain ⟨views, underlies⟩ := views_agree
  have agree := views masked plain_masked
  have under : rounds.Underlies [] _ s := underlies rounds [] _
  refine ⟨plain_masked, ?_, ?_, under.vars, under.reserved "variables" rfl, ?_⟩
  · rw [agree.data]
    rfl
  · rw [agree.expressions "note" (by decide)]
    rfl
  · rw [under.free "loop" rfl]
    rfl

end Scope

end ProcessStep
