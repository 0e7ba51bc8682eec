import ProcessStep.Proofs.Naming

/-!
Where the value of an input parameter comes from. `Sourced` lists the sources in their order: an
expression, a template, a literal, the field of the message, the variable. Expressions and templates
see the names of `inputName`: the variables and services, the whole message, its fields, and the
extra keys of the scope. So fields of the message hide neither the variables nor the services nor
the message itself (`inputValue_by_source`).
-/

namespace ProcessStep.Definition.Parameter

open Expression (Context Term Value)

variable {p : Parameter} {m m' : Message} {s : Scope} {outcome inner : Except ResolutionError Json}

/-- What a name stands for in an input parameter. -/
def inputName (m : Message) (s : Scope) (k : String) : Option Value :=
  if k = "variables" then some (.ofJson (.obj s.vars))
  else if k = "services" then some (Context.serviceMap s.services)
  else if k = "message" then some (.ofJson (.obj m.data))
  else ((m.get? k).or (s.extra.get? k)).map .ofJson

/-- Neither an expression nor a template nor a literal is given. -/
structure IsBare (p : Parameter) : Prop where
  expression : p.expression = none
  template : p.template = none
  literal : p.literal = none

/-- What the first source that there is gives, for a message and a scope. -/
inductive Sourced (p : Parameter) (m : Message) (s : Scope) :
    Except ResolutionError Json → Prop where
  | expression {e : String} {seen : Scope} (given : p.expression = some e)
      (shows : seen.Shows s.services (inputName m s)) : Sourced p m s (seen.resolve e)
  | template {t : String} {seen : Scope} (unwritten : p.expression = none)
      (given : p.template = some t) (shows : seen.Shows s.services (inputName m s)) :
      Sourced p m s ((seen.render t).map .str)
  | literal {v : Json} (unwritten : p.expression = none) (unrendered : p.template = none)
      (given : p.literal = some v) : Sourced p m s (.ok v)
  /-- The field of the message, whatever its value and its name. -/
  | field {v : Json} (bare : p.IsBare) (found : m.get? p.name = some v) : Sourced p m s (.ok v)
  | processVariable {v : Json} (bare : p.IsBare) (absent : m.get? p.name = none)
      (found : s.vars.get? p.name = some v) : Sourced p m s (.ok v)
  | missing (bare : p.IsBare) (absent : m.get? p.name = none)
      (unknown : s.vars.get? p.name = none) : Sourced p m s (.ok .null)

/-! ### Names -/

/-- Input parameters see exactly the names that `inputName` gives a meaning. -/
theorem shows_inputScope (extra : s.extra.Sorted) (data : m.data.Sorted) :
    (inputScope m s).Shows s.services (inputName m s) :=
  Scope.shows_overlaid extra data "message" (.obj m.data)

/-- Messages with the same fields, but for the names that fields do not hide. -/
def SameOtherFields (m m' : Message) : Prop :=
  ∀ k, k ≠ "variables" → k ≠ "services" → k ≠ "message" → m'.get? k = m.get? k

/-- But for the message itself, names stand for the same if the other fields are the same. -/
theorem inputName_congr (same : SameOtherFields m m') (s : Scope) {k : String}
    (other : k ≠ "message") : inputName m' s k = inputName m s k := by
  unfold inputName
  refine ite_congr rfl (fun _ => rfl) fun notVariables => ite_congr rfl (fun _ => rfl)
    fun notServices => ?_
  rw [if_neg other, if_neg other, same k notVariables notServices other]

/-! ### Sources -/

theorem resolveSource_of_bare (bare : p.IsBare) (s : Scope) (fallback : Json) :
    p.resolveSource s fallback = .ok fallback := by
  rw [resolveSource, bare.expression, bare.template, bare.literal]

/-- Without a source there is always a value: the field, the variable, or null. -/
theorem sourced_of_bare (bare : p.IsBare) (m : Message) (s : Scope) :
    Sourced p m s (.ok (((m.get? p.name).or (s.vars.get? p.name)).getD .null)) := by
  cases found : m.get? p.name with
  | some v => exact .field bare found
  | none =>
      cases known : s.vars.get? p.name with
      | some v => exact .processVariable bare found known
      | none => exact .missing bare found known

/-- The sources are tried in the order of `Sourced`, and the first one decides. -/
theorem resolveSource_eq_iff (extra : s.extra.Sorted) (data : m.data.Sorted) :
    p.resolveSource (inputScope m s) (((m.get? p.name).or (s.vars.get? p.name)).getD .null) =
      inner ↔ Sourced p m s inner := by
  have shows := shows_inputScope extra data
  constructor
  · rintro rfl
    cases e : p.expression with
    | some expression =>
        rw [resolveSource_of_expression e]
        exact .expression e shows
    | none =>
        cases t : p.template with
        | some template =>
            rw [resolveSource, e, t]
            exact .template e t shows
        | none =>
            cases l : p.literal with
            | some v =>
                rw [resolveSource, e, t, l]
                exact .literal e t l
            | none =>
                have bare : p.IsBare := ⟨e, t, l⟩
                rw [resolveSource_of_bare bare]
                exact sourced_of_bare bare m s
  · intro sourced
    cases sourced with
    | expression given shows' =>
        rw [← shows.scope_resolve_eq shows', resolveSource_of_expression given]
    | template unwritten given shows' =>
        rw [← shows.scope_render_eq shows', resolveSource, unwritten, given]
    | literal unwritten unrendered given => rw [resolveSource, unwritten, unrendered, given]
    | field bare found =>
        rw [resolveSource_of_bare bare, found]
        rfl
    | processVariable bare absent found =>
        rw [resolveSource_of_bare bare, absent, found]
        rfl
    | missing bare absent unknown =>
        rw [resolveSource_of_bare bare, absent, unknown]
        rfl

/-- An input parameter has the value of its first source, and its error keeps the one of the source.
Expressions and templates see the variables, the services and the whole message under their names,
and the fields of the message over all other names, and a name evaluates to what it stands for;
messages that differ in fields of these three names only show the same but for the message itself.
-/
theorem inputValue_by_source (extra : s.extra.Sorted) (data : m.data.Sorted) :
    (∀ outcome, p.inputValue m s = outcome ↔
        ∃ inner, Sourced p m s inner ∧ outcome = inner.mapError (.parameter p.name)) ∧
      (inputScope m s).Shows s.services (inputName m s) ∧
      (∀ frames k, (Term.name k).eval { Context.ofScope (inputScope m s) with frames } =
        .ok ((((frames.findSome? (Table.get? · k)).or (inputName m s k)).or
          (Context.builtin? k)).getD .undefined)) ∧
      ∀ m', m'.data.Sorted → SameOtherFields m m' →
        (Context.ofScope (inputScope m' s)).services =
            (Context.ofScope (inputScope m s)).services ∧
          ∀ k, k ≠ "message" → (Context.ofScope (inputScope m' s)).root.get? k =
            (Context.ofScope (inputScope m s)).root.get? k := by
  have shows := shows_inputScope extra data
  refine ⟨fun outcome => ⟨?_, ?_⟩, shows, shows.eval_name, fun m' data' same => ?_⟩
  · rintro rfl
    exact ⟨_, (resolveSource_eq_iff extra data).mp rfl, rfl⟩
  · rintro ⟨inner, sourced, rfl⟩
    rw [inputValue, resolve, (resolveSource_eq_iff extra data).mpr sourced]
  · have shows' := shows_inputScope extra data'
    refine ⟨shows'.services.trans shows.services.symm, fun k other => ?_⟩
    rw [shows'.root, shows.root, inputName_congr same s other]

/-- A message with fields of names that stand for something else, and with a null. -/
def claiming : Message :=
  .ofJson (.obj [("loop", .str "own"), ("message", .int 1), ("rate", .null), ("services", .arr []),
    ("variables", .str "x")])

/-- The scope of a rate in the first round of a loop. -/
def rated : Scope :=
  ((Environment.ofVariables [("rate", .int 2)]).forIteration (.sequential 0)).scope []

/-- A field that is null goes before the variable, and one hides the round of the loop; fields of
reserved names are found, but hide neither the variables nor the message from expressions and
templates. Without these fields only the message is another. -/
theorem claiming_inputValue_by_source :
    (named "rate").inputValue claiming rated = .ok .null ∧
      (named "variables").inputValue claiming rated = .ok (.str "x") ∧
      (∃ v, Sourced (ofExpression "sum" "variables.rate + message.message") claiming rated (.ok v) ∧
        v.compact = "3") ∧
      (∃ v, Sourced
        (ofTemplate "line" "\x7b\x7b loop \x7d\x7d, \x7b\x7b message.variables \x7d\x7d")
        claiming rated (.ok v) ∧ v.compact = "\"own, x\"") ∧
      (Term.name "rate").eval (.ofScope (inputScope claiming rated)) = .ok (.ofJson .null) ∧
      ∀ k, k ≠ "message" →
        (Context.ofScope
          (inputScope (.ofJson (.obj [("loop", .str "own"), ("rate", .null)])) rated)).root.get? k =
          (Context.ofScope (inputScope claiming rated)).root.get? k := by
  have extra : rated.extra.Sorted := Environment.sorted_scope _ []
  have data : claiming.data.Sorted := by decide
  have source (p : Parameter) {text : String}
      (printed : (p.inputValue claiming rated).map Json.compact = .ok text) :
      ∃ v, Sourced p claiming rated (.ok v) ∧ v.compact = text := by
    obtain ⟨v, resolved, printed⟩ := Json.exists_of_printed printed
    obtain ⟨inner, sourced, same⟩ := ((inputValue_by_source extra data).1 _).mp resolved
    cases inner with
    | error x => cases same
    | ok w => cases same; exact ⟨v, sourced, printed⟩
  have rate := (inputValue_by_source (p := named "rate") extra data).1 (.ok .null)
  have reserved := (inputValue_by_source (p := named "variables") extra data).1 (.ok (.str "x"))
  obtain ⟨_, _, names, others⟩ := inputValue_by_source (p := named "rate") extra data
  refine ⟨rate.mpr ⟨_, .field ⟨rfl, rfl, rfl⟩ rfl, rfl⟩,
    reserved.mpr ⟨_, .field ⟨rfl, rfl, rfl⟩ rfl, rfl⟩, source _ (by decide +kernel),
    source _ (by decide +kernel), names [] "rate", (others _ (by decide) ?_).2⟩
  intro k notVariables notServices notMessage
  show Table.get? [("loop", Json.str "own"), ("rate", Json.null)] k =
    Table.get? [("loop", Json.str "own"), ("message", Json.int 1), ("rate", Json.null),
      ("services", Json.arr []), ("variables", Json.str "x")] k
  simp [Table.get?_cons, Ne.symm notVariables, Ne.symm notServices, Ne.symm notMessage]

end ProcessStep.Definition.Parameter
