import ProcessStep.Proofs.Forms.Defaults

/-!
Forms under editing. `Form.Edit` is all that can be done to a form, and `Form.log` lists the values
that fields took on the way. Whatever is done, a form shows the fields of its definition, a field
has the last value that was taken for its id, and of several fields with one id only the first ever
has one (`edited_form_stores`). So a snapshot fills the form in again.
-/

namespace ProcessStep

namespace FormField

def withoutDefault (f : FormField) : FormField := { f with defaultValue := none }

@[simp] theorem withoutDefault_rendered (s : Scope) (f : FormField) :
    (f.rendered s).withoutDefault = f.withoutDefault := by
  rw [rendered_eq]
  rfl

end FormField

namespace Form

inductive Edit where
  /-- Renders the defaults. -/
  | init (input : Json) (env : Environment)
  | setValue (id : String) (v : Json)
  | restore (snapshot : Json)

namespace Edit

def effect (edit : Edit) (f : Form) : Form :=
  match edit with
  | .init input env => (f.init input env).2
  | .setValue id v => (f.setValue id v).2
  | .restore snapshot => (f.restore snapshot).2

/-- The values that are to be entered, one after the other. -/
def entries : Edit → List (String × Json)
  | .init _ _ => []
  | .setValue id v => [(id, v)]
  | .restore snapshot => Form.entries snapshot

end Edit

def after (f : Form) (edits : List Edit) : Form :=
  edits.foldl (fun f edit => edit.effect f) f

/-- Those of the values that a field takes when they are entered one after the other. -/
def taken (f : Form) : List (String × Json) → List (String × Json)
  | [] => []
  | (id, v) :: es =>
      let (isTaken, f) := f.setValue id v
      if isTaken then (id, v) :: f.taken es else f.taken es

/-- The values that fields take in the course of edits, in their order. -/
def log (f : Form) : List Edit → List (String × Json)
  | [] => []
  | edit :: edits => f.taken edit.entries ++ (edit.effect f).log edits

/-- Takes up one item of the list of fields in a snapshot: enters its value if it has an id and a
value, and counts it if there is a field for it. -/
def takeUp (counted : Nat × Form) (item : Json) : Nat × Form :=
  match item.field? "id", item.field? "value" with
  | some (.str id), some v =>
      let (isTaken, f) := counted.2.setValue id v
      (if isTaken then counted.1 + 1 else counted.1, f)
  | _, _ => counted

def ids (f : Form) : List String := f.fields.map (·.id)

@[simp] theorem after_cons (f : Form) (edit : Edit) (edits : List Edit) :
    f.after (edit :: edits) = (edit.effect f).after edits := rfl

/-! ### Entering a value -/

/-- A value is entered in the first field of its id. -/
theorem enter_eq_modify (id : String) (v : Json) (fs : List FormField) :
    enter id v fs = fs.modify (fs.findIdx (·.id = id)) ({ · with entered := some v }) := by
  induction fs with
  | nil => rfl
  | cons f fs ih =>
      rw [enter, List.findIdx_cons]
      by_cases same : f.id = id
      · simp [same]
      · simp [same, ih]

theorem isSome_field?_iff {f : Form} {id : String} : (f.field? id).isSome = true ↔ id ∈ f.ids := by
  simp only [field?, ids, List.find?_isSome, List.mem_map, decide_eq_true_eq]

/-- A value is taken exactly if a field has the id, and goes into the first of them. -/
theorem setValue_eq (f : Form) (id : String) (v : Json) :
    f.setValue id v = (decide (id ∈ f.ids),
      { f with
        fields :=
          f.fields.modify (f.fields.findIdx (·.id = id)) ({ · with entered := some v }) }) := by
  have isTaken : (f.field? id).isSome = decide (id ∈ f.ids) := by
    rw [Bool.eq_iff_iff, isSome_field?_iff, decide_eq_true_iff]
  rw [setValue, isTaken, enter_eq_modify]

@[simp] theorem ids_setValue (f : Form) (id : String) (v : Json) :
    (f.setValue id v).2.ids = f.ids :=
  ids_enter id v f.fields

/-! ### Entering several values -/

/-- Fields take the values of known ids, whatever was entered before. -/
theorem taken_eq (f : Form) (es : List (String × Json)) : f.taken es = es.filter (·.1 ∈ f.ids) := by
  induction es generalizing f with
  | nil => rfl
  | cons e es ih =>
      rw [taken, List.filter_cons]
      dsimp only
      rw [ih, ids_setValue, setValue_eq]

/-- As many values are counted as are taken. -/
theorem setValues_fst (f : Form) (es : List (String × Json)) :
    (f.setValues es).1 = (f.taken es).length := by
  induction es generalizing f with
  | nil => rfl
  | cons e es ih =>
      rw [setValues, taken]
      dsimp only
      rw [ih]
      cases (f.setValue e.1 e.2).1 with
      | true => simp [Nat.add_comm]
      | false => simp

/-- Counting from a number on counts as many. -/
theorem foldl_takeUp (f : Form) (items : List Json) (n : Nat) :
    items.foldl takeUp (n, f) =
      (n + (f.setValues (items.filterMap enteredValue?)).1,
        (f.setValues (items.filterMap enteredValue?)).2) := by
  induction items generalizing n f with
  | nil => rfl
  | cons item items ih =>
      have step : takeUp (n, f) item =
          match enteredValue? item with
          | none => (n, f)
          | some e => ((if (f.setValue e.1 e.2).1 then n + 1 else n), (f.setValue e.1 e.2).2) := by
        unfold takeUp enteredValue?
        rcases item.field? "id" with _ | id
        · rfl
        · cases id <;> cases item.field? "value" <;> rfl
      rw [List.foldl_cons, step, List.filterMap_cons]
      cases enteredValue? item with
      | none => exact ih f n
      | some e =>
          dsimp only
          rw [ih, setValues]
          dsimp only
          congr 1
          split <;> omega

/-- Restoring takes up the items of the list of fields one after the other; without such a list it
does nothing. -/
theorem restore_eq (f : Form) (snapshot : Json) :
    f.restore snapshot =
      match snapshot.field? "fields" with
      | some (.arr items) => items.foldl takeUp (0, f)
      | _ => (0, f) := by
  rw [restore, Form.entries]
  rcases snapshot.field? "fields" with _ | listed
  · rfl
  · cases listed with
    | arr items =>
        dsimp only
        rw [foldl_takeUp, Nat.zero_add]
        rfl
    | _ => rfl

/-! ### Defaults apart -/

theorem enter_withoutDefault (id : String) (v : Json) (fs : List FormField) :
    enter id v (fs.map (·.withoutDefault)) = (enter id v fs).map (·.withoutDefault) := by
  induction fs with
  | nil => rfl
  | cons f fs ih =>
      rw [List.map_cons, enter, enter, ih]
      by_cases same : f.id = id
      · rw [if_pos (show f.withoutDefault.id = id from same), if_pos same]
        rfl
      · rw [if_neg (show ¬f.withoutDefault.id = id from same), if_neg same]
        rfl

/-- Defaults play no part in entering values. -/
theorem enterAll_withoutDefault (fs : List FormField) (es : List (String × Json)) :
    enterAll (fs.map (·.withoutDefault)) es = (enterAll fs es).map (·.withoutDefault) := by
  induction es generalizing fs with
  | nil => rfl
  | cons e es ih =>
      show enterAll (enter e.1 e.2 (fs.map (·.withoutDefault))) es = _
      rw [enter_withoutDefault]
      exact ih (enter e.1 e.2 fs)

/-- Rendering changes nothing but defaults. -/
theorem withoutDefault_renderDefaults (s : Scope) (fs : List FormField) :
    (renderDefaults s fs).2.map (·.withoutDefault) = fs.map (·.withoutDefault) := by
  rcases settle_or_first_fails s fs with all | ⟨before, f, after, x, rfl, passed, fails⟩
  · rw [renderDefaults_of_settle all]
    simp
  · rw [renderDefaults_of_first_fails passed fails]
    simp

/-- But for the defaults, an edit comes to entering its values. -/
theorem withoutDefault_effect (edit : Edit) (f : Form) :
    (edit.effect f).fields.map (·.withoutDefault) =
      enterAll (f.fields.map (·.withoutDefault)) edit.entries := by
  cases edit with
  | init input env => exact withoutDefault_renderDefaults _ _
  | setValue id v => exact (enterAll_withoutDefault f.fields [(id, v)]).symm
  | restore snapshot =>
      rw [enterAll_withoutDefault]
      show (f.setValues (Form.entries snapshot)).2.fields.map _ = _
      rw [setValues_snd]
      rfl

/-- Defaults apart, a form after edits is the form with all their values entered. -/
theorem withoutDefault_after (f : Form) (edits : List Edit) :
    (f.after edits).fields.map (·.withoutDefault) =
      enterAll (f.fields.map (·.withoutDefault)) (edits.flatMap Edit.entries) := by
  induction edits generalizing f with
  | nil => rfl
  | cons edit edits ih =>
      rw [after_cons, ih, withoutDefault_effect, List.flatMap_cons, enterAll, enterAll, enterAll,
        List.foldl_append]

theorem key_after (f : Form) (edits : List Edit) : (f.after edits).key = f.key := by
  induction edits generalizing f with
  | nil => rfl
  | cons edit edits ih =>
      rw [after_cons, ih]
      cases edit with
      | init input env => rfl
      | setValue id v => rfl
      | restore snapshot =>
          show (f.setValues _).2.key = _
          rw [setValues_snd]

/-! ### Fields after edits -/

theorem toField_enterAll (fs : List FormField) (es : List (String × Json)) :
    (enterAll fs es).map (·.toField) = fs.map (·.toField) := by
  induction fs generalizing es with
  | nil => rw [enterAll_nil]
  | cons f fs ih => rw [enterAll_cons, List.map_cons, List.map_cons, ih]

/-- No edit changes what the definition says of the fields. -/
theorem toField_after (f : Form) (edits : List Edit) :
    (f.after edits).fields.map (·.toField) = f.fields.map (·.toField) := by
  have same (fs : List FormField) :
      (fs.map (·.withoutDefault)).map (·.toField) = fs.map (·.toField) := by
    rw [List.map_map]
    rfl
  rw [← same, withoutDefault_after, toField_enterAll, same]

/-- No edit adds a field, removes one or moves it. -/
theorem ids_after (f : Form) (edits : List Edit) : (f.after edits).ids = f.ids := by
  have same (f : Form) : f.ids = (f.fields.map (·.toField)).map (·.id) := by
    rw [List.map_map]
    rfl
  rw [same, toField_after, ← same]

/-- The values that were taken are those of known ids, in the order of the edits. -/
theorem log_eq (f : Form) (edits : List Edit) :
    f.log edits = (edits.flatMap Edit.entries).filter (·.1 ∈ f.ids) := by
  induction edits generalizing f with
  | nil => rfl
  | cons edit edits ih =>
      have kept : (edit.effect f).ids = f.ids := ids_after f [edit]
      rw [log, taken_eq, ih, kept, List.flatMap_cons, List.filter_append]

/-- The first field of an id has the last value that is entered for it. -/
theorem find?_enterAll (id : String) (fs : List FormField) (es : List (String × Json)) :
    (enterAll fs es).find? (·.id = id) =
      (fs.find? (·.id = id)).map fun f =>
        { f with entered := (Table.last? es id).or f.entered } := by
  induction fs generalizing es with
  | nil =>
      rw [enterAll_nil]
      rfl
  | cons f fs ih =>
      rw [enterAll_cons, List.find?_cons, List.find?_cons]
      by_cases same : f.id = id
      · simp [same, overwrite_eq]
      · have others : Table.last? (es.filter (·.1 ≠ f.id)) id = Table.last? es id :=
          Table.last?_filter (· ≠ f.id) (by simpa using Ne.symm same) es
        simp only [same, decide_false, ih, others]

/-- Of blank fields with one id only the first takes values. -/
theorem later_blank_enterAll {fs : List FormField} (blank : ∀ f ∈ fs, f.IsBlank)
    (es : List (String × Json)) :
    (enterAll fs es).Pairwise fun f g => f.id = g.id → g.IsBlank := by
  induction fs generalizing es with
  | nil =>
      rw [enterAll_nil]
      exact .nil
  | cons f fs ih =>
      have blank' := (List.forall_mem_cons.mp blank).2
      rw [enterAll_cons]
      refine List.Pairwise.cons (fun g member same => ?_) (ih blank' _)
      show g.entered = none
      cases entered : g.entered with
      | none => rfl
      | some v =>
          -- The value would stand under the id of `f`, but those are not passed on.
          have pair : (g.id, v) ∈ pairs (enterAll fs (es.filter (·.1 ≠ f.id))) :=
            List.mem_filterMap.mpr ⟨g, member, by simp [FormField.pair?, entered]⟩
          obtain ⟨e, passed, key⟩ := key_mem_of_mem_pairs blank' pair
          have differs : e.1 ≠ f.id := by simpa using (List.mem_filter.mp passed).2
          exact absurd (key.trans same.symm) differs

/-- The first field of an id has the last value that was taken for it, or else what it had. -/
theorem field?_after (f : Form) (edits : List Edit) (id : String) :
    ((f.after edits).field? id).map (·.withoutDefault) =
      (f.field? id).map fun g =>
        { g with entered := (Table.last? (f.log edits) id).or g.entered }.withoutDefault := by
  have apart (fs : List FormField) :
      (fs.map (·.withoutDefault)).find? (·.id = id) =
        (fs.find? (·.id = id)).map (·.withoutDefault) := List.find?_map ..
  rw [field?, ← apart, withoutDefault_after, find?_enterAll, apart, field?, log_eq, Option.map_map]
  cases found : f.fields.find? (·.id = id) with
  | none => rfl
  | some g =>
      have listed : id ∈ f.ids := isSome_field?_iff.mp (by rw [field?, found]; rfl)
      rw [Table.last?_filter (· ∈ f.ids) (by simpa using listed)]
      rfl

/-- Values are taken for the ids of fields only. -/
theorem last?_log_of_unknown {f : Form} {id : String} (unknown : id ∉ f.ids)
    (edits : List Edit) : Table.last? (f.log edits) id = none := by
  rw [Table.last?_eq_none_iff, log_eq]
  intro listed
  obtain ⟨e, member, rfl⟩ := List.mem_map.mp listed
  exact unknown (by simpa using (List.mem_filter.mp member).2)

/-- In the first field of an id stands the last value that was taken for it, or what stood there
before. -/
theorem entered_after (f : Form) (edits : List Edit) (id : String) :
    ((f.after edits).field? id).bind (·.entered) =
      (Table.last? (f.log edits) id).or ((f.field? id).bind (·.entered)) := by
  have apart (o : Option FormField) :
      o.bind (·.entered) = (o.map (·.withoutDefault)).bind (·.entered) := by
    cases o <;> rfl
  rw [apart, field?_after]
  cases found : f.field? id with
  | none =>
      have unknown : id ∉ f.ids := fun listed => by
        simpa [found] using isSome_field?_iff.mpr listed
      rw [last?_log_of_unknown unknown]
      rfl
  | some g => rfl

/-! ### Forms of a definition -/

variable (d : Definition.Form)

theorem withoutDefault_ofDefinition :
    (ofDefinition d).fields.map (·.withoutDefault) = (ofDefinition d).fields := by
  rw [ofDefinition, List.map_map]
  rfl

theorem toField_ofDefinition : (ofDefinition d).fields.map (·.toField) = d.fields := by
  rw [ofDefinition, List.map_map]
  exact List.map_id d.fields

theorem ids_edited (edits : List Edit) :
    ((ofDefinition d).after edits).ids = d.fields.map (·.id) := by
  rw [ids_after, ids, ← toField_ofDefinition d, List.map_map]
  rfl

/-- But for the defaults, the form of a definition is what comes of entering values in it. -/
theorem withoutDefault_edited (edits : List Edit) :
    ((ofDefinition d).after edits).fields.map (·.withoutDefault) =
      enterAll (ofDefinition d).fields (edits.flatMap Edit.entries) := by
  rw [withoutDefault_after, withoutDefault_ofDefinition]

/-- Of several fields with one id only the first ever has a value. -/
theorem later_blank_edited (edits : List Edit) :
    ((ofDefinition d).after edits).fields.Pairwise fun f g => f.id = g.id → g.IsBlank := by
  have blank := later_blank_enterAll (isBlank_ofDefinition d) (edits.flatMap Edit.entries)
  rw [← withoutDefault_edited, List.pairwise_map] at blank
  exact blank

/-- In a form of a definition nothing is entered before the edits. -/
theorem entered_edited (edits : List Edit) (id : String) :
    (((ofDefinition d).after edits).field? id).bind (·.entered) =
      Table.last? ((ofDefinition d).log edits) id := by
  have blank : ((ofDefinition d).field? id).bind (·.entered) = none := by
    rw [Option.bind_eq_none_iff]
    exact fun f found => isBlank_ofDefinition d f (List.mem_of_find?_eq_some found)
  rw [entered_after, blank, Option.or_none]

/-- The form of a definition in which nothing was entered, with defaults rendered any number of
times. -/
def unfilled (inits : List (Json × Environment)) : Form :=
  (ofDefinition d).after (inits.map fun x => .init x.1 x.2)

theorem withoutDefault_unfilled (inits : List (Json × Environment)) :
    (unfilled d inits).fields.map (·.withoutDefault) = (ofDefinition d).fields := by
  have nothing : (inits.map fun x => Edit.init x.1 x.2).flatMap Edit.entries = [] := by
    refine List.flatMap_eq_nil_iff.mpr fun edit member => ?_
    obtain ⟨x, _, rfl⟩ := List.mem_map.mp member
    rfl
  rw [unfilled, withoutDefault_edited, nothing]
  rfl

/-- The snapshot of a form that was edited fills an unfilled one in to the same form, but for the
defaults. -/
theorem withoutDefault_refilled (edits : List Edit) (inits : List (Json × Environment)) :
    let f := (ofDefinition d).after edits
    ((unfilled d inits).restore f.state).2.fields.map (·.withoutDefault) =
      f.fields.map (·.withoutDefault) := by
  intro f
  have apart : pairs (f.fields.map (·.withoutDefault)) = pairs f.fields := List.filterMap_map ..
  calc ((unfilled d inits).restore f.state).2.fields.map (·.withoutDefault)
      = enterAll ((unfilled d inits).fields.map (·.withoutDefault)) (entries f.state) :=
        withoutDefault_effect (.restore f.state) _
    _ = enterAll (ofDefinition d).fields (pairs (f.fields.map (·.withoutDefault))) := by
        rw [withoutDefault_unfilled, entries_state, apart]
    _ = f.fields.map (·.withoutDefault) := by
        rw [withoutDefault_edited, enterAll_pairs (isBlank_ofDefinition d)]

/-- Every value in the snapshot of a form is counted by a form of the same fields. -/
theorem count_refilled {f g : Form} (ids : g.ids = f.ids) :
    (g.restore f.state).1 = f.fields.countP (·.entered.isSome) := by
  have known : ∀ e ∈ pairs f.fields, decide (e.1 ∈ g.ids) = true := by
    intro e member
    obtain ⟨field, listed, pair⟩ := List.mem_filterMap.mp member
    obtain ⟨v, _, rfl⟩ := Option.map_eq_some_iff.mp pair
    rw [ids, decide_eq_true_iff]
    exact List.mem_map_of_mem listed
  rw [restore, setValues_fst, taken_eq, entries_state, List.filter_eq_self.mpr known, pairs,
    List.length_filterMap_eq_countP]
  congr 1
  funext field
  exact Option.isSome_map

/-- A form is a store of values. Whatever is done to it, it shows the fields of its definition.
Restoring takes up the listed fields one after the other. The first field of an id has the last
value that was taken for the id, and entering a value changes no other field; so of fields with
one id the later ones stay blank. The snapshot of the form enters the same values in a form of the
definition, whether its defaults were rendered or not, and as many are counted. -/
theorem edited_form_stores (d : Definition.Form) (edits : List Edit) :
    let f := (ofDefinition d).after edits
    (f.key = d.key ∧ f.fields.map (·.toField) = d.fields) ∧
      (∀ snapshot, f.restore snapshot =
        match snapshot.field? "fields" with
        | some (.arr items) => items.foldl takeUp (0, f)
        | _ => (0, f)) ∧
      (∀ id, (f.field? id).bind (·.entered) = Table.last? ((ofDefinition d).log edits) id) ∧
      (∀ id v, f.setValue id v = (decide (id ∈ f.ids),
        { f with
          fields :=
            f.fields.modify (f.fields.findIdx (·.id = id)) ({ · with entered := some v }) })) ∧
      f.fields.Pairwise (fun g h => g.id = h.id → h.entered = none) ∧
      ∀ inits : List (Json × Environment),
        ((unfilled d inits).restore f.state).2.fields.map (·.entered) =
            f.fields.map (·.entered) ∧
          ((unfilled d inits).restore f.state).1 = f.fields.countP (·.entered.isSome) := by
  intro f
  refine ⟨⟨key_after _ edits, (toField_after _ edits).trans (toField_ofDefinition d)⟩, restore_eq f,
    entered_edited d edits, setValue_eq f, later_blank_edited d edits, fun inits => ⟨?_, ?_⟩⟩
  · have apart (fs : List FormField) :
        (fs.map (·.withoutDefault)).map (·.entered) = fs.map (·.entered) := List.map_map ..
    rw [← apart, withoutDefault_refilled, apart]
  · exact count_refilled ((ids_edited d _).trans (ids_edited d edits).symm)

def notes : Definition.Form := ⟨some "notes", [.ofId "note", .ofId "note", .ofId "by"]⟩

/-- A snapshot with a null, an unknown field, and items that lack a value or an id. -/
def jotted : Json :=
  .object [("fields", .arr [.object [("id", .str "note"), ("value", .null)],
    .object [("id", .str "by")], .object [("id", .int 3), ("value", .int 3)], .null,
    .object [("id", .str "gone"), ("value", .bool true)]])]

/-- The null in the snapshot goes over the value before it; the second note stays blank, and one of
three values is there to be entered again. -/
theorem notes_store :
    let f := (ofDefinition notes).after [.setValue "note" (.str "call"), .restore jotted]
    (ofDefinition notes).log [.setValue "note" (.str "call"), .restore jotted] =
        [("note", .str "call"), ("note", .null)] ∧
      (f.field? "note").bind (·.entered) = some .null ∧
      f.fields.map (·.entered) = [some .null, none, none] ∧
      ((unfilled notes []).restore f.state).1 = 1 := by
  intro f
  obtain ⟨_, _, last, _, later, again⟩ := edited_form_stores notes
    [.setValue "note" (.str "call"), .restore jotted]
  have logged : (ofDefinition notes).log [.setValue "note" (.str "call"), .restore jotted] =
      [("note", .str "call"), ("note", .null)] := rfl
  refine ⟨logged, ?_, rfl, ?_⟩
  · rw [last, logged]
    rfl
  · rw [(again []).2]
    rfl

end Form

end ProcessStep
