import ProcessStep.Proofs.Forms.Editing

/-!
The table of the values of a form. Values are entered in the first field of an id, and the table
shows the last one (`get?_values`). Where a definition has one field of an id these are the same,
and the table shows what was entered last. Where it has several the table shows a default, whatever
is entered (`values_edited`).
-/

namespace ProcessStep.Form

variable {f : Form} {id : String}

def fieldsOf (f : Form) (id : String) : List FormField := f.fields.filter (·.id = id)

theorem field?_eq_head? (f : Form) (id : String) : f.field? id = (f.fieldsOf id).head? :=
  List.head?_filter.symm

theorem length_fieldsOf (f : Form) (id : String) : (f.fieldsOf id).length = f.ids.count id := by
  rw [fieldsOf, ids, List.count, List.countP_map, List.countP_eq_length_filter]
  congr 2

/-! ### What the table shows -/

/-- The table shows the last field of an id. -/
theorem get?_values (f : Form) (id : String) :
    f.values.get? id = ((f.fieldsOf id).getLast?).map (·.value) := by
  rw [values, Table.get?_ofList, Table.last?_eq_getLast?, List.filter_map, List.getLast?_map,
    Option.map_map]
  rfl

/-- Every field has a value under its id, whether one was entered or not. -/
theorem mem_keys_values (f : Form) (id : String) : id ∈ f.values.keys ↔ id ∈ f.ids := by
  have absent : f.values.get? id = none ↔ id ∉ f.ids := by
    rw [values, Table.get?_ofList, Table.last?_eq_none_iff, List.map_map]
    rfl
  exact Decidable.not_iff_not.mp (Table.get?_eq_none_iff.symm.trans absent)

/-! ### An id that stands once -/

/-- A field whose id comes once has its own value. -/
theorem get?_values_of_once (once : f.ids.count id = 1) :
    f.values.get? id = (f.field? id).map (·.value) := by
  rw [← length_fieldsOf] at once
  obtain ⟨g, only⟩ := List.length_eq_one_iff.mp once
  rw [get?_values, field?_eq_head?, only]
  rfl

/-- A value for a known id is the first of those that are taken. -/
theorem log_setValue_cons (listed : id ∈ f.ids) (v : Json) (edits : List Edit) :
    f.log (.setValue id v :: edits) = (id, v) :: (f.setValue id v).2.log edits := by
  have isTaken : f.taken [(id, v)] = [(id, v)] := by
    rw [taken_eq]
    simpa using listed
  show f.taken [(id, v)] ++ _ = _
  rw [isTaken]
  rfl

/-- A value that was entered is shown until another one is taken for its id. -/
theorem get?_values_after (once : f.ids.count id = 1) (v : Json) {edits : List Edit}
    (untouched : id ∉ ((f.setValue id v).2.log edits).map (·.1)) :
    ((f.setValue id v).2.after edits).values.get? id = some v := by
  have listed : id ∈ f.ids := List.count_pos_iff.mp (once ▸ Nat.one_pos)
  have entered := entered_after f (.setValue id v :: edits) id
  rw [log_setValue_cons listed, Table.last?, Table.last?_eq_none_iff.mpr untouched, if_pos rfl,
    Option.none_or, Option.some_or] at entered
  obtain ⟨g, found, has⟩ := Option.bind_eq_some_iff.mp entered
  have kept : ((f.setValue id v).2.after edits).ids = f.ids :=
    (ids_after _ edits).trans (ids_setValue f id v)
  have found : ((f.setValue id v).2.after edits).field? id = some g := found
  have has : g.entered = some v := has
  rw [get?_values_of_once (kept ▸ once), found]
  simp [FormField.value, has]

/-! ### An id that stands more than once -/

/-- Entering a value for an id is entering it into the fields of the id. -/
theorem filter_enter (id : String) (v : Json) (fs : List FormField) :
    (enter id v fs).filter (·.id = id) = enter id v (fs.filter (·.id = id)) := by
  induction fs with
  | nil => rfl
  | cons g gs ih => by_cases same : g.id = id <;> simp [enter, same, ih]

/-- Fields of other ids keep what is entered in them. -/
theorem filter_enter_of_ne {k : String} (other : id ≠ k) (v : Json) (fs : List FormField) :
    (enter id v fs).filter (·.id = k) = fs.filter (·.id = k) := by
  induction fs with
  | nil => rfl
  | cons g gs ih =>
      by_cases same : g.id = id
      · simp [enter, same, other]
      · simp [enter, same, List.filter_cons, ih]

theorem id_of_mem_fieldsOf {g : FormField} (member : g ∈ f.fieldsOf id) : g.id = id := by
  simpa using (List.mem_filter.mp member).2

/-- An id that comes twice has a first and a second field. -/
theorem exists_two_of_repeated (repeated : 2 ≤ f.ids.count id) :
    ∃ first second rest, f.fieldsOf id = first :: second :: rest := by
  rw [← length_fieldsOf] at repeated
  match fields : f.fieldsOf id, repeated with
  | first :: second :: rest, _ => exact ⟨first, second, rest, rfl⟩

/-- Where an id stands more than once, entering a value in its first field is not shown. -/
theorem values_setValue (repeated : 2 ≤ f.ids.count id) (v : Json) :
    (f.setValue id v).2.values = f.values := by
  refine Table.ext_of_sorted (Table.sorted_ofList _) (Table.sorted_ofList _) fun k => ?_
  rw [get?_values, get?_values]
  by_cases same : id = k
  · subst same
    obtain ⟨first, second, rest, fields⟩ := exists_two_of_repeated repeated
    have isFirst : first.id = id := id_of_mem_fieldsOf (fields ▸ List.mem_cons_self)
    have fields' : (f.setValue id v).2.fieldsOf id = enter id v (f.fieldsOf id) :=
      filter_enter id v f.fields
    rw [fields', fields, enter, if_pos isFirst]
    rfl
  · have fields' : (f.setValue id v).2.fieldsOf k = f.fieldsOf k :=
      filter_enter_of_ne same v f.fields
    rw [fields']

/-- Where an id stands more than once, the field that is shown never has a value entered. -/
theorem last_blank (later : f.fields.Pairwise fun g h => g.id = h.id → h.IsBlank)
    (repeated : 2 ≤ f.ids.count id) :
    ∃ g, (f.fieldsOf id).getLast? = some g ∧ g.IsBlank := by
  obtain ⟨first, second, rest, fields⟩ := exists_two_of_repeated repeated
  have pairwise : (f.fieldsOf id).Pairwise fun g h => g.id = h.id → h.IsBlank := later.filter _
  have sameId : ∀ g ∈ first :: second :: rest, g.id = id := fun g member =>
    id_of_mem_fieldsOf (fields ▸ member)
  rw [fields] at pairwise ⊢
  have isLast : (second :: rest).getLast (List.cons_ne_nil _ _) ∈ second :: rest :=
    List.getLast_mem _
  refine ⟨_, rfl, (List.pairwise_cons.mp pairwise).1 _ isLast ?_⟩
  exact (sameId first List.mem_cons_self).trans (sameId _ (List.mem_cons_of_mem first isLast)).symm

/-! ### Forms of a definition -/

/-- The table has the ids of the fields for its keys. Under an id that stands once it shows the
field of that id, and so what was entered last. Under an id that stands more than once it shows the
default of the last field, whatever is entered. -/
theorem values_edited (d : Definition.Form) (edits : List Edit) :
    let f := (ofDefinition d).after edits
    (f.values.Sorted ∧ ∀ id, id ∈ f.values.keys ↔ id ∈ d.fields.map (·.id)) ∧
      (∀ id, (d.fields.map (·.id)).count id = 1 →
        f.values.get? id = (f.field? id).map (·.value) ∧
          ∀ v more, id ∉ ((f.setValue id v).2.log more).map (·.1) →
            (f.setValue id v).1 = true ∧
              ((f.setValue id v).2.after more).values.get? id = some v) ∧
      ∀ id, 2 ≤ (d.fields.map (·.id)).count id →
        (∃ g, (f.fieldsOf id).getLast? = some g ∧ g.entered = none ∧
          f.values.get? id = some (g.defaultValue.getD .null)) ∧
          ∀ v, (f.setValue id v).1 = true ∧ (f.setValue id v).2.values = f.values := by
  intro f
  have ids : f.ids = d.fields.map (·.id) := ids_edited d edits
  have accepts {id : String} (stands : 0 < f.ids.count id) (v : Json) :
      (f.setValue id v).1 = true := by
    rw [setValue_eq]
    simpa using List.count_pos_iff.mp stands
  rw [← ids]
  refine ⟨⟨Table.sorted_ofList _, mem_keys_values f⟩, fun id once => ?_, fun id repeated => ?_⟩
  · exact ⟨get?_values_of_once once, fun v more untouched =>
      ⟨accepts (once ▸ Nat.one_pos) v, get?_values_after once v untouched⟩⟩
  · obtain ⟨g, last, blank⟩ := last_blank (later_blank_edited d edits) repeated
    have empty : g.entered = none := blank
    refine ⟨⟨g, last, empty, ?_⟩, fun v => ⟨accepts (Nat.lt_of_lt_of_le Nat.two_pos repeated) v,
      values_setValue repeated v⟩⟩
    rw [get?_values, last]
    simp [FormField.value, empty]

/-- A value that the first of two notes takes is not shown. -/
theorem note_taken_unseen :
    let f := ((ofDefinition notes).setValue "note" (.str "call")).2
    ((ofDefinition notes).setValue "note" (.str "call")).1 = true ∧
      (f.field? "note").map (·.value) = some (.str "call") ∧
      f.values.get? "note" = some .null :=
  ⟨rfl, rfl, rfl⟩

/-- The table of `notes` shows who it is by, and a null for the notes. -/
theorem notes_values :
    let f := (ofDefinition notes).after [.setValue "by" (.str "Ann")]
    let more : List Edit := [.restore jotted, .setValue "note" (.str "call")]
    ((f.setValue "by" (.str "Bo")).2.after more).values.get? "by" = some (.str "Bo") ∧
      (f.setValue "note" (.str "call")).2.values = f.values := by
  intro f more
  obtain ⟨_, once, repeated⟩ := values_edited notes [.setValue "by" (.str "Ann")]
  have untouched : "by" ∉ ((f.setValue "by" (.str "Bo")).2.log more).map (·.1) := by decide
  refine ⟨?_, ?_⟩
  · exact (((once "by" (by decide)).2 (.str "Bo") more) untouched).2
  · exact ((repeated "note" (by decide)).2 (.str "call")).2

end ProcessStep.Form
