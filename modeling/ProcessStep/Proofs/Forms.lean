import ProcessStep.Execution.Form
import ProcessStep.Proofs.Tables

/-!
What a form keeps in a snapshot. Entering values is a fold over the fields (`enterAll`), in which
a field sees only the values under its id that no earlier field takes. So the entries of the
snapshot of a form, entered into the form as it was before, make the same form again
(`restore_state`).
-/

namespace ProcessStep

namespace FormField

def IsBlank (f : FormField) : Prop := f.entered = none

theorem isBlank_ofDefinition (d : Definition.Field) : (ofDefinition d).IsBlank := rfl

/-- What a snapshot of the field enters again: its id with the value, if there is one. -/
def pair? (f : FormField) : Option (String × Json) := f.entered.map (f.id, ·)

theorem field?_id_toJson (f : FormField) : f.toJson.field? "id" = some (.str f.id) := by
  simp [toJson, Json.field?, Json.ofTable, Json.fields?, Table.get?_insertSome, Table.ofList,
    Table.get?_insert]

theorem field?_value_toJson (f : FormField) : f.toJson.field? "value" = f.entered := by
  simp [toJson, Json.field?, Json.ofTable, Json.fields?, Table.get?_insertSome, Table.ofList,
    Table.get?_insert]

/-- A field of a snapshot enters what was entered in it, and nothing if nothing was. -/
theorem enteredValue?_toJson (f : FormField) : Form.enteredValue? f.toJson = f.pair? := by
  unfold Form.enteredValue? pair?
  rw [field?_id_toJson, field?_value_toJson]
  cases f.entered <;> rfl

end FormField

namespace Form

/-! ### Entering several values -/

def enterAll (fs : List FormField) (es : List (String × Json)) : List FormField :=
  es.foldl (fun fs e => enter e.1 e.2 fs) fs

/-- What is entered in a field of an id after values, the last of which counts. -/
def overwrite (id : String) (old : Option Json) (es : List (String × Json)) : Option Json :=
  es.foldl (fun old e => if e.1 = id then some e.2 else old) old

/-- Values are entered one after the other, those of unknown ids into no field. -/
theorem setValues_snd (f : Form) (es : List (String × Json)) :
    (f.setValues es).2 = { f with fields := enterAll f.fields es } := by
  induction es generalizing f with
  | nil => rfl
  | cons e es ih => exact ih { f with fields := enter e.1 e.2 f.fields }

/-- Values that are entered in two steps can be entered in one. -/
theorem setValues_append (f : Form) (es es' : List (String × Json)) :
    ((f.setValues es).2.setValues es').2 = (f.setValues (es ++ es')).2 := by
  simp [setValues_snd, enterAll, List.foldl_append]

/-- A field takes the values under its id, and the fields behind it take the others. -/
theorem enterAll_cons (f : FormField) (fs : List FormField) (es : List (String × Json)) :
    enterAll (f :: fs) es =
      { f with entered := overwrite f.id f.entered es } ::
        enterAll fs (es.filter (·.1 ≠ f.id)) := by
  induction es generalizing f fs with
  | nil => rfl
  | cons e es ih =>
      by_cases same : f.id = e.1
      · have taken := ih { f with entered := some e.2 } fs
        simpa [enterAll, enter, overwrite, same] using taken
      · have passed := ih f (enter e.1 e.2 fs)
        simpa [enterAll, enter, overwrite, same, Ne.symm same] using passed

/-- The last value under the id counts, or else what was entered before. -/
theorem overwrite_eq (id : String) (old : Option Json) (es : List (String × Json)) :
    overwrite id old es = (Table.last? es id).or old := by
  induction es generalizing old with
  | nil => rfl
  | cons e es ih =>
      show overwrite id (if e.1 = id then some e.2 else old) es = _
      rw [ih, Table.last?, Option.or_assoc]
      by_cases same : e.1 = id <;> simp [same]

/-- A field stays without a value only if it had none and none is for it. -/
theorem overwrite_eq_none_iff {id : String} {old : Option Json} {es : List (String × Json)} :
    overwrite id old es = none ↔ old = none ∧ ∀ e ∈ es, e.1 ≠ id := by
  rw [overwrite_eq, Option.or_eq_none_iff, Table.last?_eq_none_iff, and_comm]
  simp only [List.mem_map, not_exists, not_and, ne_eq]

theorem overwrite_of_absent {id : String} {es : List (String × Json)}
    (absent : ∀ e ∈ es, e.1 ≠ id) (old : Option Json) : overwrite id old es = old := by
  have nothing : overwrite id none es = none := overwrite_eq_none_iff.mpr ⟨rfl, absent⟩
  rw [overwrite_eq, Option.or_none] at nothing
  rw [overwrite_eq, nothing, Option.none_or]

@[simp] theorem enterAll_nil (es : List (String × Json)) : enterAll [] es = [] := by
  induction es with
  | nil => rfl
  | cons e es ih => exact ih

/-- Blank fields stay blank exactly when no value is entered under an id of theirs. -/
theorem entered_enterAll_iff {fs : List FormField} (blank : ∀ f ∈ fs, f.IsBlank)
    (es : List (String × Json)) :
    (enterAll fs es).map (·.entered) = fs.map (·.entered) ↔
      ∀ e ∈ es, e.1 ∉ fs.map (·.id) := by
  induction fs generalizing es with
  | nil => simp
  | cons f fs ih =>
      obtain ⟨first, rest⟩ := List.forall_mem_cons.mp blank
      have empty : f.entered = none := first
      rw [enterAll_cons, List.map_cons, List.map_cons, List.cons.injEq, ih rest, empty,
        overwrite_eq_none_iff]
      constructor
      · rintro ⟨⟨_, differ⟩, passed⟩ e member taken
        rcases List.mem_cons.mp taken with same | taken
        · exact differ e member same
        · exact passed e (List.mem_filter.mpr ⟨member, by simpa using differ e member⟩) taken
      · intro absent
        refine ⟨⟨rfl, fun e member same => ?_⟩, fun e member taken => ?_⟩
        · exact absent e member (same ▸ List.mem_cons_self)
        · exact absent e (List.mem_filter.mp member).1 (List.mem_cons_of_mem _ taken)

/-- The entries of the fields, as a snapshot has them. -/
def pairs (fs : List FormField) : List (String × Json) := fs.filterMap (·.pair?)

theorem pairs_cons (f : FormField) (fs : List FormField) :
    pairs (f :: fs) = (f.entered.map (f.id, ·)).toList ++ pairs fs := by
  unfold pairs
  cases entered : f.entered with
  | none => simp [FormField.pair?, entered]
  | some v => simp [FormField.pair?, entered]

/-- Values entered into blank fields stand under ids that were given. -/
theorem key_mem_of_mem_pairs {fs : List FormField} (blank : ∀ f ∈ fs, f.IsBlank)
    {es : List (String × Json)} {e : String × Json} (member : e ∈ pairs (enterAll fs es)) :
    ∃ e' ∈ es, e'.1 = e.1 := by
  induction fs generalizing es with
  | nil =>
      rw [enterAll_nil] at member
      cases member
  | cons f fs ih =>
      rw [enterAll_cons, pairs_cons] at member
      rcases List.mem_append.mp member with head | tail
      · refine Classical.byContradiction fun unknown => ?_
        obtain ⟨v, entered, rfl⟩ : ∃ v, overwrite f.id f.entered es = some v ∧ (f.id, v) = e := by
          simpa using head
        have absent : ∀ e' ∈ es, e'.1 ≠ f.id := fun e' mem same => unknown ⟨e', mem, same⟩
        rw [overwrite_of_absent absent, blank f List.mem_cons_self] at entered
        cases entered
      · have blank' : ∀ g ∈ fs, g.IsBlank := fun g mem => blank g (List.mem_cons_of_mem f mem)
        obtain ⟨e', member', same⟩ := ih blank' tail
        exact ⟨e', (List.mem_filter.mp member').1, same⟩

/-- A blank field takes its own entry back from entries that have no other under its id. -/
theorem overwrite_own {id : String} {rest : List (String × Json)} (others : ∀ e ∈ rest, e.1 ≠ id)
    (o : Option Json) : overwrite id none ((o.map (id, ·)).toList ++ rest) = o := by
  cases o with
  | none => exact overwrite_of_absent others none
  | some v =>
      show overwrite id (if id = id then some v else none) rest = some v
      rw [if_pos rfl]
      exact overwrite_of_absent others (some v)

theorem filter_own {id : String} {rest : List (String × Json)} (others : ∀ e ∈ rest, e.1 ≠ id)
    (o : Option Json) : ((o.map (id, ·)).toList ++ rest).filter (·.1 ≠ id) = rest := by
  have kept : rest.filter (·.1 ≠ id) = rest := List.filter_eq_self.mpr (by simpa using others)
  rw [List.filter_append, kept]
  cases o with
  | none => rfl
  | some v => simp

/-- The entries of fields that were blank and are filled in fill them in again. -/
theorem enterAll_pairs {fs : List FormField} (blank : ∀ f ∈ fs, f.IsBlank)
    (es : List (String × Json)) : enterAll fs (pairs (enterAll fs es)) = enterAll fs es := by
  induction fs generalizing es with
  | nil => simp
  | cons f fs ih =>
      have blank' : ∀ g ∈ fs, g.IsBlank := fun g mem => blank g (List.mem_cons_of_mem f mem)
      have empty : f.entered = none := blank f List.mem_cons_self
      -- The fields behind `f` got only values under other ids.
      have others : ∀ e ∈ pairs (enterAll fs (es.filter (·.1 ≠ f.id))), e.1 ≠ f.id := by
        intro e member
        obtain ⟨e', member', same⟩ := key_mem_of_mem_pairs blank' member
        rw [← same]
        simpa using (List.mem_filter.mp member').2
      rw [enterAll_cons f fs es, pairs_cons, enterAll_cons, empty]
      dsimp only
      rw [overwrite_own others, filter_own others, ih blank']

/-! ### Snapshots of forms -/

/-- A snapshot of a form holds what was entered, in the order of the fields. -/
theorem entries_state (f : Form) : entries f.state = pairs f.fields := by
  have fields : f.state.field? "fields" = some (.arr (f.fields.map (·.toJson))) := by
    simp [state, Json.field?, Json.ofTable, Json.fields?, Table.get?_insertSome, Table.ofList]
  unfold entries pairs
  rw [fields]
  simp only [Option.bind_some, Json.items?, Option.getD_some, List.filterMap_map]
  congr 1
  funext g
  exact g.enteredValue?_toJson

/-- A snapshot of a form that was filled in, restored into the form as it was, gives the filled
form with all that is entered in it. -/
theorem restore_state {f : Form} (blank : ∀ g ∈ f.fields, g.IsBlank)
    (es : List (String × Json)) :
    (f.restore (f.setValues es).2.state).2 = (f.setValues es).2 := by
  rw [restore, entries_state]
  simp only [setValues_snd, enterAll_pairs blank]

/-! ### Blank forms -/

theorem isBlank_ofDefinition (d : Definition.Form) : ∀ f ∈ (ofDefinition d).fields, f.IsBlank := by
  intro f member
  obtain ⟨field, _, rfl⟩ := List.mem_map.mp member
  exact FormField.isBlank_ofDefinition field

end Form

end ProcessStep
