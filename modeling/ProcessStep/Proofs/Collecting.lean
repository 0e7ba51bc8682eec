import ProcessStep.Proofs.Tables
import ProcessStep.Resolution.Parameter

/-!
What parameters come to. `Collects` says which values an object of parameters holds, and
`Collection` what the outcome is for parameters with any values or errors, without a look at the
order in which the object is filled. `collect_eq_iff` says that `collect` has that outcome and no
other.
-/

namespace ProcessStep.Definition.Parameter

variable {value : Parameter → Except ResolutionError Json} {ps : List Parameter}

def AllResolve (value : Parameter → Except ResolutionError Json) (ps : List Parameter) : Prop :=
  ∀ p ∈ ps, ∃ v, value p = .ok v

/-- The table has a value under every name of a parameter and under nothing else; of several
parameters with one name it has the value of the last. -/
structure Collects (value : Parameter → Except ResolutionError Json) (ps : List Parameter)
    (t : Table Json) : Prop where
  sorted : t.Sorted
  names : ∀ k, t.get? k ≠ none ↔ k ∈ ps.map (·.name)
  last : ∀ before p after, ps = before ++ p :: after → p.name ∉ after.map (·.name) →
    ∃ v, value p = .ok v ∧ t.get? p.name = some v

/-- What parameters come to: a table of their values, or the error of the first that has one. -/
inductive Collection (value : Parameter → Except ResolutionError Json) (ps : List Parameter) :
    Except ResolutionError (Table Json) → Prop where
  | complete {t : Table Json} (all : AllResolve value ps) (collects : Collects value ps t) :
      Collection value ps (.ok t)
  | failed {before after : List Parameter} {p : Parameter} {x : ResolutionError}
      (split : ps = before ++ p :: after) (passed : AllResolve value before)
      (fails : value p = .error x) : Collection value ps (.error x)

/-! ### The order of the parameters -/

/-- Unless all parameters have values, there is a first one that has none. -/
theorem allResolve_or_first_fails (value : Parameter → Except ResolutionError Json)
    (ps : List Parameter) :
    AllResolve value ps ∨
      ∃ before p after x, ps = before ++ p :: after ∧ AllResolve value before ∧
        value p = .error x := by
  induction ps with
  | nil => exact .inl fun _ none => nomatch none
  | cons p ps ih =>
      cases resolved : value p with
      | error x => exact .inr ⟨[], p, ps, x, rfl, fun _ none => (nomatch none), resolved⟩
      | ok v =>
          rcases ih with all | ⟨before, q, after, x, rfl, passed, fails⟩
          · exact .inl (List.forall_mem_cons.mpr ⟨⟨v, resolved⟩, all⟩)
          · exact .inr ⟨p :: before, q, after, x, rfl,
              List.forall_mem_cons.mpr ⟨⟨v, resolved⟩, passed⟩, fails⟩

/-- Behind the last parameter of a name there is no other of that name. -/
theorem exists_last_of_name {k : String} (named : k ∈ ps.map (·.name)) :
    ∃ before p after, ps = before ++ p :: after ∧ p.name = k ∧ k ∉ after.map (·.name) := by
  induction ps with
  | nil => cases named
  | cons p ps ih =>
      by_cases later : k ∈ ps.map (·.name)
      · obtain ⟨before, q, after, rfl, same, last⟩ := ih later
        exact ⟨p :: before, q, after, rfl, same, last⟩
      · have same : k = p.name := (List.mem_cons.mp named).resolve_right later
        exact ⟨[], p, ps, rfl, same.symm, later⟩

/-! ### Filling the table -/

def entries (value : Parameter → Except ResolutionError Json) (ps : List Parameter) :
    List (String × Json) :=
  ps.filterMap fun p => (value p).toOption.map (p.name, ·)

theorem entries_cons_of_ok {p : Parameter} {v : Json} (resolved : value p = .ok v)
    (ps : List Parameter) : entries value (p :: ps) = (p.name, v) :: entries value ps := by
  simp [entries, resolved, Except.toOption]

/-- Every parameter has an entry of its own, in their order. -/
theorem names_entries (all : AllResolve value ps) :
    (entries value ps).map (·.1) = ps.map (·.name) := by
  induction ps with
  | nil => rfl
  | cons p ps ih =>
      obtain ⟨⟨v, resolved⟩, rest⟩ := List.forall_mem_cons.mp all
      rw [entries_cons_of_ok resolved, List.map_cons, List.map_cons, ih rest]

/-- If all parameters have values, these are written one after the other over what was read. -/
theorem collect_of_allResolve (all : AllResolve value ps) (read : Table Json) :
    collect value read ps = .ok (read.extend (entries value ps)) := by
  induction ps generalizing read with
  | nil => rfl
  | cons p ps ih =>
      obtain ⟨⟨v, resolved⟩, rest⟩ := List.forall_mem_cons.mp all
      rw [collect, resolved, entries_cons_of_ok resolved, Table.extend_cons]
      exact ih rest (read.insert p.name v)

/-- The parameters after the first that has no value play no part. -/
theorem collect_of_first_fails {before after : List Parameter} {p : Parameter}
    {x : ResolutionError} (passed : AllResolve value before) (fails : value p = .error x)
    (read : Table Json) : collect value read (before ++ p :: after) = .error x := by
  induction before generalizing read with
  | nil =>
      rw [List.nil_append, collect, fails]
      rfl
  | cons q before ih =>
      obtain ⟨⟨v, resolved⟩, rest⟩ := List.forall_mem_cons.mp passed
      rw [List.cons_append, collect, resolved]
      exact ih rest (read.insert q.name v)

/-- Of several parameters with one name the last one is written last, so its value stays. -/
theorem collects_entries (all : AllResolve value ps) :
    Collects value ps (.ofList (entries value ps)) where
  sorted := Table.sorted_ofList _
  names k := by
    rw [Table.get?_ofList, Ne, Table.last?_eq_none_iff, names_entries all, Decidable.not_not]
  last before p after split last := by
    subst split
    obtain ⟨_, member⟩ := List.forall_mem_append.mp all
    obtain ⟨⟨v, resolved⟩, rest⟩ := List.forall_mem_cons.mp member
    refine ⟨v, resolved, ?_⟩
    have parts : entries value (before ++ p :: after) =
        entries value before ++ (p.name, v) :: entries value after := by
      rw [← entries_cons_of_ok resolved]
      exact List.filterMap_append
    rw [Table.get?_ofList, parts]
    refine Table.last?_append_cons ?_
    rwa [names_entries rest]

/-- There is only one table of the values. -/
theorem Collects.unique {t t' : Table Json} (collects : Collects value ps t)
    (collects' : Collects value ps t') : t = t' := by
  refine Table.ext_of_sorted collects.sorted collects'.sorted fun k => ?_
  by_cases named : k ∈ ps.map (·.name)
  · -- The last parameter of the name gives the value in both tables.
    obtain ⟨before, p, after, split, rfl, last⟩ := exists_last_of_name named
    obtain ⟨v, resolved, found⟩ := collects.last before p after split last
    obtain ⟨v', resolved', found'⟩ := collects'.last before p after split last
    rw [resolved] at resolved'
    rw [found, found', Except.ok.inj resolved']
  · rw [Decidable.not_not.mp (mt (collects.names k).mp named),
      Decidable.not_not.mp (mt (collects'.names k).mp named)]

/-- Collecting parameters gives what they come to. -/
theorem collect_eq_iff {outcome : Except ResolutionError (Table Json)} :
    collect value [] ps = outcome ↔ Collection value ps outcome := by
  constructor
  · rintro rfl
    rcases allResolve_or_first_fails value ps with all | ⟨before, p, after, x, rfl, passed, fails⟩
    · rw [collect_of_allResolve all]
      exact .complete all (collects_entries all)
    · rw [collect_of_first_fails passed fails]
      exact .failed rfl passed fails
  · rintro (⟨all, collects⟩ | ⟨rfl, passed, fails⟩)
    · rw [collect_of_allResolve all]
      exact congrArg _ ((collects_entries all).unique collects)
    · exact collect_of_first_fails passed fails []

end ProcessStep.Definition.Parameter
