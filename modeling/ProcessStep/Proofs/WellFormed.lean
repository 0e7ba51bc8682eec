import ProcessStep.Proofs.Linking

/-!
Which definitions can be linked, and what is blamed for the others. `WellFormed` and `Blames` say
so without a look at how a definition is checked: the first activity whose id was used before is
blamed, or else the first flow that does not fit, or else the first activity that several default
flows leave. `link_decides` says that linking agrees with both, and that there is always a
process or something to blame.
-/

namespace ProcessStep

open Definition (Flow)

namespace Definition.Process

variable (d : Process)

/-- The ids of the activities, in the order of the definition. -/
def activityIds : List String := d.activities.map (·.id)

/-- The flow leads from an activity of the definition to an activity of the definition. -/
def Joins (f : Flow) : Prop := f.source ∈ d.activityIds ∧ f.target ∈ d.activityIds

/-- Flows with different ids that lead from activities to activities. -/
structure Fit (fs : List Flow) : Prop where
  distinct : (fs.map (·.id)).Nodup
  joined : ∀ f ∈ fs, d.Joins f

/-- The ids of the default flows that leave an activity, in the order of the definition. -/
def defaultsFrom (activity : String) : List String :=
  (d.flows.filter fun f => f.source = activity ∧ f.isDefault).map (·.id)

/-- A definition whose parts fit together. -/
structure WellFormed : Prop where
  activities : d.activityIds.Nodup
  flows : d.Fit d.flows
  defaults : ∀ a ∈ d.activities, (d.defaultsFrom a.id).length ≤ 1

/-- What is to be blamed for a definition whose parts do not fit together. All that stands before
the part to be blamed is without fault. -/
inductive Blames : ProcessError → Prop where
  | duplicateActivity {before after : List Activity} {a : Activity}
      (split : d.activities = before ++ a :: after) (distinct : (before.map (·.id)).Nodup)
      (repeated : a.id ∈ before.map (·.id)) : Blames (.duplicateActivity a.id)
  | duplicateFlow {before after : List Flow} {f : Flow} (activities : d.activityIds.Nodup)
      (split : d.flows = before ++ f :: after) (fit : d.Fit before)
      (repeated : f.id ∈ before.map (·.id)) : Blames (.duplicateFlow f.id)
  | unknownEnd {before after : List Flow} {f : Flow} (activities : d.activityIds.Nodup)
      (split : d.flows = before ++ f :: after) (fit : d.Fit before)
      (new : f.id ∉ before.map (·.id)) (loose : ¬ d.Joins f) :
      Blames (.unknownEnd f.id f.source f.target)
  | multipleDefaults {before after : List Activity} {a : Activity}
      (activities : d.activityIds.Nodup) (flows : d.Fit d.flows)
      (split : d.activities = before ++ a :: after)
      (single : ∀ a' ∈ before, (d.defaultsFrom a'.id).length ≤ 1)
      (several : 1 < (d.defaultsFrom a.id).length) :
      Blames (.multipleDefaults a.id (d.defaultsFrom a.id))

end Definition.Process

namespace LinkedProcess

/-! ### The first fault of a list -/

/-- Going through a list up to the first element with a fault, with what is remembered of the
elements before it. -/
theorem firstFault_eq_some_iff {α σ ε : Type} {go : σ → List α → Option ε}
    {fault : σ → α → Option ε} {next : σ → α → σ} (nil : ∀ s, go s [] = none)
    (cons : ∀ s x xs, go s (x :: xs) = (fault s x).or (go (next s x) xs)) {s : σ} {xs : List α}
    {e : ε} :
    go s xs = some e ↔
      ∃ before x after, xs = before ++ x :: after ∧ go s before = none ∧
        fault (before.foldl next s) x = some e := by
  induction xs generalizing s with
  | nil => simp [nil]
  | cons x xs ih =>
      rw [cons]
      cases here : fault s x with
      | some e' =>
          constructor
          · intro found
            exact ⟨[], x, xs, rfl, nil s, here.trans found⟩
          · rintro ⟨_ | ⟨y, before⟩, z, after, split, passed, found⟩
            · cases split
              exact here.symm.trans found
            · cases split
              rw [cons, here] at passed
              cases passed
      | none =>
          rw [Option.none_or, ih]
          constructor
          · rintro ⟨before, y, after, rfl, passed, found⟩
            exact ⟨x :: before, y, after, rfl, by rw [cons, here, passed]; rfl, found⟩
          · rintro ⟨_ | ⟨y, before⟩, z, after, split, passed, found⟩
            · cases split
              cases here.symm.trans found
            · cases split
              rw [cons, here, Option.none_or] at passed
              exact ⟨before, z, after, rfl, passed, found⟩

/-! ### Activities with one id -/

/-- What is wrong with an id after the ids `seen`. -/
def repeated? (seen : List String) (id : String) : Option String :=
  if id ∈ seen then some id else none

theorem firstRepeated?_cons (seen : List String) (id : String) (ids : List String) :
    firstRepeated? seen (id :: ids) = (repeated? seen id).or (firstRepeated? (id :: seen) ids) := by
  rw [firstRepeated?, repeated?]
  by_cases used : id ∈ seen <;> simp [used]

/-- No id is repeated exactly if all are distinct and new. -/
theorem firstRepeated?_eq_none_iff {seen ids : List String} :
    firstRepeated? seen ids = none ↔ ids.Nodup ∧ ∀ id ∈ ids, id ∉ seen := by
  induction ids generalizing seen with
  | nil => simp [firstRepeated?]
  | cons id ids ih =>
      rw [firstRepeated?_cons, Option.or_eq_none_iff, ih, List.nodup_cons, List.forall_mem_cons]
      simp only [repeated?, ite_eq_right_iff, reduceCtorEq, imp_false, List.mem_cons, not_or]
      grind

theorem firstRepeated?_eq_some_iff {ids : List String} {id : String} :
    firstRepeated? [] ids = some id ↔
      ∃ before after, ids = before ++ id :: after ∧ before.Nodup ∧ id ∈ before := by
  rw [firstFault_eq_some_iff (fun _ => rfl) firstRepeated?_cons]
  simp only [List.foldl_flip_cons_eq_append (f := fun id : String => id)]
  constructor
  · rintro ⟨before, id', after, split, passed, found⟩
    obtain ⟨used, rfl⟩ : id' ∈ before ∧ id' = id := by
      simpa [repeated?] using found
    exact ⟨before, after, split, (firstRepeated?_eq_none_iff.mp passed).1, used⟩
  · rintro ⟨before, after, split, distinct, used⟩
    exact ⟨before, id, after, split, firstRepeated?_eq_none_iff.mpr ⟨distinct, by simp⟩,
      by simpa [repeated?] using used⟩

/-! ### Flows that do not fit -/

variable {d : Definition.Process} {x : ProcessError}

theorem faultyFlow?_eq_none_iff_fit {fs : List Flow} :
    faultyFlow? d.activityIds [] fs = none ↔ d.Fit fs := by
  rw [faultyFlow?_eq_none_iff]
  simp only [flowFault?_eq_none_iff, List.not_mem_nil, not_false_eq_true, true_and]
  exact ⟨fun ⟨distinct, joined⟩ => ⟨distinct, joined⟩, fun fit => ⟨fit.distinct, fit.joined⟩⟩

/-- The flow to be blamed is the first one with a fault, and those before it fit. -/
theorem faultyFlow?_eq_some_iff :
    faultyFlow? d.activityIds [] d.flows = some x ↔
      ∃ before f after, d.flows = before ++ f :: after ∧ d.Fit before ∧
        flowFault? d.activityIds (before.map (·.id)) f = some x := by
  have sameFault (before : List Flow) (f : Flow) :
      flowFault? d.activityIds (before.map (·.id)).reverse f =
        flowFault? d.activityIds (before.map (·.id)) f := by
    simp only [flowFault?, List.mem_reverse]
  rw [firstFault_eq_some_iff (fun _ => rfl) (faultyFlow?_cons d.activityIds)]
  simp only [List.foldl_flip_cons_eq_append, List.append_nil, sameFault,
    faultyFlow?_eq_none_iff_fit]

/-! ### Default flows -/

theorem defaultIds_link (d : Definition.Process) (a : Definition.Activity) :
    (Activity.link d.flows a).defaultIds = d.defaultsFrom a.id := by
  simp only [Activity.defaultIds, Activity.link, Definition.Process.defaultsFrom,
    List.filter_filter, Bool.decide_and, Bool.decide_eq_true, Bool.and_comm]

theorem ambiguousDefault?_eq (d : Definition.Process) (as : List Definition.Activity) :
    ambiguousDefault? (as.map (Activity.link d.flows)) =
      (as.find? fun a => 1 < (d.defaultsFrom a.id).length).map fun a =>
        .multipleDefaults a.id (d.defaultsFrom a.id) := by
  induction as with
  | nil => rfl
  | cons a as ih =>
      have id : (Activity.link d.flows a).id = a.id := rfl
      rw [List.map_cons, ambiguousDefault?, List.find?_cons, defaultIds_link, ih, id]
      by_cases several : 1 < (d.defaultsFrom a.id).length <;> simp [several]

theorem ambiguousDefault?_eq_none_iff :
    ambiguousDefault? (d.activities.map (Activity.link d.flows)) = none ↔
      ∀ a ∈ d.activities, (d.defaultsFrom a.id).length ≤ 1 := by
  simp [ambiguousDefault?_eq]

/-- The activity to be blamed is the first one that several default flows leave. -/
theorem ambiguousDefault?_eq_some_iff :
    ambiguousDefault? (d.activities.map (Activity.link d.flows)) = some x ↔
      ∃ before a after, d.activities = before ++ a :: after ∧
        (∀ a' ∈ before, (d.defaultsFrom a'.id).length ≤ 1) ∧
        1 < (d.defaultsFrom a.id).length ∧ .multipleDefaults a.id (d.defaultsFrom a.id) = x := by
  rw [ambiguousDefault?_eq, Option.map_eq_some_iff]
  simp only [List.find?_eq_some_iff_append, decide_eq_true_eq, Bool.not_eq_true',
    decide_eq_false_iff_not, Nat.not_lt]
  constructor
  · rintro ⟨a, ⟨several, before, after, split, single⟩, rfl⟩
    exact ⟨before, a, after, split, single, several, rfl⟩
  · rintro ⟨before, a, after, split, single, several, rfl⟩
    exact ⟨a, ⟨several, before, after, split, single⟩, rfl⟩

/-! ### Linking -/

/-- The first problem of a definition, activities before flows and flows before defaults. -/
def problem? (d : Definition.Process) : Option ProcessError :=
  ((firstRepeated? [] d.activityIds).map .duplicateActivity).or <|
    (faultyFlow? d.activityIds [] d.flows).or <|
      ambiguousDefault? (d.activities.map (Activity.link d.flows))

/-- Linking fails with the first problem of a definition, and only with that. -/
theorem link_eq (d : Definition.Process) :
    link d = (problem? d).elim
      (.ok { id := d.id, name := d.name, activities := d.activities.map (Activity.link d.flows),
             places := .ofList d.activityIds.zipIdx,
             flows := .ofList (d.flows.map fun f => (f.id, f)),
             graph := .ofFlows d.activityIds d.flows })
      .error := by
  unfold link problem?
  dsimp only [Definition.Process.activityIds]
  cases firstRepeated? [] (d.activities.map (·.id)) with
  | some id => rfl
  | none =>
      cases faultyFlow? (d.activities.map (·.id)) [] d.flows with
      | some x => rfl
      | none => cases ambiguousDefault? (d.activities.map (Activity.link d.flows)) <;> rfl

/-- A definition without a problem is well formed. -/
theorem problem?_eq_none_iff : problem? d = none ↔ d.WellFormed := by
  simp only [problem?, Option.or_eq_none_iff, Option.map_eq_none_iff, firstRepeated?_eq_none_iff,
    faultyFlow?_eq_none_iff_fit, ambiguousDefault?_eq_none_iff]
  constructor
  · rintro ⟨⟨activities, _⟩, flows, defaults⟩
    exact ⟨activities, flows, defaults⟩
  · rintro ⟨activities, flows, defaults⟩
    exact ⟨⟨activities, fun _ _ none => nomatch none⟩, flows, defaults⟩

/-- The problem that is found is the one to be blamed. -/
theorem problem?_eq_some_iff : problem? d = some x ↔ d.Blames x := by
  simp only [problem?, Option.or_eq_some_iff, Option.map_eq_some_iff, Option.map_eq_none_iff,
    firstRepeated?_eq_none_iff, faultyFlow?_eq_none_iff_fit]
  constructor
  · rintro (⟨id, repeated, rfl⟩ | ⟨⟨activities, _⟩, faulty | ⟨flows, ambiguous⟩⟩)
    · obtain ⟨_, _, ids, distinct, used⟩ := firstRepeated?_eq_some_iff.mp repeated
      obtain ⟨before, rest, split, rfl, last⟩ := List.map_eq_append_iff.mp ids
      obtain ⟨a, after, rfl, rfl, -⟩ := List.map_eq_cons_iff.mp last
      exact .duplicateActivity split distinct used
    · obtain ⟨before, f, after, split, fit, fault⟩ := faultyFlow?_eq_some_iff.mp faulty
      unfold flowFault? at fault
      split at fault
      · next used =>
          cases fault
          exact .duplicateFlow activities split fit used
      · next new =>
          split at fault
          · cases fault
          · next loose =>
              cases fault
              exact .unknownEnd activities split fit new loose
    · obtain ⟨before, a, after, split, single, several, rfl⟩ :=
        ambiguousDefault?_eq_some_iff.mp ambiguous
      exact .multipleDefaults activities flows split single several
  · have unseen : ∀ id ∈ d.activityIds, id ∉ [] := fun _ _ none => nomatch none
    rintro (⟨split, distinct, used⟩ | ⟨activities, split, fit, used⟩ |
      ⟨activities, split, fit, new, loose⟩ | ⟨activities, flows, split, single, several⟩)
    · have ids := congrArg (List.map (·.id)) split
      rw [List.map_append, List.map_cons] at ids
      exact .inl ⟨_, firstRepeated?_eq_some_iff.mpr ⟨_, _, ids, distinct, used⟩, rfl⟩
    · refine .inr ⟨⟨activities, unseen⟩, .inl ?_⟩
      exact faultyFlow?_eq_some_iff.mpr ⟨_, _, _, split, fit, if_pos used⟩
    · refine .inr ⟨⟨activities, unseen⟩, .inl ?_⟩
      exact faultyFlow?_eq_some_iff.mpr ⟨_, _, _, split, fit, (if_neg new).trans (if_neg loose)⟩
    · refine .inr ⟨⟨activities, unseen⟩, .inr ⟨flows, ?_⟩⟩
      exact ambiguousDefault?_eq_some_iff.mpr ⟨_, _, _, split, single, several, rfl⟩

/-- A definition that could be linked is well-formed. -/
theorem wellFormed_of_link {p : LinkedProcess} (linked : link d = .ok p) : d.WellFormed := by
  rw [link_eq] at linked
  refine problem?_eq_none_iff.mp ?_
  cases problem : problem? d with
  | none => rfl
  | some x =>
      rw [problem] at linked
      cases linked

/-- No two default flows leave an activity of a linked process. -/
theorem single_default {p : LinkedProcess} {a : Activity} (linked : link d = .ok p)
    (member : a ∈ p.activities) : ∀ f ∈ a.outbound, ∀ g ∈ a.outbound,
      f.isDefault = true → g.isDefault = true → f = g := by
  have single := (wellFormed_of_link linked).defaults
  rw [(of_link linked).1] at member
  obtain ⟨activity, defined, rfl⟩ := List.mem_map.mp member
  intro f leaves g leaves' isDefault isDefault'
  have first := List.mem_filter.mpr ⟨leaves, isDefault⟩
  have second := List.mem_filter.mpr ⟨leaves', isDefault'⟩
  have few := single activity defined
  rw [← defaultIds_link, Activity.defaultIds, List.length_map] at few
  obtain ⟨only, all⟩ := List.length_eq_one_iff.mp
    (Nat.le_antisymm few (List.length_pos_of_mem first))
  rw [all, List.mem_singleton] at first second
  exact first.trans second.symm

/-- Linking decides whether a definition is well-formed: it makes a process of exactly those that
are, and for any other it reports exactly what is to be blamed. -/
theorem link_decides (d : Definition.Process) :
    ((∃ p, link d = .ok p) ↔ d.WellFormed) ∧ ∀ x, link d = .error x ↔ d.Blames x := by
  rw [link_eq]
  constructor
  · rw [← problem?_eq_none_iff]
    cases problem? d <;> simp
  · intro x
    rw [← problem?_eq_some_iff]
    cases problem? d <;> simp

end LinkedProcess

end ProcessStep
