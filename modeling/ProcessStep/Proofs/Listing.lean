import ProcessStep.Proofs.Snapshots

/-!
Flows by their ids. `Listed` says which flows of an activity a list of ids stands for,
`FirstUnknown` which of the ids is the first that no flow has. `Fault` says what can be wrong with
the flows that a snapshot lists at one side of an activity. Taking up a snapshot fails exactly with
the faults at the inbound side, or else with those at the outbound side (`applyState_eq_error_iff`).
-/

namespace ProcessStep

open Definition (Flow)

/-- The key under which a snapshot lists the flows at a side. -/
def Direction.key : Direction → String
  | .inbound => Snapshot.inboundKey
  | .outbound => Snapshot.outboundKey

def Activity.side (a : Activity) : Direction → List Flow
  | .inbound => a.inbound
  | .outbound => a.outbound

/-- In a linked process the flows at a side have different ids. -/
theorem LinkedProcess.distinct_side {d : Definition.Process} {p : LinkedProcess} {a : Activity}
    (linked : link d = .ok p) (member : a ∈ p.activities) (side : Direction) :
    ((a.side side).map (·.id)).Nodup := by
  obtain ⟨inbound, outbound⟩ := distinct_flows linked member
  cases side with
  | inbound => exact inbound
  | outbound => exact outbound

/-! ### Ids in snapshots -/

namespace Snapshot

variable {s : Snapshot} {key : String} {ids : List String} {d : Direction} {live : List Flow}

/-- The snapshot lists ids of flows at a side. -/
def Lists (s : Snapshot) (d : Direction) (ids : List String) : Prop :=
  Table.get? s d.key = some (.texts ids)

/-- The snapshot lists ids of flows at a side, or has nothing about them. -/
def IsReadable (s : Snapshot) (d : Direction) : Prop :=
  ∀ v, Table.get? s d.key = some v → ∃ ids, v = .texts ids

/-- All ids that the snapshot lists for a side are those of flows. -/
def ListsOnly (s : Snapshot) (d : Direction) (live : List Flow) : Prop :=
  ∀ ids, s.Lists d ids → ∀ id ∈ ids, id ∈ live.map (·.id)

theorem texts_injective {ids ids' : List String} (same : Json.texts ids = .texts ids') :
    ids = ids' := by
  have read := allTexts?_texts ids
  rw [same, allTexts?_texts] at read
  exact (Option.some.inj read).symm

theorem Lists.unique {ids' : List String} (lists : s.Lists d ids) (lists' : s.Lists d ids') :
    ids = ids' :=
  texts_injective (Option.some.inj (lists.symm.trans lists'))

/-- A value has texts to be read only if it is a list of texts. -/
theorem eq_texts_of_allTexts? {v : Json} (read : allTexts? v = some ids) : v = .texts ids := by
  obtain ⟨items, found, texts⟩ := Option.bind_eq_some_iff.mp read
  cases v with
  | arr =>
      cases found
      refine congrArg Json.arr ?_
      clear read
      induction items generalizing ids with
      | nil =>
          cases texts
          rfl
      | cons v items ih =>
          rw [List.mapM_cons] at texts
          obtain ⟨id, first, rest⟩ := Option.bind_eq_some_iff.mp texts
          obtain ⟨ids', later, same⟩ := Option.bind_eq_some_iff.mp rest
          cases same
          rw [ih later, List.map_cons]
          cases v with
          | str s =>
              cases first
              rfl
          | _ => cases first
  | _ => cases found

/-- A value that is no list of texts is quoted in the error. -/
theorem flowIds_of_malformed {v : Json} (given : Table.get? s key = some v)
    (malformed : ∀ ids, v ≠ .texts ids) : s.flowIds key = .error (.notFlowIds key v) := by
  cases read : allTexts? v with
  | none => simp [flowIds, given, read]
  | some ids => exact absurd (eq_texts_of_allTexts? read) (malformed ids)

end Snapshot

/-! ### Flows that ids stand for -/

/-- The flows of `live` that ids stand for, in the order of the ids and as often as they are
there. Ids that no flow has stand for nothing. -/
structure Listed (live : List Flow) (ids : List String) (fs : List Flow) : Prop where
  ids : fs.map (·.id) = ids.filter (· ∈ live.map (·.id))
  live : ∀ f ∈ fs, f ∈ live

/-- The first of the ids that no flow has. -/
def FirstUnknown (live : List Flow) (ids : List String) (id : String) : Prop :=
  ∃ before after, ids = before ++ id :: after ∧ (∀ i ∈ before, i ∈ live.map (·.id)) ∧
    id ∉ live.map (·.id)

section Ids

variable {live fs : List Flow} {ids : List String} {id : String}

theorem Listed.nil (live : List Flow) : Listed live [] [] := ⟨rfl, fun _ none => nomatch none⟩

theorem Listed.cons {f : Flow} (found : f ∈ live) (listed : Listed live ids fs) :
    Listed live (f.id :: ids) (f :: fs) where
  ids := by
    have known : f.id ∈ live.map (·.id) := List.mem_map_of_mem found
    rw [List.map_cons, listed.ids, List.filter_cons_of_pos (by simpa using known)]
  live := List.forall_mem_cons.mpr ⟨found, listed.live⟩

/-- An id that no flow has can be left out. -/
theorem Listed.skip (unknown : id ∉ live.map (·.id)) (listed : Listed live ids fs) :
    Listed live (id :: ids) fs where
  ids := by rw [listed.ids, List.filter_cons_of_neg (by simpa using unknown)]
  live := listed.live

/-- The flows are found under the ids one by one. -/
theorem Listed.map_some (distinct : (live.map (·.id)).Nodup) (listed : Listed live ids fs) :
    fs.map some =
      (ids.filter (· ∈ live.map (·.id))).map fun id => live.find? (·.id = id) := by
  rw [← listed.ids, List.map_map]
  exact List.map_congr_left fun f member => (Flow.find?_id distinct (listed.live f member)).symm

/-- Ids stand for one list of flows only. -/
theorem Listed.unique {fs' : List Flow} (distinct : (live.map (·.id)).Nodup)
    (listed : Listed live ids fs) (listed' : Listed live ids fs') : fs = fs' := by
  refine (List.map_inj_right fun _ _ => Option.some.inj).mp ?_
  rw [listed.map_some distinct, listed'.map_some distinct]

/-- The first unknown id is the first id, or one behind a known id. -/
theorem firstUnknown_cons {i : String} :
    FirstUnknown live (i :: ids) id ↔
      (i ∉ live.map (·.id) ∧ id = i) ∨ (i ∈ live.map (·.id) ∧ FirstUnknown live ids id) := by
  constructor
  · rintro ⟨_ | ⟨j, before⟩, after, split, known, unknown⟩
    · cases split
      exact .inl ⟨unknown, rfl⟩
    · cases split
      obtain ⟨first, rest⟩ := List.forall_mem_cons.mp known
      exact .inr ⟨first, before, after, rfl, rest, unknown⟩
  · rintro (⟨unknown, rfl⟩ | ⟨first, before, after, rfl, known, unknown⟩)
    · exact ⟨[], ids, rfl, by simp, unknown⟩
    · exact ⟨i :: before, after, rfl, List.forall_mem_cons.mpr ⟨first, known⟩, unknown⟩

/-- Unless there is a first unknown id, all are known. -/
theorem exists_firstUnknown_iff :
    (∃ id, FirstUnknown live ids id) ↔ ¬∀ id ∈ ids, id ∈ live.map (·.id) := by
  induction ids with
  | nil =>
      constructor
      · rintro ⟨id, before, after, split, _⟩
        simp at split
      · intro some
        exact absurd (by simp) some
  | cons i ids ih =>
      rw [List.forall_mem_cons]
      simp only [firstUnknown_cons]
      by_cases known : i ∈ live.map (·.id)
      · simp only [known, not_true_eq_false, false_and, true_and, false_or]
        exact ih
      · simp [known]

end Ids

namespace Execution

variable {e : Execution} {s : Snapshot} {d : Direction} {live fs : List Flow} {ids : List String}
  {x : ExecutionError}

/-! ### Restoring -/

/-- What is restored is what the ids stand for, under either policy. -/
theorem listed_of_restoreFlows (restored : e.restoreFlows d live ids = .ok fs) :
    Listed live ids fs := by
  induction ids generalizing fs with
  | nil =>
      cases restored
      exact .nil live
  | cons id ids ih =>
      unfold restoreFlows at restored
      split at restored
      · next f found =>
          cases later : e.restoreFlows d live ids with
          | error x =>
              rw [later] at restored
              cases restored
          | ok fs' =>
              rw [later] at restored
              cases restored
              obtain rfl : f.id = id := by simpa using List.find?_some found
              exact (ih later).cons (List.mem_of_find?_eq_some found)
      · next unknown _ => exact (ih restored).skip (by simpa using unknown)
      · cases restored

/-- Restoring fails under a strict policy only, at the first id that no flow has. -/
theorem restoreFlows_eq_error_iff :
    e.restoreFlows d live ids = .error x ↔
      e.config.restorePolicy = .strict ∧
        ∃ id, FirstUnknown live ids id ∧ x = .unknownFlow e.id d id := by
  induction ids with
  | nil =>
      constructor
      · intro fails
        cases fails
      · rintro ⟨_, id, ⟨before, after, split, _⟩, _⟩
        simp at split
  | cons i ids ih =>
      simp only [firstUnknown_cons]
      cases found : live.find? (·.id = i) with
      | some f =>
          have known : i ∈ live.map (·.id) := by
            obtain rfl : f.id = i := by simpa using List.find?_some found
            exact List.mem_map_of_mem (List.mem_of_find?_eq_some found)
          have first : e.restoreFlows d live (i :: ids) =
              (e.restoreFlows d live ids).map (f :: ·) := by
            rw [restoreFlows, found]
            cases e.restoreFlows d live ids <;> rfl
          simp only [known, not_true_eq_false, false_and, true_and, false_or]
          rw [first, ← ih]
          cases e.restoreFlows d live ids <;> simp [Except.map]
      | none =>
          have unknown : i ∉ live.map (·.id) := by simpa using found
          simp only [unknown, not_false_eq_true, true_and, false_and, or_false]
          rw [restoreFlows, found]
          cases policy : e.config.restorePolicy with
          | lenient =>
              dsimp only
              rw [ih, policy]
              simp
          | strict => simp [eq_comm]

/-- What is wrong with the flows at one side that a snapshot lists. -/
inductive Fault (e : Execution) (s : Snapshot) (d : Direction) : ExecutionError → Prop where
  | malformed {v : Json} (given : Table.get? s d.key = some v)
      (malformed : ∀ ids, v ≠ .texts ids) : Fault e s d (.invalidState (.notFlowIds d.key v))
  | unknown {ids : List String} {id : String} (strict : e.config.restorePolicy = .strict)
      (lists : s.Lists d ids) (first : FirstUnknown (e.activity.side d) ids id) :
      Fault e s d (.unknownFlow e.id d id)

def flowsListed (e : Execution) (s : Snapshot) (d : Direction) :
    Except ExecutionError (Option (List Flow)) :=
  e.flowsIn d (e.activity.side d) (s.flowIds d.key)

theorem flowsListed_of_absent (absent : Table.get? s d.key = none) :
    e.flowsListed s d = .ok none := by
  rw [flowsListed, Snapshot.flowIds_of_absent absent]
  rfl

theorem flowsListed_of_lists (lists : s.Lists d ids) :
    e.flowsListed s d = (e.restoreFlows d (e.activity.side d) ids).map some := by
  rw [flowsListed, Snapshot.flowIds_of_texts lists]
  rfl

theorem flowsListed_of_malformed {v : Json} (given : Table.get? s d.key = some v)
    (malformed : ∀ ids, v ≠ .texts ids) :
    e.flowsListed s d = .error (.invalidState (.notFlowIds d.key v)) := by
  rw [flowsListed, Snapshot.flowIds_of_malformed given malformed]
  rfl

/-- A snapshot has nothing about the flows at a side, lists ids of them, or has something else. -/
theorem listing_cases (s : Snapshot) (d : Direction) :
    Table.get? s d.key = none ∨ (∃ ids, s.Lists d ids) ∨
      ∃ v, Table.get? s d.key = some v ∧ ∀ ids, v ≠ .texts ids := by
  cases given : Table.get? s d.key with
  | none => exact .inl rfl
  | some v =>
      by_cases texts : ∃ ids, v = .texts ids
      · obtain ⟨ids, rfl⟩ := texts
        exact .inr (.inl ⟨ids, given⟩)
      · exact .inr (.inr ⟨v, rfl, fun ids same => texts ⟨ids, same⟩⟩)

/-- Only where a snapshot has nothing about a side, no flows are restored without an error. -/
theorem absent_of_flowsListed (nothing : e.flowsListed s d = .ok none) :
    Table.get? s d.key = none := by
  rcases listing_cases s d with absent | ⟨ids, lists⟩ | ⟨v, given, malformed⟩
  · exact absent
  · rw [flowsListed_of_lists lists] at nothing
    cases restored : e.restoreFlows d (e.activity.side d) ids with
    | error x =>
        rw [restored] at nothing
        cases nothing
    | ok fs =>
        rw [restored] at nothing
        cases nothing
  · rw [flowsListed_of_malformed given malformed] at nothing
    cases nothing

/-- Reading the listed flows fails exactly with the fault of the snapshot. -/
theorem flowsListed_eq_error_iff : e.flowsListed s d = .error x ↔ e.Fault s d x := by
  rcases listing_cases s d with absent | ⟨ids, lists⟩ | ⟨v, given, malformed⟩
  · rw [flowsListed_of_absent absent]
    constructor
    · intro fails
      cases fails
    · rintro (⟨given, _⟩ | ⟨_, lists, _⟩)
      · cases absent.symm.trans given
      · cases absent.symm.trans lists
  · have same : e.flowsListed s d = .error x ↔
        e.restoreFlows d (e.activity.side d) ids = .error x := by
      rw [flowsListed_of_lists lists]
      cases e.restoreFlows d (e.activity.side d) ids <;> simp [Except.map]
    rw [same, restoreFlows_eq_error_iff]
    constructor
    · rintro ⟨strict, id, first, rfl⟩
      exact .unknown strict lists first
    · rintro (⟨given, malformed⟩ | ⟨strict, lists', first⟩)
      · exact absurd (Option.some.inj (given.symm.trans lists)) (malformed ids)
      · cases lists.unique lists'
        exact ⟨strict, _, first, rfl⟩
  · rw [flowsListed_of_malformed given malformed]
    constructor
    · rintro ⟨⟩
      exact .malformed given malformed
    · rintro (⟨given', _⟩ | ⟨_, lists, _⟩)
      · cases given.symm.trans given'
        rfl
      · exact absurd (Option.some.inj (given.symm.trans lists)) (malformed _)

/-- Flows are restored exactly where a snapshot lists some, and they are the listed ones. -/
theorem listed_of_flowsListed (restored : e.flowsListed s d = .ok (some fs)) :
    ∃ ids, s.Lists d ids ∧ Listed (e.activity.side d) ids fs := by
  rcases listing_cases s d with absent | ⟨ids, lists⟩ | ⟨v, given, malformed⟩
  · rw [flowsListed_of_absent absent] at restored
    cases restored
  · rw [flowsListed_of_lists lists] at restored
    cases found : e.restoreFlows d (e.activity.side d) ids with
    | error x =>
        rw [found] at restored
        cases restored
    | ok fs' =>
        rw [found] at restored
        cases restored
        exact ⟨ids, lists, listed_of_restoreFlows found⟩
  · rw [flowsListed_of_malformed given malformed] at restored
    cases restored

/-! ### Taking up a snapshot -/

/-- Taking up a snapshot fails with what is wrong at the inbound side; what is wrong at the outbound
side is only noticed when nothing is wrong there. -/
theorem applyState_eq_error_iff :
    (e.applyState s).1 = .error x ↔
      e.Fault s .inbound x ∨ (∀ y, ¬e.Fault s .inbound y) ∧ e.Fault s .outbound x := by
  simp only [← flowsListed_eq_error_iff]
  rcases e.applyState_cases s with ⟨y, inbound, same⟩ | ⟨fs, y, inbound, outbound, same⟩ |
    ⟨fs, fs', inbound, outbound, same⟩
  · have fails : e.flowsListed s .inbound = .error y := inbound
    simp [same, fails]
  · have restores : e.flowsListed s .inbound = .ok fs := inbound
    have fails : e.flowsListed s .outbound = .error y := outbound
    simp [same, restores, fails]
  · have restores : e.flowsListed s .inbound = .ok fs := inbound
    have restores' : e.flowsListed s .outbound = .ok fs' := outbound
    simp [same, restores, restores']

/-- A snapshot is refused only for what is wrong with it at one side. -/
theorem exists_fault_of_refused (refused : (e.applyState s).1 = .error x) :
    ∃ d, e.Fault s d x := by
  rcases applyState_eq_error_iff.mp refused with fault | ⟨_, fault⟩
  · exact ⟨.inbound, fault⟩
  · exact ⟨.outbound, fault⟩

/-- A snapshot is taken up exactly if nothing is wrong with what it lists. -/
theorem applyState_eq_ok_iff : (e.applyState s).1 = .ok () ↔ ∀ d x, ¬e.Fault s d x := by
  constructor
  · intro applied d x fault
    have refused : ∃ y, (e.applyState s).1 = .error y := by
      by_cases first : ∃ y, e.Fault s .inbound y
      · obtain ⟨y, fault⟩ := first
        exact ⟨y, applyState_eq_error_iff.mpr (.inl fault)⟩
      · have none : ∀ y, ¬e.Fault s .inbound y := fun y fault => first ⟨y, fault⟩
        cases d with
        | inbound => exact absurd fault (none x)
        | outbound => exact ⟨x, applyState_eq_error_iff.mpr (.inr ⟨none, fault⟩)⟩
    obtain ⟨y, refused⟩ := refused
    cases applied.symm.trans refused
  · intro faultless
    cases outcome : (e.applyState s).1 with
    | ok => rfl
    | error x =>
        obtain ⟨d, fault⟩ := exists_fault_of_refused outcome
        exact absurd fault (faultless d x)

end Execution

end ProcessStep
