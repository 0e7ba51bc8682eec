import ProcessStep.Proofs.Merging

/-!
Where the entries of a snapshot come from. Under every key a snapshot has the entry of the first
source that has one (`get?_state`): what was saved last, what the caller gives, what the execution
itself writes (`written?`), and the state of the activity. What was saved last is read off the
operations that led to the execution (`savedState_of_reachedBy`), and of the other sources an
operation changes at most what the execution writes of its form and of its outbound flows
(`written?_effect`).
-/

namespace ProcessStep

open Definition (Flow)

/-! ### The operations that lead to an execution -/

/-- The executions that can be reached, with all operations that were carried out, in order. -/
inductive ReachedBy (b : Behaviour) (m : Message) (env : Environment) :
    List Operation → Execution → Prop where
  | start (token : String) : ReachedBy b m env [] (.start b m env token)
  | withConfig {ops : List Operation} {e : Execution} (c : ExecutionConfig) :
      ReachedBy b m env ops e → ReachedBy b m env ops (e.withConfig c)
  | triggeredBy {ops : List Operation} {e : Execution} (f : Flow) :
      ReachedBy b m env ops e → ReachedBy b m env ops (e.triggeredBy f)
  | withRootFlow {ops : List Operation} {e : Execution} (root : String) :
      ReachedBy b m env ops e → ReachedBy b m env ops (e.withRootFlow root)
  | perform {ops : List Operation} {e : Execution} (op : Operation) :
      ReachedBy b m env ops e → ReachedBy b m env (ops ++ [op]) (op.effect e)

/-- An execution is reached if some operations lead to it. -/
theorem reached_iff_reachedBy {b : Behaviour} {m : Message} {env : Environment} {e : Execution} :
    Reached (fun _ => True) b m env e ↔ ∃ ops, ReachedBy b m env ops e := by
  constructor
  · intro reached
    induction reached with
    | start token => exact ⟨[], .start token⟩
    | withConfig c _ ih => exact ih.imp fun _ by_ops => by_ops.withConfig c
    | triggeredBy f _ ih => exact ih.imp fun _ by_ops => by_ops.triggeredBy f
    | withRootFlow root _ ih => exact ih.imp fun _ by_ops => by_ops.withRootFlow root
    | @perform e op _ _ ih =>
        obtain ⟨ops, by_ops⟩ := ih
        exact ⟨ops ++ [op], by_ops.perform op⟩
  · rintro ⟨ops, by_ops⟩
    induction by_ops with
    | start token => exact .start token
    | withConfig c _ ih => exact ih.withConfig c
    | triggeredBy f _ ih => exact ih.triggeredBy f
    | withRootFlow root _ ih => exact ih.withRootFlow root
    | perform op _ ih => exact ih.perform trivial

namespace Operation

/-- An operation changes the form that is shown, or shows one. -/
def concernsForm : Operation → Bool
  | .postpone _ | .enterValue _ _ | .restoreForm _ | .replaceForm _ => true
  | _ => false

/-- An operation has no say in the entry under a key: it saves no state, does nothing to a form
that is kept there, and restores no flows that are listed there. -/
structure Leaves (op : Operation) (k : String) : Prop where
  saved : op.saved? = none
  form : k = Snapshot.formKey → op.concernsForm = false
  outbound : k = Snapshot.outboundKey → ∀ s, op = .applyState s → Table.get? s k = none

/-- An operation brings an entry under a key: it saves one, or it binds a form. -/
def brings (op : Operation) (e : Execution) (k : String) : Prop :=
  (∃ s, op = .setState s ∧ (Table.get? s k).isSome) ∨
    k = Snapshot.formKey ∧ ∃ r f, op = .postpone r ∧ e.bindForm.1 = .ok (some f)

end Operation

def lastSaved? (ops : List Operation) : Option Snapshot :=
  (ops.filterMap Operation.saved?).getLast?

/-- The state of the last operation counts if it saves one. -/
theorem lastSaved?_concat (ops : List Operation) (op : Operation) :
    lastSaved? (ops ++ [op]) = op.saved?.or (lastSaved? ops) := by
  unfold lastSaved?
  rw [List.filterMap_append, List.getLast?_append]
  cases saved : op.saved? <;> simp [saved]

theorem setState_mem_of_lastSaved? {ops : List Operation} {s : Snapshot}
    (last : lastSaved? ops = some s) : .setState s ∈ ops := by
  obtain ⟨op, member, saved⟩ := List.mem_filterMap.mp (List.mem_of_getLast? last)
  cases op with
  | setState s' =>
      cases saved
      exact member
  | _ => cases saved

namespace Execution

variable {b : Behaviour} {m : Message} {env : Environment} {e : Execution} {ops : List Operation}
  {k : String}

/-! ### What operations do to the sources -/

/-- The saved state is replaced by operations that save one, and by no others. -/
theorem savedState_effect (op : Operation) (e : Execution) :
    (op.effect e).savedState = op.saved?.or e.savedState := by
  by_cases takes : ∃ s, op = .applyState s
  · obtain ⟨s, rfl⟩ := takes
    exact (congrArg savedState (e.applyState_frame s) :)
  · cases reads : op.reads with
    | true =>
        rw [(Operation.recalls_of_reads reads e).frame]
        cases op <;> first | rfl | cases reads
    | false => rw [Operation.effect_frame reads (not_exists.mp takes)]

/-- An execution keeps the state that was saved last. -/
theorem savedState_of_reachedBy (reached : ReachedBy b m env ops e) :
    e.savedState = lastSaved? ops := by
  induction reached with
  | start token => rfl
  | withConfig _ _ ih | triggeredBy _ _ ih | withRootFlow _ _ ih => exact ih
  | perform op _ ih => rw [savedState_effect, lastSaved?_concat, ih]

/-- The form that is shown stays, also when the step is completed. -/
theorem form?_effect {op : Operation} (other : op.concernsForm = false) (e : Execution) :
    (op.effect e).form? = e.form? := by
  by_cases reads : op.reads = true
  · rw [(Operation.recalls_of_reads reads e).frame]
    rfl
  · cases op with
    | setResult | setState | stop => rfl
    | applyState s =>
        show (e.applyState s).2.form? = e.form?
        rw [e.applyState_frame s]
        rfl
    | complete =>
        show e.complete.2.form? = e.form?
        unfold complete form?
        split <;> simp [*]
    | enterValue | restoreForm | replaceForm | postpone => cases other
    | _ => exact absurd rfl reads

/-! ### The sources of an entry -/

/-- What an execution itself writes under a key: at a fork the ids of the pending outbound flows, in
their order, and the form that is bound. -/
def written? (e : Execution) (k : String) : Option Json :=
  if k = Snapshot.outboundKey then
    if 1 < e.activity.outbound.length then some (.texts (e.pendingOutbound.1.map (·.id)))
    else none
  else if k = Snapshot.formKey then e.form?.map Form.state
  else none

/-- What an execution writes itself goes over the state of the activity. -/
theorem get?_written (e : Execution) (k : String) :
    Table.get? (Table.insertSome (Table.insertSome e.behaviour.state Snapshot.formKey
        (e.form?.map Form.state)) Snapshot.outboundKey e.outboundIds.1) k =
      (e.written? k).or (Table.get? e.behaviour.state k) := by
  rw [Table.get?_insertSome, Table.get?_insertSome, outboundIds_fst]
  unfold written?
  by_cases outbound : k = Snapshot.outboundKey
  · subst outbound
    simp [Activity.isFork, Snapshot.outboundKey, Snapshot.formKey]
  · by_cases form : k = Snapshot.formKey
    · subst form
      simp [Snapshot.outboundKey, Snapshot.formKey]
    · rw [if_neg (Ne.symm outbound), if_neg (Ne.symm form), if_neg outbound, if_neg form,
        Option.none_or]

/-- A snapshot has the entry of the first source that has one. In what was saved and in what the
caller gives the last entry under a key counts. -/
theorem get?_state (e : Execution) (override : Option Snapshot) (k : String) :
    Table.get? (e.state override).1 k =
      (e.savedState.bind (Table.last? · k)).or ((override.bind (Table.last? · k)).or
        ((e.written? k).or (Table.get? e.behaviour.state k))) := by
  have entry (s : Option Snapshot) : Table.last? (s.getD []) k = s.bind (Table.last? · k) := by
    cases s <;> rfl
  rw [← entry, ← entry, ← e.outboundIds_snd, ← get?_written, ← Table.get?_extend,
    ← Table.get?_extend]
  rfl

/-- What an execution writes under a key changes only with its form or its outbound flows. -/
theorem written?_effect {op : Operation} (leaves : op.Leaves k) (e : Execution) :
    (op.effect e).written? k = e.written? k := by
  unfold written?
  by_cases outbound : k = Snapshot.outboundKey
  · have nothing : op.restores e .outbound = none := by
      cases op with
      | applyState s =>
          have absent := leaves.outbound outbound s rfl
          rw [outbound] at absent
          exact restoredBy_of_absent absent
      | _ => rfl
    have pending := pending_effect op e .outbound
    rw [nothing, Option.getD_none] at pending
    rw [if_pos outbound, if_pos outbound, activity, (SameSetup.effect op e).behaviour,
      show (op.effect e).pendingOutbound.1 = e.pendingOutbound.1 from pending]
  · rw [if_neg outbound, if_neg outbound]
    by_cases shown : k = Snapshot.formKey
    · rw [if_pos shown, if_pos shown, form?_effect (leaves.form shown)]
    · rw [if_neg shown, if_neg shown]

/-- A form is shown only if it was shown before or is bound when the step starts to wait. -/
theorem isSome_form?_effect {op : Operation} (shown : (op.effect e).form?.isSome) :
    e.form?.isSome ∨ ∃ r f, op = .postpone r ∧ e.bindForm.1 = .ok (some f) := by
  have edited {α : Type} (edit : Form → α × Form) (shown : (e.editForm edit).2.form?.isSome) :
      e.form?.isSome := by
    unfold editForm at shown
    split at shown
    · exact shown
    · next f found => rw [found, Option.isSome_some]
  cases op with
  | postpone r =>
      change (e.postpone r).2.form?.isSome at shown
      rcases e.postpone_eq r with ⟨x, _, fails⟩ | ⟨f, bound, succeeds⟩
      · rw [fails, e.recalls_bindForm.frame] at shown
        exact .inl shown
      · rw [succeeds] at shown
        obtain ⟨f', rfl⟩ := Option.isSome_iff_exists.mp shown
        exact .inr ⟨r, f', rfl, bound⟩
  | enterValue | restoreForm | replaceForm => exact .inl (edited _ shown)
  | _ => exact .inl (by rwa [form?_effect rfl] at shown)

/-- An execution starts to write a key only by an operation that brings it. -/
theorem isSome_written?_effect {op : Operation} (written : ((op.effect e).written? k).isSome) :
    (e.written? k).isSome ∨ op.brings e k := by
  unfold written? at written ⊢
  by_cases outbound : k = Snapshot.outboundKey
  · rw [if_pos outbound, activity, (SameSetup.effect op e).behaviour] at written
    rw [if_pos outbound]
    refine .inl ?_
    split at written
    · next fork => rw [if_pos fork, Option.isSome_some]
    · cases written
  · rw [if_neg outbound] at written ⊢
    by_cases shown : k = Snapshot.formKey
    · rw [if_pos shown, Option.isSome_map] at written ⊢
      exact (isSome_form?_effect written).imp_right fun bound => .inr ⟨shown, bound⟩
    · rw [if_neg shown] at written
      cases written

/-! ### Snapshots and the operations between them -/

/-- The entry under a key stays as it is when an operation is carried out that has no say in it. -/
theorem get?_state_of_leaves {op : Operation} (leaves : op.Leaves k) (e : Execution)
    (override : Option Snapshot) :
    Table.get? ((op.effect e).state override).1 k = Table.get? (e.state override).1 k := by
  rw [get?_state, get?_state, savedState_effect, leaves.saved, Option.none_or,
    written?_effect leaves, (SameSetup.effect op e).behaviour]

/-- No key is added by other operations than those that bring an entry under it. -/
theorem isSome_get?_state_effect {op : Operation} {override : Option Snapshot}
    (found : (Table.get? ((op.effect e).state override).1 k).isSome) :
    (Table.get? (e.state override).1 k).isSome ∨ op.brings e k := by
  simp only [get?_state, Option.isSome_or, Bool.or_eq_true, (SameSetup.effect op e).behaviour]
    at found ⊢
  rcases found with saved | given | written | own
  · rw [savedState_effect] at saved
    cases saves : op.saved? with
    | none =>
        rw [saves, Option.none_or] at saved
        exact .inl (.inl saved)
    | some s =>
        rw [saves, Option.some_or, Option.bind_some, Table.isSome_last?] at saved
        cases op with
        | setState s' =>
            cases saves
            exact .inr (.inl ⟨s, rfl, saved⟩)
        | _ => cases saves
  · exact .inl (.inr (.inl given))
  · exact (isSome_written?_effect written).imp_left fun before => .inr (.inr (.inl before))
  · exact .inl (.inr (.inr (.inr own)))

/-- The entry of a snapshot under a key is the first that there is: of the state that was saved
last, of what the caller gives, of what the execution writes itself, and of the state of the
activity. Any operation that concerns none of these leaves the entry as it is, and only saving a
state or binding a form brings an entry where there was none. -/
theorem snapshot_precedence (reached : ReachedBy b m env ops e)
    (sorted : ∀ s, .setState s ∈ ops → Table.Sorted s) :
    (∀ override k, (∀ s, override = some s → Table.Sorted s) →
      Table.get? (e.state override).1 k =
        ((lastSaved? ops).bind (Table.get? · k)).or ((override.bind (Table.get? · k)).or
          ((e.written? k).or (Table.get? b.state k)))) ∧
      ∀ (op : Operation) override k,
        (op.Leaves k →
          Table.get? ((op.effect e).state override).1 k = Table.get? (e.state override).1 k) ∧
        ((Table.get? ((op.effect e).state override).1 k).isSome →
          (Table.get? (e.state override).1 k).isSome ∨ op.brings e k) := by
  have behaviour := behaviour_of_reached (reached_iff_reachedBy.mpr ⟨ops, reached⟩)
  have entry {s : Option Snapshot} (sorted : ∀ s', s = some s' → Table.Sorted s') (k : String) :
      s.bind (Table.last? · k) = s.bind (Table.get? · k) := by
    cases s with
    | none => rfl
    | some s => exact Table.last?_of_sorted (sorted s rfl) k
  refine ⟨fun override k given => ?_, fun op override k =>
    ⟨fun leaves => get?_state_of_leaves leaves e override, isSome_get?_state_effect⟩⟩
  have saved : ∀ s, lastSaved? ops = some s → Table.Sorted s := fun s last =>
    sorted s (setState_mem_of_lastSaved? last)
  rw [get?_state, savedState_of_reachedBy reached, entry saved, entry given, behaviour]

/-- A step with a state of its own, of which each entry is covered by another source, is suspended,
completed and saves a state. -/
theorem triage_snapshot_precedence :
    let own : Snapshot := [("form", .str "own"), ("mine", .str "own"), ("pendingOutbound", .null)]
    let saved : Snapshot := [("mine", .str "saved")]
    let given : Snapshot := [("form", .str "given"), ("mine", .str "given")]
    let ops : List Operation := [.applyState [("pendingOutbound", .texts ["toFix"])], .postpone 0,
      .complete, .setState saved]
    let e := (Execution.start ⟨triageStep, some own⟩ .empty (.ofVariables []) "").after ops
    Table.Sorted saved ∧ Table.Sorted given ∧
      Table.get? (e.state (some given)).1 "mine" = some (.str "saved") ∧
      Table.get? (e.state (some given)).1 "form" = some (.str "given") ∧
      Table.get? (e.state none).1 "form" = e.form?.map Form.state ∧ e.form?.isSome ∧
      Table.get? (e.state none).1 "pendingOutbound" = some (.texts ["toFix"]) ∧
      Table.get? (e.state none).1 "gone" = none ∧
      (∀ k, Table.get? ((Operation.stop.effect e).state none).1 k =
        Table.get? (e.state none).1 k) ∧
      Table.get? ((Operation.stop.effect e).state none).1 "gone" = none := by
  intro own saved given ops e
  have saved_sorted : Table.Sorted saved := by decide
  have given_sorted : Table.Sorted given := by decide
  have reached : ReachedBy ⟨triageStep, some own⟩ .empty (.ofVariables []) ops e :=
    ((((ReachedBy.start "").perform _).perform _).perform _).perform _
  obtain ⟨law, between⟩ := snapshot_precedence reached fun s member => by
    simp only [ops, List.mem_cons, reduceCtorEq, Operation.setState.injEq, false_or,
      List.not_mem_nil, or_false] at member
    exact member ▸ saved_sorted
  have given_law (k : String) := law (some given) k fun s same => by
    cases same
    exact given_sorted
  have law (k : String) := law none k nofun
  have gone : Table.get? (e.state none).1 "gone" = none := by
    rw [law]
    rfl
  refine ⟨saved_sorted, given_sorted, ?_, ?_, ?_, rfl, ?_, gone, fun k => ?_, ?_⟩
  · rw [given_law]
    rfl
  · rw [given_law]
    rfl
  · rw [law]
    rfl
  · rw [law]
    rfl
  · exact (between .stop none k).1 ⟨rfl, fun _ => rfl, nofun⟩
  · have unchanged := (between .stop none "gone").2
    rw [gone] at unchanged
    cases found : Table.get? ((Operation.stop.effect e).state none).1 "gone" with
    | none => rfl
    | some v =>
        rw [found] at unchanged
        rcases unchanged rfl with before | ⟨s, saves, _⟩ | ⟨other, _⟩
        · cases before
        · cases saves
        · exact absurd other (by decide)

end Execution

end ProcessStep
