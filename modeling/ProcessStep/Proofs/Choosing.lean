import ProcessStep.Proofs.Flows
import ProcessStep.Proofs.WellFormed

/-!
Which flows are taken. `holds` and `Evaluates` speak of the condition of one flow; `taken` and
`chosen` say which of the pending flows are to be taken, and `FirstFails` which error is reported
if a condition has no value. `eligibleOutbound` does what they say in every execution of a linked
process, whatever order of flows was restored, and the default flow plays no part but that it is
taken when no other flow is.
-/

namespace ProcessStep

open Definition (Flow)

namespace Execution

/-- The condition of a flow has a value in the scope, if there is one. -/
def Evaluates (s : Scope) (f : Flow) : Prop :=
  ∀ c, f.condition = some c → ∃ v, s.resolve c = .ok v

/-- The flow has no condition, or one whose value holds in the scope. -/
def holds (s : Scope) (f : Flow) : Bool :=
  match f.condition with
  | none => true
  | some c =>
      match s.resolve c with
      | .ok v => v.isTruthy
      | .error _ => false

/-- The flows other than defaults that hold, in their order. -/
def taken (s : Scope) (fs : List Flow) : List Flow :=
  fs.filter fun f => !f.isDefault && holds s f

/-- The flows that hold, or else the default flow if there is one. -/
def chosen (s : Scope) (fs : List Flow) : List Flow :=
  if taken s fs = [] then (fs.find? (·.isDefault)).toList else taken s fs

/-- The conditions of all flows other than defaults have values. -/
def AllEvaluate (s : Scope) (fs : List Flow) : Prop :=
  ∀ f ∈ fs, f.isDefault = false → Evaluates s f

/-- The first condition without a value, default flows apart, fails with this error. -/
def FirstFails (s : Scope) (fs : List Flow) (x : ResolutionError) : Prop :=
  ∃ before f after c, fs = before ++ f :: after ∧ AllEvaluate s before ∧
    f.isDefault = false ∧ f.condition = some c ∧ s.resolve c = .error x

/-- There are no two different default flows in the list. -/
def SingleDefault (fs : List Flow) : Prop :=
  ∀ f ∈ fs, ∀ g ∈ fs, f.isDefault = true → g.isDefault = true → f = g

/-! ### One flow -/

variable {s : Scope} {f : Flow} {fs : List Flow} {x : ResolutionError}

/-- Whether a flow is selected is known exactly if its condition has a value, and then it is what
the value says. -/
theorem isSelected_eq_ok_iff {b : Bool} :
    isSelected s f = .ok b ↔ Evaluates s f ∧ holds s f = b := by
  unfold isSelected Evaluates holds
  cases f.condition with
  | none => simp
  | some c => cases value : s.resolve c <;> simp [value, Except.map]

/-- Only a condition without a value makes it fail, with the error of that condition. -/
theorem isSelected_eq_error_iff :
    isSelected s f = .error x ↔ ∃ c, f.condition = some c ∧ s.resolve c = .error x := by
  unfold isSelected
  cases f.condition with
  | none => simp
  | some c => cases value : s.resolve c <;> simp [value, Except.map]

theorem not_evaluates_of_error (fails : isSelected s f = .error x) : ¬ Evaluates s f :=
  fun evaluates => by cases fails.symm.trans (isSelected_eq_ok_iff.mpr ⟨evaluates, rfl⟩)

/-! ### All flows -/

/-- All conditions after the first flow are evaluated too, whether it is selected or not. -/
theorem selected_cons_of_other (other : f.isDefault = false) :
    selected s (f :: fs) =
      match isSelected s f, selected s fs with
      | .error x, _ => .error x
      | .ok _, .error x => .error x
      | .ok b, .ok ts => .ok (if b then f :: ts else ts) := by
  rw [selected, other]
  cases isSelected s f with
  | error x => rfl
  | ok b => cases selected s fs <;> rfl

theorem taken_cons (s : Scope) (f : Flow) (fs : List Flow) :
    taken s (f :: fs) =
      if f.isDefault = false ∧ holds s f = true then f :: taken s fs else taken s fs := by
  simp [taken, List.filter_cons]

theorem allEvaluate_cons :
    AllEvaluate s (f :: fs) ↔ (f.isDefault = false → Evaluates s f) ∧ AllEvaluate s fs :=
  List.forall_mem_cons

/-- The first condition without a value is that of the first flow, or the first of the others. -/
theorem firstFails_cons :
    FirstFails s (f :: fs) x ↔
      f.isDefault = false ∧ isSelected s f = .error x ∨
        (f.isDefault = false → Evaluates s f) ∧ FirstFails s fs x := by
  rw [isSelected_eq_error_iff]
  constructor
  · rintro ⟨_ | ⟨g, before⟩, h, after, c, split, evaluate, other, condition, fails⟩
    · cases split
      exact .inl ⟨other, c, condition, fails⟩
    · cases split
      obtain ⟨first, rest⟩ := allEvaluate_cons.mp evaluate
      exact .inr ⟨first, before, h, after, c, rfl, rest, other, condition, fails⟩
  · rintro (⟨other, c, condition, fails⟩ |
      ⟨first, before, h, after, c, rfl, rest, other, condition, fails⟩)
    · exact ⟨[], f, fs, c, rfl, fun _ none => (nomatch none), other, condition, fails⟩
    · exact ⟨f :: before, h, after, c, rfl, allEvaluate_cons.mpr ⟨first, rest⟩, other, condition,
        fails⟩

/-- Going through the flows succeeds if and only if all conditions have values. -/
theorem selected_eq_ok_iff {ts : List Flow} :
    selected s fs = .ok ts ↔ AllEvaluate s fs ∧ taken s fs = ts := by
  induction fs generalizing ts with
  | nil => simp [selected, AllEvaluate, taken]
  | cons f fs ih =>
      rw [allEvaluate_cons, taken_cons]
      cases isDefault : f.isDefault with
      | true => simp [selected_cons_of_default isDefault, ih]
      | false =>
          rw [selected_cons_of_other isDefault]
          cases first : isSelected s f with
          | error y => simp [not_evaluates_of_error first]
          | ok b =>
              obtain ⟨evaluates, rfl⟩ := isSelected_eq_ok_iff.mp first
              cases rest : selected s fs with
              | error y =>
                  have fails : ¬ AllEvaluate s fs := fun evaluate => by
                    cases rest.symm.trans (ih.mpr ⟨evaluate, rfl⟩)
                  simp [fails]
              | ok ts' =>
                  obtain ⟨evaluate, rfl⟩ := ih.mp rest
                  simp [evaluates, evaluate]

/-- Going through the flows fails with the first condition that has no value. -/
theorem selected_eq_error_iff : selected s fs = .error x ↔ FirstFails s fs x := by
  induction fs with
  | nil => simp [selected, FirstFails]
  | cons f fs ih =>
      rw [firstFails_cons, ← ih]
      cases isDefault : f.isDefault with
      | true => simp [selected_cons_of_default isDefault]
      | false =>
          rw [selected_cons_of_other isDefault]
          cases first : isSelected s f with
          | error y => simp [not_evaluates_of_error first]
          | ok b =>
              obtain ⟨evaluates, rfl⟩ := isSelected_eq_ok_iff.mp first
              cases selected s fs <;> simp [evaluates]

/-! ### The default flow -/

theorem SingleDefault.of_subset {fs' : List Flow} (single : SingleDefault fs)
    (subset : fs' ⊆ fs) : SingleDefault fs' :=
  fun f member g member' => single f (subset member) g (subset member')

/-- The default flow is found wherever it stands. -/
theorem find?_isDefault_eq_some_iff (single : SingleDefault fs) :
    fs.find? (·.isDefault) = some f ↔ f ∈ fs ∧ f.isDefault = true := by
  constructor
  · intro found
    exact ⟨List.mem_of_find?_eq_some found, List.find?_some (p := Flow.isDefault) found⟩
  · rintro ⟨member, isDefault⟩
    cases found : fs.find? (·.isDefault) with
    | none => exact absurd isDefault (List.find?_eq_none.mp found f member)
    | some g =>
        have isDefault' : g.isDefault = true := List.find?_some (p := Flow.isDefault) found
        rw [single f member g (List.mem_of_find?_eq_some found) isDefault isDefault']

/-- With a single default flow the last one is the first one, so its place does not matter. -/
theorem fallback_eq (single : SingleDefault fs) :
    fallback fs = (fs.find? (·.isDefault)).toList := by
  have same : ∀ f ∈ fs.filter (·.isDefault), ∀ g ∈ fs.filter (·.isDefault), f = g := by
    intro f member g member'
    obtain ⟨listed, isDefault⟩ := List.mem_filter.mp member
    obtain ⟨listed', isDefault'⟩ := List.mem_filter.mp member'
    exact single f listed g listed' isDefault isDefault'
  rw [fallback, ← List.head?_filter]
  cases defaults : fs.filter (·.isDefault) with
  | nil => rfl
  | cons f rest =>
      rw [defaults] at same
      rw [List.getLast?_eq_some_getLast (List.cons_ne_nil f rest), List.head?_cons,
        same _ (List.getLast_mem _) f List.mem_cons_self]

/-- Unless a condition has no value, the flows that are taken are the chosen ones. -/
theorem choose_eq (single : SingleDefault fs) (s : Scope) :
    choose s fs = (selected s fs).map fun _ => chosen s fs := by
  unfold choose chosen
  rw [fallback_eq single]
  cases outcome : selected s fs with
  | error x => rfl
  | ok ts =>
      obtain ⟨_, rfl⟩ := selected_eq_ok_iff.mp outcome
      simp [Except.map, bind, Except.bind]

/-- The default flow is chosen alone. -/
theorem chosen_of_default (member : f ∈ chosen s fs) (isDefault : f.isDefault = true) :
    chosen s fs = [f] := by
  unfold chosen at member ⊢
  split at member
  · next none =>
      rw [if_pos none, Option.mem_toList.mp member]
      rfl
  · have other := (List.mem_filter.mp member).2
    simp [isDefault] at other

/-! ### Other orders -/

/-- Both fail, or both take the same flows in some order. -/
def TakeSame : Except ResolutionError (List Flow) → Except ResolutionError (List Flow) → Prop
  | .ok fs, .ok fs' => fs.Perm fs'
  | .error _, .error _ => True
  | _, _ => False

/-- The lists differ only in where, and how often, default flows stand in them. -/
structure SameButDefaults (fs' fs : List Flow) : Prop where
  others : fs'.filter (!·.isDefault) = fs.filter (!·.isDefault)
  defaults : ∀ f, f.isDefault = true → (f ∈ fs' ↔ f ∈ fs)

variable {fs' : List Flow}

/-- Lists that differ in the places of default flows have the same members. -/
theorem SameButDefaults.mem_iff (same : SameButDefaults fs' fs) (f : Flow) :
    f ∈ fs' ↔ f ∈ fs := by
  cases isDefault : f.isDefault with
  | true => exact same.defaults f isDefault
  | false =>
      have others : f ∈ fs'.filter (!·.isDefault) ↔ f ∈ fs.filter (!·.isDefault) := by
        rw [same.others]
      simpa [isDefault] using others

/-- Default flows play no part in going through the conditions. -/
theorem selected_others (s : Scope) (fs : List Flow) :
    selected s (fs.filter (!·.isDefault)) = selected s fs := by
  induction fs with
  | nil => rfl
  | cons f fs ih =>
      cases isDefault : f.isDefault with
      | true =>
          rw [List.filter_cons_of_neg (by simp [isDefault]), selected_cons_of_default isDefault, ih]
      | false =>
          rw [List.filter_cons_of_pos (by simp [isDefault]), selected_cons_of_other isDefault,
            selected_cons_of_other isDefault, ih]

/-- Where the default flow stands changes neither the flows nor the error. -/
theorem choose_of_sameButDefaults (single : SingleDefault fs) (same : SameButDefaults fs' fs)
    (s : Scope) : choose s fs' = choose s fs := by
  have single' := single.of_subset fun f => (same.mem_iff f).mp
  have last : fallback fs' = fallback fs := by
    rw [fallback_eq single, fallback_eq single']
    refine congrArg Option.toList (Option.ext fun f => ?_)
    rw [find?_isDefault_eq_some_iff single, find?_isDefault_eq_some_iff single', same.mem_iff]
  unfold choose
  rw [← selected_others s fs', same.others, selected_others, last]

/-- In another order another condition may be the first without a value, but whether there is one
stays the same, and so do the flows. -/
theorem choose_of_perm (single : SingleDefault fs) (perm : fs'.Perm fs) (s : Scope) :
    TakeSame (choose s fs') (choose s fs) := by
  have single' := single.of_subset perm.subset
  have evaluate : AllEvaluate s fs' ↔ AllEvaluate s fs := by
    simp only [AllEvaluate, perm.mem_iff]
  have same : (taken s fs').Perm (taken s fs) := perm.filter _
  have last : fs'.find? (·.isDefault) = fs.find? (·.isDefault) := Option.ext fun f => by
    rw [find?_isDefault_eq_some_iff single, find?_isDefault_eq_some_iff single', perm.mem_iff]
  rw [choose_eq single, choose_eq single']
  cases outcome : selected s fs with
  | error x =>
      cases outcome' : selected s fs' with
      | error x' => trivial
      | ok ts =>
          obtain ⟨all, -⟩ := selected_eq_ok_iff.mp outcome'
          cases outcome.symm.trans (selected_eq_ok_iff.mpr ⟨evaluate.mp all, rfl⟩)
  | ok ts =>
      obtain ⟨all, -⟩ := selected_eq_ok_iff.mp outcome
      rw [selected_eq_ok_iff.mpr ⟨evaluate.mpr all, rfl⟩]
      show (chosen s fs').Perm (chosen s fs)
      unfold chosen
      rw [last]
      have empty : taken s fs' = [] ↔ taken s fs = [] := by
        rw [← List.length_eq_zero_iff, same.length_eq, List.length_eq_zero_iff]
      by_cases none : taken s fs = []
      · rw [if_pos none, if_pos (empty.mpr none)]
      · rw [if_neg none, if_neg (mt empty.mp none)]
        exact same

/-! ### Executions -/

variable {e : Execution}

/-- Without pending flows the output is not asked for at all. -/
theorem eligibleOutbound_fst (e : Execution) :
    e.eligibleOutbound.1 =
      if e.pendingOutbound.1 = [] then .ok []
      else e.contextOutput.1.bind (choose · e.pendingOutbound.1) := by
  have same := contextOutput_recalls (Recalls.refl (e := e)).pendingOutbound
  unfold eligibleOutbound
  rcases pending : e.pendingOutbound with ⟨_ | ⟨f, fs⟩, e'⟩
  · rfl
  · rw [pending] at same
    rw [← same]
    dsimp only
    rcases e'.contextOutput with ⟨x | s, e''⟩ <;> rfl

variable {b : Behaviour} {m : Message} {env : Environment} {e' : Execution}

variable {d : Definition.Process} {p : LinkedProcess}

/-- No operation brings a second default flow among the pending ones: all of them leave the
activity. -/
theorem singleDefault_of_reached {allowed : Operation → Prop}
    (linked : LinkedProcess.link d = .ok p) (member : b.activity ∈ p.activities)
    (reached : Reached allowed b m env e) :
    SingleDefault e.pendingOutbound.1 :=
  .of_subset (LinkedProcess.single_default linked member)
    (mem_side_of_reached (d := .outbound) reached)

/-- What is to be answered for pending flows and the scope that their conditions see. -/
inductive Choice (pending : List Flow) (scope : Except ResolutionError Scope) :
    Except ResolutionError (List Flow) → Prop where
  /-- Without pending flows the scope does not matter. -/
  | nothing (empty : pending = []) : Choice pending scope (.ok [])
  | unresolved {x : ResolutionError} (nonempty : pending ≠ []) (fails : scope = .error x) :
      Choice pending scope (.error x)
  | undecided {s : Scope} {x : ResolutionError} (nonempty : pending ≠ []) (resolved : scope = .ok s)
      (fails : FirstFails s pending x) : Choice pending scope (.error x)
  | decided {s : Scope} (nonempty : pending ≠ []) (resolved : scope = .ok s)
      (evaluate : AllEvaluate s pending) : Choice pending scope (.ok (chosen s pending))

/-- The answer is the one of `Choice`, and there is no other. -/
theorem eligibleOutbound_eq_iff (single : SingleDefault e.pendingOutbound.1)
    (outcome : Except ResolutionError (List Flow)) :
    e.eligibleOutbound.1 = outcome ↔
      Choice e.pendingOutbound.1 e.contextOutput.1 outcome := by
  rw [eligibleOutbound_fst]
  generalize e.pendingOutbound.1 = pending at single ⊢
  by_cases empty : pending = []
  · rw [if_pos empty]
    constructor
    · rintro rfl
      exact .nothing empty
    · rintro (_ | ⟨nonempty, _⟩ | ⟨nonempty, _⟩ | ⟨nonempty, _⟩)
      · rfl
      all_goals exact absurd empty nonempty
  · rw [if_neg empty]
    cases scope : e.contextOutput.1 with
    | error x =>
        constructor
        · rintro rfl
          exact .unresolved empty rfl
        · rintro (none | ⟨_, fails⟩ | ⟨_, resolved⟩ | ⟨_, resolved⟩)
          · exact absurd none empty
          · cases fails
            rfl
          · cases resolved
          · cases resolved
    | ok s =>
        show choose s pending = outcome ↔ _
        rw [choose_eq single]
        constructor
        · rintro rfl
          cases outcome : selected s pending with
          | error x => exact .undecided empty rfl (selected_eq_error_iff.mp outcome)
          | ok ts => exact .decided empty rfl (selected_eq_ok_iff.mp outcome).1
        · rintro (none | ⟨_, unresolved⟩ | ⟨_, ⟨⟩, fails⟩ | ⟨_, ⟨⟩, evaluate⟩)
          · exact absurd none empty
          · cases unresolved
          · rw [selected_eq_error_iff.mpr fails]
            rfl
          · rw [selected_eq_ok_iff.mpr ⟨evaluate, rfl⟩]
            rfl

/-- Executions that pend the same flows in another order take the same ones, or both fail. -/
theorem eligibleOutbound_of_perm (single : SingleDefault e.pendingOutbound.1)
    (scope : e'.contextOutput.1 = e.contextOutput.1)
    (perm : e'.pendingOutbound.1.Perm e.pendingOutbound.1) :
    TakeSame e'.eligibleOutbound.1 e.eligibleOutbound.1 := by
  have empty : e'.pendingOutbound.1 = [] ↔ e.pendingOutbound.1 = [] := by
    rw [← List.length_eq_zero_iff, perm.length_eq, List.length_eq_zero_iff]
  rw [eligibleOutbound_fst, eligibleOutbound_fst, scope]
  by_cases none : e.pendingOutbound.1 = []
  · rw [if_pos none, if_pos (empty.mpr none)]
    exact .nil
  · rw [if_neg none, if_neg (mt empty.mp none)]
    cases e.contextOutput.1 with
    | error x => trivial
    | ok s => exact choose_of_perm single perm s

/-- Executions whose pending flows differ in the place of the default flow give the same answer. -/
theorem eligibleOutbound_of_sameButDefaults (single : SingleDefault e.pendingOutbound.1)
    (scope : e'.contextOutput.1 = e.contextOutput.1)
    (same : SameButDefaults e'.pendingOutbound.1 e.pendingOutbound.1) :
    e'.eligibleOutbound.1 = e.eligibleOutbound.1 := by
  have empty : e'.pendingOutbound.1 = [] ↔ e.pendingOutbound.1 = [] := by
    simp only [List.eq_nil_iff_forall_not_mem, same.mem_iff]
  have choice : (choose · e'.pendingOutbound.1) = (choose · e.pendingOutbound.1) :=
    funext (choose_of_sameButDefaults single same)
  rw [eligibleOutbound_fst, eligibleOutbound_fst, scope, choice]
  simp only [empty]

/-- The flows that are taken at the end of a step of a linked process, or the error instead. The
default flow is taken alone or not at all. With the pending flows in another order as many are
taken, and the same ones; where the default flow stands among them does not matter at all. -/
theorem eligible_flows (linked : LinkedProcess.link d = .ok p) (member : b.activity ∈ p.activities)
    (reached : Reached (fun _ => True) b m env e) :
    SingleDefault e.pendingOutbound.1 ∧
      (∀ outcome, e.eligibleOutbound.1 = outcome ↔
        Choice e.pendingOutbound.1 e.contextOutput.1 outcome) ∧
      (∀ fs f, e.eligibleOutbound.1 = .ok fs → f ∈ fs → f.isDefault = true → fs = [f]) ∧
      ∀ e' : Execution, e'.contextOutput.1 = e.contextOutput.1 →
        (e'.pendingOutbound.1.Perm e.pendingOutbound.1 →
          TakeSame e'.eligibleOutbound.1 e.eligibleOutbound.1) ∧
        (SameButDefaults e'.pendingOutbound.1 e.pendingOutbound.1 →
          e'.eligibleOutbound.1 = e.eligibleOutbound.1) := by
  have single := singleDefault_of_reached linked member reached
  refine ⟨single, eligibleOutbound_eq_iff single, fun fs f takes taken isDefault => ?_,
    fun e' scope => ⟨eligibleOutbound_of_perm single scope,
      eligibleOutbound_of_sameButDefaults single scope⟩⟩
  cases (eligibleOutbound_eq_iff single _).mp takes with
  | nothing => cases taken
  | decided => exact chosen_of_default taken isDefault

def byAir : Flow := (Flow.between "byAir" "ship" "air").withCondition "output.total > 10"

def bySea : Flow := (Flow.between "bySea" "ship" "sea").withCondition "output.total > 100"

/-- The default flow, whose own condition has no value. -/
def byHand : Flow :=
  ((Flow.between "byHand" "ship" "desk").withCondition "output.total >").asDefault

/-- An activity that is left by two flows with conditions on its output, and a default. -/
def shipping : Definition.Process where
  id := "shipping"
  name := "shipping"
  activities := [.ofType "ship" "task", .ofType "air" "task", .ofType "sea" "task",
    .ofType "desk" "task"]
  flows := [byAir, bySea, byHand]

def shippingStep : Activity :=
  .link shipping.flows (.ofType "ship" "task")

/-- The first activity of `shipping` at its end, with a total as its result. -/
def shipped (total : Int) (ops : List Operation) : Execution :=
  (start ⟨shippingStep, none⟩ .empty (.ofVariables []) "").after
    (.setResult (.obj [("total", .int total)]) :: ops)

/-- With the default flow put first, the flow is still taken whose condition holds; if none does,
the default flow is, although its condition has no value. -/
theorem shipping_eligible_flows :
    let reordered : Operation := .applyState
      [("pendingOutbound", .texts ["byHand", "byAir", "bySea"])]
    let e := shipped 12 [reordered]
    let e' := shipped 5 [reordered]
    e.pendingOutbound.1.map (·.id) = ["byHand", "byAir", "bySea"] ∧
      Choice e.pendingOutbound.1 e.contextOutput.1 (.ok [byAir]) ∧
      (shipped 12 []).eligibleOutbound.1 = e.eligibleOutbound.1 ∧
      Choice e'.pendingOutbound.1 e'.contextOutput.1 (.ok [byHand]) := by
  intro reordered e e'
  have reached (total : Int) : Reached (fun _ => True) ⟨shippingStep, none⟩ .empty
      (.ofVariables []) (shipped total [reordered]) :=
    .perform (.perform (.start _) trivial) trivial
  have flows (total : Int) := eligible_flows (d := shipping) rfl (.head _) (reached total)
  have choice (total : Int) (f : Flow)
      (takes : (shipped total [reordered]).eligibleOutbound.1.toOption = some [f]) :
      Choice (shipped total [reordered]).pendingOutbound.1
        (shipped total [reordered]).contextOutput.1 (.ok [f]) := by
    refine ((flows total).2.1 _).mp ?_
    cases outcome : (shipped total [reordered]).eligibleOutbound.1 with
    | error x => cases outcome ▸ takes
    | ok fs => cases outcome ▸ takes; rfl
  refine ⟨rfl, choice 12 _ (by decide +kernel), ?_, choice 5 _ (by decide +kernel)⟩
  obtain ⟨_, _, _, orders⟩ := flows 12
  refine (orders (shipped 12 []) rfl).2 ⟨rfl, fun f _ => ?_⟩
  have perm : (shipped 12 []).pendingOutbound.1.Perm (shipped 12 [reordered]).pendingOutbound.1 :=
    List.perm_append_singleton byHand [byAir, bySea]
  exact perm.mem_iff

end Execution

end ProcessStep
