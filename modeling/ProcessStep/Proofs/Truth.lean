import ProcessStep.Proofs.Choosing
import ProcessStep.Proofs.Paths

/-!
Truth in conditions and in expressions. Whether data hold is asked twice: of the value of a
condition, and of what expressions were handed over for the data (`isTruthy_ofJson`). Since the
answers are the same, `not`, `and`, `or` and `if` decide as a condition does (`Decides`), and of two
flows one of which has the negated condition of the other just one is taken (`Splits`).
-/

namespace ProcessStep

open Definition (Flow)
open Expression (Context Path Term Value)
open Template (Canvas Piece renderAll)

namespace Expression

/-- Data hold as they do when they are handed over to expressions. -/
theorem Value.isTruthy_ofJson (v : Json) : (Value.ofJson v).isTruthy = v.isTruthy := by
  cases v with
  -- Lists and objects stay empty or not, whatever becomes of the data in them.
  | arr items => cases items <;> rfl
  | obj fields => cases fields <;> rfl
  | _ => rfl

/-- All that asks for the truth of a term goes on as it has to if the term holds, or if not. -/
structure Decides (c : Context) (t : Term) (holds : Bool) : Prop where
  not : (Term.not t).eval c = .ok (.bool !holds)
  and : ∀ r, (Term.and t r).eval c = if holds then r.eval c else .ok (.bool false)
  or : ∀ r, (Term.or t r).eval c = if holds then t.eval c else r.eval c
  choose : ∀ yes no, (Term.choose t yes (some no)).eval c = if holds then yes.eval c else no.eval c
  chooseOnly : ∀ yes, (Term.choose t yes none).eval c =
    if holds then yes.eval c else .ok .undefined
  /-- The statement of templates. -/
  statement : ∀ (canvas : Canvas) (yes no : List Piece), canvas.context = c →
    (Piece.choose t yes no).render canvas = renderAll canvas (if holds then yes else no)

variable {c : Context} {t : Term} {u : Value} {v : Json}

/-- It is the truth of the value that decides. -/
theorem decides_of_value (value : t.eval c = .ok u) : Decides c t u.isTruthy := by
  constructor
  · rw [Term.eval, value]
    rfl
  · intro r
    rw [Term.eval, value]
    rfl
  · intro r
    rw [Term.eval, value]
    rfl
  · intro yes no
    rw [Term.eval, value]
    rfl
  · intro yes
    rw [Term.eval, value]
    rfl
  · rintro canvas yes no rfl
    rw [Piece.render, value]
    show (if u.isTruthy then renderAll canvas yes else renderAll canvas no) = _
    cases u.isTruthy <;> rfl

theorem decides_of_eval (value : t.eval c = .ok (.ofJson v)) : Decides c t v.isTruthy := by
  rw [← Value.isTruthy_ofJson]
  exact decides_of_value value

/-- The text is read as the term. -/
def Denotes (text : String) (t : Term) : Prop := Term.ofText (unwrap text.toList) = .ok t

variable {p : Path} {text : String}

/-- A path is read as its term, with blanks and a wrapper around it or without. -/
theorem Path.denotes (proper : p.Proper) (wraps : Path.Wraps p.chars text.toList) :
    Denotes text p.term := by
  rw [Denotes, Path.unwrap_chars proper wraps, Path.ofText_chars proper]

theorem Path.denotes_not (proper : p.Proper)
    (wraps : Path.Wraps ("not ".toList ++ p.chars) text.toList) : Denotes text (.not p.term) := by
  rw [Denotes, Path.unwrap_not_chars proper wraps, Path.ofText_not_chars proper]

end Expression

open Expression (Decides Denotes decides_of_eval)

namespace Scope

variable {s : Scope} {t : Term} {v : Json} {text : String}

/-- The value of an expression is data again if it was data. -/
theorem resolve_of_denotes (denotes : Denotes text t) (plain : v.Plain)
    (value : t.eval (Context.ofScope s) = .ok (.ofJson v)) : s.resolve text = .ok v := by
  rw [resolve, show Term.ofText (unwrap text.toList) = _ from denotes]
  show s.evaluate text t = _
  rw [evaluate, value]
  simp only [Value.toJson?_ofJson plain]

/-- A negation has a truth value, whatever the value is that is negated. -/
theorem resolve_of_denotes_not (denotes : Denotes text (.not t))
    (value : t.eval (Context.ofScope s) = .ok (.ofJson v)) :
    s.resolve text = .ok (.bool !v.isTruthy) :=
  resolve_of_denotes denotes (.bool _) (decides_of_eval value).not

end Scope

namespace Execution

/-- Two flows, none of them a default flow, of which one has a condition that stands for the value
and the other one has its negation. -/
structure Opposed (s : Scope) (v : Json) (f g : Flow) : Prop where
  other : f.isDefault = false
  other' : g.isDefault = false
  conditions : ∃ c c' t, f.condition = some c ∧ g.condition = some c' ∧ Denotes c t ∧
    Denotes c' (.not t) ∧ t.eval (Context.ofScope s) = .ok (.ofJson v)

/-- Two flows, none of them a default flow, of which one asks for what is under the path, and the
other one for the contrary. -/
structure AskFor (p : Path) (f g : Flow) : Prop where
  proper : p.Proper
  other : f.isDefault = false
  other' : g.isDefault = false
  condition : ∃ c, f.condition = some c ∧ Path.Wraps p.chars c.toList
  negation : ∃ c, g.condition = some c ∧ Path.Wraps ("not ".toList ++ p.chars) c.toList

/-- Of the two flows one is taken, and the value says which. So no default flow is. -/
structure Splits (v : Json) (f g : Flow) (fs : List Flow) : Prop where
  first : f ∈ fs ↔ v.isTruthy = true
  second : g ∈ fs ↔ v.isTruthy = false
  others : ∀ h ∈ fs, h.isDefault = false

variable {s : Scope} {v : Json} {f g : Flow} {fs ts : List Flow} {e : Execution}

/-- A flow is selected as the truth of its condition has it. -/
theorem isSelected_of_resolve {c : String} (condition : f.condition = some c)
    (value : s.resolve c = .ok v) : isSelected s f = .ok v.isTruthy := by
  rw [isSelected, condition]
  show (s.resolve c).map Json.isTruthy = _
  rw [value]
  rfl

theorem Opposed.isSelected (opposed : Opposed s v f g) (plain : v.Plain) :
    isSelected s f = .ok v.isTruthy ∧ Execution.isSelected s g = .ok (!v.isTruthy) := by
  obtain ⟨c, c', t, condition, condition', denotes, denotes', value⟩ := opposed.conditions
  exact ⟨isSelected_of_resolve condition (Scope.resolve_of_denotes denotes plain value),
    isSelected_of_resolve condition' (Scope.resolve_of_denotes_not denotes' value)⟩

theorem AskFor.opposed {p : Path} (ask : AskFor p f g) (bound : Path.bound? s p = some v) :
    Opposed s v f g := by
  obtain ⟨c, condition, wraps⟩ := ask.condition
  obtain ⟨c', condition', wraps'⟩ := ask.negation
  refine ⟨ask.other, ask.other', c, c', p.term, condition, condition', ?_, ?_, ?_⟩
  · exact Path.denotes ask.proper wraps
  · exact Path.denotes_not ask.proper wraps'
  · exact Path.eval_term bound rfl

theorem mem_taken_iff : f ∈ taken s fs ↔ f ∈ fs ∧ f.isDefault = false ∧ holds s f = true := by
  simp [taken]

/-- Where a flow other than a default flow holds, the default flow is left out. -/
theorem choose_of_holds (pending : f ∈ fs) (other : f.isDefault = false) (held : holds s f = true)
    (chosen : choose s fs = .ok ts) : ts = taken s fs := by
  have listed : f ∈ taken s fs := mem_taken_iff.mpr ⟨pending, other, held⟩
  cases outcome : selected s fs with
  | error x =>
      rw [choose, outcome] at chosen
      cases chosen
  | ok xs =>
      obtain ⟨_, rfl⟩ := selected_eq_ok_iff.mp outcome
      rw [choose, outcome] at chosen
      cases chosen
      rw [if_neg]
      rw [List.isEmpty_iff]
      exact List.ne_nil_of_mem listed

variable (opposed : Opposed s v f g) (plain : v.Plain)

include opposed plain

theorem Opposed.holds :
    Execution.holds s f = v.isTruthy ∧ Execution.holds s g = !v.isTruthy :=
  ⟨(isSelected_eq_ok_iff.mp (opposed.isSelected plain).1).2,
    (isSelected_eq_ok_iff.mp (opposed.isSelected plain).2).2⟩

/-- Of two opposed flows the one is taken whose condition holds, so the default flow is not. -/
theorem Opposed.splits (pending : f ∈ fs) (pending' : g ∈ fs) (chosen : choose s fs = .ok ts) :
    Splits v f g ts := by
  obtain ⟨held, held'⟩ := opposed.holds plain
  -- One of the two holds in any case, so it is never left to the default flow.
  have all : ts = taken s fs := by
    cases truth : v.isTruthy with
    | true => exact choose_of_holds pending opposed.other (held.trans truth) chosen
    | false => exact choose_of_holds pending' opposed.other' (by rw [held', truth]; rfl) chosen
  subst all
  constructor
  · simp [mem_taken_iff, pending, opposed.other, held]
  · simp [mem_taken_iff, pending', opposed.other', held']
  · exact fun h member => (mem_taken_iff.mp member).2.1

theorem Opposed.chooses (others : ∀ h ∈ fs, h.isDefault = false → h ≠ f → h ≠ g → Evaluates s h) :
    ∃ ts, choose s fs = .ok ts := by
  obtain ⟨selected, selected'⟩ := opposed.isSelected plain
  have evaluate : AllEvaluate s fs := fun h pending other => by
    by_cases first : h = f
    · exact first ▸ (isSelected_eq_ok_iff.mp selected).1
    · by_cases second : h = g
      · exact second ▸ (isSelected_eq_ok_iff.mp selected').1
      · exact others h pending other first second
  rw [choose, selected_eq_ok_iff.mpr ⟨evaluate, rfl⟩]
  exact ⟨_, rfl⟩

omit opposed plain

/-- Data are true in conditions exactly when they are true in expressions, whatever asks there. What
is bound in a scope can be asked for by its path, negated or not. So of two flows whose conditions
are some data and their negation one is taken, and the choice cannot fail because of them. -/
theorem truth_agrees :
    (∀ v : Json, (Value.ofJson v).isTruthy = v.isTruthy) ∧
      (∀ (c : Context) (t : Term) (v : Json), t.eval c = .ok (.ofJson v) →
        Decides c t v.isTruthy) ∧
      (∀ (s : Scope) (p : Path) (v : Json), Path.bound? s p = some v →
        (∀ frames : List (Table Value), frames.findSome? (Table.get? · p.head) = none →
          p.term.eval { Context.ofScope s with frames } = .ok (.ofJson v)) ∧
        ∀ f g, AskFor p f g → Opposed s v f g) ∧
      ∀ (e : Execution) (s : Scope) (v : Json) (f g : Flow), e.contextOutput.1 = .ok s →
        v.Plain → Opposed s v f g → f ∈ e.pendingOutbound.1 → g ∈ e.pendingOutbound.1 →
        (∀ fs, e.eligibleOutbound.1 = .ok fs → Splits v f g fs) ∧
          ((∀ h ∈ e.pendingOutbound.1, h.isDefault = false → h ≠ f → h ≠ g → Evaluates s h) →
            ∃ fs, e.eligibleOutbound.1 = .ok fs) := by
  refine ⟨Value.isTruthy_ofJson, fun _ _ _ => decides_of_eval,
    fun s p v bound => ⟨fun _ => Path.eval_term bound, fun f g ask => ask.opposed bound⟩,
    fun e s v f g scope plain opposed pending pending' => ?_⟩
  have nonempty : e.pendingOutbound.1 ≠ [] := List.ne_nil_of_mem pending
  have choice : e.eligibleOutbound.1 = choose s e.pendingOutbound.1 := by
    rw [eligibleOutbound_fst, if_neg nonempty, scope]
    rfl
  rw [choice]
  exact ⟨fun _ => opposed.splits plain pending pending', opposed.chooses plain⟩

def itemsPath : Path where
  head := "variables"
  members := ["order", "items"]

/-- One flow is for an order that has items, the other one for an order that has none. The list of
items is empty, so it is the other one that is taken. -/
theorem empty_order_truth_agrees :
    let f := (Flow.between "toPack" "sort" "pack").withCondition "$\x7b variables.order.items \x7d"
    let g := (Flow.between "toEnd" "sort" "end").withCondition "not variables.order.items"
    let vars : Table Json := [("order", .obj [("items", .arr [])])]
    let e := Execution.start ⟨{ triageStep with outbound := [f, g] }, none⟩ .empty
      (.ofVariables vars) ""
    ∃ fs, e.eligibleOutbound.1 = .ok fs ∧ f ∉ fs ∧ g ∈ fs := by
  intro f g vars e
  have wraps : Path.Wraps itemsPath.chars "$\x7b variables.order.items \x7d".toList :=
    .wrapped [] [] [' '] [' '] (by decide) (by decide) (by decide) (by decide)
  have wraps' : Path.Wraps ("not ".toList ++ itemsPath.chars) "not variables.order.items".toList :=
    .bare [] [] (by decide) (by decide)
  have plain : (Json.arr []).Plain := .arr (by simp)
  obtain ⟨s, scope, bound⟩ : ∃ s, e.contextOutput.1 = .ok s ∧
      Path.bound? s itemsPath = some (.arr []) := ⟨_, rfl, rfl⟩
  have ask : AskFor itemsPath f g :=
    ⟨⟨by decide, by decide, by decide⟩, rfl, rfl, ⟨_, rfl, wraps⟩, ⟨_, rfl, wraps'⟩⟩
  obtain ⟨-, -, seen, splits⟩ := truth_agrees
  have opposed : Opposed s (.arr []) f g := (seen s itemsPath _ bound).2 f g ask
  obtain ⟨taken, possible⟩ := splits e s _ f g scope plain opposed (.head _) (.tail _ (.head _))
  obtain ⟨fs, takes⟩ := possible fun h pending _ first second => by
    have one : h ∈ [f, g] := pending
    simp [first, second] at one
  have split := taken fs takes
  have left : f ∉ fs := fun member => absurd (split.first.mp member) (by decide)
  exact ⟨fs, takes, left, split.second.mpr rfl⟩

end Execution

end ProcessStep
