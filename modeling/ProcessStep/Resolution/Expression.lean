import ProcessStep.Expression.Evaluation
import ProcessStep.Resolution.Error
import ProcessStep.Template.Rendering
import ProcessStep.Text.Blank

/-!
Expressions and templates against a scope. An expression may stand between `${` and `}`; blanks
around it and within the wrapper do not matter, and an error quotes it as it was given.
-/

namespace ProcessStep

open Expression (Context Term Value)

/-- The expression within its wrapper, or the text itself when it has none. -/
def unwrap (s : List Char) : List Char :=
  match Text.trim s with
  | '$' :: '\x7b' :: rest =>
      if rest.getLast? = some '\x7d' then Text.trim rest.dropLast
      else '$' :: '\x7b' :: rest
  | s => s

namespace Scope

def evaluate (s : Scope) (expression : String) (t : Term) : Except ResolutionError Json :=
  match t.eval (Context.ofScope s) with
  | .error p => .error (.evaluate expression p)
  | .ok v =>
      match v.toJson? with
      | some v => .ok v
      | none => .error (.conversion expression)

/-- The value of an expression as data; what is undefined is null. -/
def resolve (s : Scope) (expression : String) : Except ResolutionError Json :=
  match Term.ofText (unwrap expression.toList) with
  | .error p => .error (.compile expression p)
  | .ok t => s.evaluate expression t

def render (s : Scope) (template : String) : Except ResolutionError String :=
  match Template.render template s with
  | .error p => .error (.render template p)
  | .ok text => .ok text

end Scope

end ProcessStep
