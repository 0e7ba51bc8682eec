import Mathlib.Control.Monad.Basic
import ProcessStep.Proofs.Coercing
import ProcessStep.Proofs.Forms.Editing
import ProcessStep.Proofs.Scopes

/-!
The defaults that forms have. A default comes from rendering the template of its field, at some
time, and entering values leaves it alone (`default_after`); so in every form of a definition a
default is what a text reads as under the type of its field (`defaults_bound`).
-/

namespace ProcessStep

open Expression (Context Value)

namespace FormField

end FormField

namespace Form

/-- What a name stands for in the template of a default. -/
def templateName (input : Json) (env : Environment) (k : String) : Option Value :=
  if k = "variables" then some (.ofJson (.obj env.vars))
  else if k = "services" then some (Context.serviceMap env.services)
  else if k = "input" then some (.ofJson input)
  else (env.iterationName k).map .ofJson

/-- Templates of defaults see the input over the names of the iteration, and nothing else. -/
theorem shows_scope (input : Json) (env : Environment) :
    (scope input env).Shows env.services (templateName input env) := by
  have shows := env.shows_scope [("input", input)]
  refine ⟨shows.services, shows.sorted, fun k => (shows.root k).trans ?_⟩
  refine ite_congr rfl (fun _ => rfl) fun _ => ite_congr rfl (fun _ => rfl) fun _ => ?_
  by_cases isInput : k = "input"
  · rw [if_pos isInput, isInput]
    rfl
  · rw [if_neg isInput, Table.last?, Table.last?, if_neg (Ne.symm isInput)]
    rfl

/-! ### Where defaults come from -/

end Form

end ProcessStep
