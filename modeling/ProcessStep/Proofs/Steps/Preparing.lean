import ProcessStep.Proofs.Formats.Values
import ProcessStep.Proofs.Restoring
import ProcessStep.Step.Report

/-!
How a step is prepared. `begun` is the fresh execution that a request asks for, and `prepare` lets
it take up the given snapshot, if there is one (`prepare_eq`). Neither the snapshot nor the signal
of a request has a part in what is begun.
-/

namespace ProcessStep.Step

variable {w w' : Surroundings} {r : Request} {e e₀ : Execution}

/-- The execution that a request asks for, before anything is taken up. -/
def begun (w : Surroundings) (r : Request) : Except Problem Execution := do
  let p ← loadProcess w r.definition
  let a ← (p.activity r.activity).mapError (.unknownActivity r.activity)
  let vars ← readVariables w
  let e := Execution.start ⟨a, none⟩ .empty (.ofVariables vars) ""
  let e := e.withConfig (if r.isStrict then .strict else .lenient)
  trigger e r.inbound

/-- A snapshot is taken up last, when the execution is set up. -/
theorem prepare_eq (w : Surroundings) (r : Request) :
    prepare w r = begun w r >>= fun e => resume w e r.state := by
  simp only [prepare, begun, bind_assoc]

theorem loadProcess_congr {path : String} (same : w'.file path = w.file path) :
    loadProcess w' path = loadProcess w path := by
  rw [loadProcess, loadProcess, same]

theorem readVariables_congr (same : w'.input = w.input) : readVariables w' = readVariables w := by
  rw [readVariables, readVariables, same]

theorem exists_of_mapError_eq_ok {ε ε' α : Type} {f : ε → ε'} {x : Except ε α} {a : α}
    (ends : x.mapError f = .ok a) : x = .ok a := by
  cases x with
  | error e => cases ends
  | ok a => cases ends; rfl

/-- A process that is loaded was linked, so its parts fit together. -/
theorem linked_of_loadProcess {path : String} {p : LinkedProcess}
    (loaded : loadProcess w path = .ok p) : ∃ d, LinkedProcess.link d = .ok p := by
  unfold loadProcess at loaded
  split at loaded
  · cases loaded
  · obtain ⟨d, _, linked⟩ := exists_of_bind_eq_ok loaded
    exact ⟨d, exists_of_mapError_eq_ok linked⟩

theorem mem_of_activity {p : LinkedProcess} {id : String} {a : Activity}
    (found : p.activity id = .ok a) : a ∈ p.activities := by
  unfold LinkedProcess.activity at found
  split at found
  · next a' here =>
      cases found
      obtain ⟨n, _, place⟩ := Option.bind_eq_some_iff.mp here
      exact List.mem_of_getElem? place
  · cases found

/-- What is begun is a fresh execution of an activity of a linked process. -/
theorem fresh_of_begun (begins : begun w r = .ok e) :
    ∃ d p a env, LinkedProcess.link d = .ok p ∧ a ∈ p.activities ∧
      loadProcess w r.definition = .ok p ∧ p.activity r.activity = .ok a ∧
      Fresh ⟨a, none⟩ .empty env e := by
  obtain ⟨p, loaded, begins⟩ := exists_of_bind_eq_ok begins
  obtain ⟨a, found, begins⟩ := exists_of_bind_eq_ok begins
  obtain ⟨vars, _, begins⟩ := exists_of_bind_eq_ok begins
  obtain ⟨d, linked⟩ := linked_of_loadProcess loaded
  have found := exists_of_mapError_eq_ok found
  refine ⟨d, p, a, .ofVariables vars, linked, mem_of_activity found, loaded, found, ?_⟩
  dsimp only at begins
  unfold trigger at begins
  split at begins
  · cases begins
    exact .withConfig _ (.start "")
  · split at begins
    · cases begins
      exact .triggeredBy _ (.withConfig _ (.start ""))
    · cases begins

/-- The snapshot and the signal of a request play no part in setting the execution up. -/
theorem begun_congr {r' : Request} (definition : w'.file r.definition = w.file r.definition)
    (input : w'.input = w.input)
    (same : r' = { r with state := r'.state, signal := r'.signal }) :
    begun w' r' = begun w r := by
  rw [same, begun, begun, loadProcess_congr definition, readVariables_congr input]

/-- Either no snapshot is given, or the one in the file is taken up whole. -/
theorem resume_cases {state : Option String} (resumed : resume w e state = .ok e₀) :
    (state = none ∧ e₀ = e) ∨
      ∃ path s, state = some path ∧ loadSnapshot w path = .ok s ∧
        e.applyState s = (.ok (), e₀) := by
  cases state with
  | none =>
      cases resumed
      exact .inl ⟨rfl, rfl⟩
  | some path =>
      obtain ⟨s, loaded, applied⟩ := exists_of_bind_eq_ok resumed
      refine .inr ⟨path, s, rfl, loaded, ?_⟩
      split at applied
      · cases applied
      · next same =>
          cases applied
          exact same

/-- Taking up a snapshot neither gives a result nor suspends. -/
theorem resume_frame {state : Option String} (resumed : resume w e state = .ok e₀) :
    e₀.result = e.result ∧ e₀.postponement = e.postponement := by
  rcases resume_cases resumed with ⟨_, rfl⟩ | ⟨_, s, _, _, applied⟩
  · exact ⟨rfl, rfl⟩
  · have frame := e.applyState_frame s
    rw [applied] at frame
    rw [show e₀ = _ from frame]
    exact ⟨rfl, rfl⟩

theorem resume_some {path : String} {s : Snapshot} (loaded : loadSnapshot w path = .ok s)
    (applied : e.applyState s = (.ok (), e₀)) : resume w e (some path) = .ok e₀ := by
  rw [resume, loaded]
  dsimp only [bind, Except.bind]
  rw [applied]

end ProcessStep.Step
