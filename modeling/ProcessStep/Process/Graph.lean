import ProcessStep.Definition.Basic

/-!
The graph of a process: which activities follow and precede each activity, along flows in their
order, and which are entries, forks and joins. A graph can be made of any ids and flows; flows
may name activities that are not among the ids.
-/

namespace ProcessStep

structure Graph where
  /-- Targets of the flows that leave an activity, in the order of the flows. -/
  successors : Table (List String)
  /-- Sources of the flows that reach an activity, in the order of the flows. -/
  predecessors : Table (List String)
  /-- Activities that no flow reaches, in the order of the ids. -/
  entries : List String
  /-- Activities that more than one flow leaves. -/
  forks : List String
  /-- Activities that more than one flow reaches. -/
  joins : List String

namespace Graph

open Definition (Flow)

def branching (t : Table (List String)) : List String :=
  (t.filter fun e => 1 < e.2.length).map (·.1)

def ofFlows (ids : List String) (flows : List Flow) : Graph :=
  let successors := flows.foldl (fun t f => Table.push t f.source f.target) []
  let predecessors := flows.foldl (fun t f => Table.push t f.target f.source) []
  { successors
    predecessors
    entries := ids.filter fun id => ((Table.get? predecessors id).getD []).isEmpty
    forks := branching successors
    joins := branching predecessors }

/-- The activities that flows from `id` reach, in the order of the flows. -/
def following (g : Graph) (id : String) : List String :=
  (g.successors.get? id).getD []

/-- The activities that flows to `id` leave, in the order of the flows. -/
def preceding (g : Graph) (id : String) : List String :=
  (g.predecessors.get? id).getD []

def isFork (g : Graph) (id : String) : Bool :=
  g.forks.contains id

def isJoin (g : Graph) (id : String) : Bool :=
  g.joins.contains id

end Graph

end ProcessStep
