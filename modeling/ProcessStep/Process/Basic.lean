import ProcessStep.Process.Graph
import ProcessStep.Text.Quoted

/-!
Processes whose parts fit together. `LinkedProcess.link` attaches every flow of a definition to
the activities at its ends and refuses a definition with a repeated id, a flow that leads
nowhere, or an activity with more than one default flow. The first of these problems is
reported, activities before flows and flows before defaults.
-/

namespace ProcessStep

open Definition (Flow)

/-- Why a definition is no process, or what a process does not have. -/
inductive ProcessError where
  | activityNotFound (id : String)
  | duplicateActivity (id : String)
  | duplicateFlow (id : String)
  | unknownEnd (flow source target : String)
  | multipleDefaults (activity : String) (flows : List String)
  deriving DecidableEq

def ProcessError.message : ProcessError → String
  | .activityNotFound id => "activity not found: " ++ id
  | .duplicateActivity id => "duplicate activity id: " ++ id
  | .duplicateFlow id => "duplicate sequence flow id: " ++ id
  | .unknownEnd flow source target =>
      "sequence flow '" ++ flow ++ "' references unknown activity: source=" ++ source ++
        ", target=" ++ target
  | .multipleDefaults activity flows =>
      "activity '" ++ activity ++ "' has more than one default flow: " ++ Text.quotedList flows

/-- An activity with the flows that reach and leave it, in the order of the definition. -/
structure Activity extends Definition.Activity where
  inbound : List Flow
  outbound : List Flow

namespace Activity

def isFork (a : Activity) : Bool := 1 < a.outbound.length

def isJoin (a : Activity) : Bool := 1 < a.inbound.length

def inboundFlow? (a : Activity) (id : String) : Option Flow :=
  a.inbound.find? (·.id = id)

def outboundFlow? (a : Activity) (id : String) : Option Flow :=
  a.outbound.find? (·.id = id)

def defaultFlow? (a : Activity) : Option Flow :=
  a.outbound.find? (·.isDefault)

def inputParameters (a : Activity) : List Definition.Parameter :=
  (a.mapping.map (·.input)).getD []

def outputParameters (a : Activity) : List Definition.Parameter :=
  (a.mapping.map (·.output)).getD []

/-- An activity with those of the flows that touch it. -/
def link (flows : List Flow) (d : Definition.Activity) : Activity :=
  { d with
    inbound := flows.filter (·.target = d.id)
    outbound := flows.filter (·.source = d.id) }

/-- The ids of the default flows that leave the activity. -/
def defaultIds (a : Activity) : List String :=
  (a.outbound.filter (·.isDefault)).map (·.id)

end Activity

structure LinkedProcess where
  id : String
  name : String
  /-- In the order of the definition. -/
  activities : List Activity
  /-- The place of every activity in their list, under its id. -/
  places : Table Nat
  /-- The flows under their ids. -/
  flows : Table Flow
  graph : Graph

namespace LinkedProcess

/-- The first element that also stands earlier in the list. -/
def firstRepeated? (seen : List String) : List String → Option String
  | [] => none
  | id :: rest => if seen.contains id then some id else firstRepeated? (id :: seen) rest

/-- The first flow whose id was used before or that does not join two of the activities. -/
def faultyFlow? (ids seen : List String) : List Flow → Option ProcessError
  | [] => none
  | f :: rest =>
      if seen.contains f.id then some (.duplicateFlow f.id)
      else if !ids.contains f.source || !ids.contains f.target then
        some (.unknownEnd f.id f.source f.target)
      else faultyFlow? ids (f.id :: seen) rest

def ambiguousDefault? : List Activity → Option ProcessError
  | [] => none
  | a :: rest =>
      if 1 < a.defaultIds.length then some (.multipleDefaults a.id a.defaultIds)
      else ambiguousDefault? rest

/-- The process of a definition, if its parts fit together. -/
def link (d : Definition.Process) : Except ProcessError LinkedProcess :=
  let ids := d.activities.map (·.id)
  match firstRepeated? [] ids with
  | some id => .error (.duplicateActivity id)
  | none =>
      match faultyFlow? ids [] d.flows with
      | some e => .error e
      | none =>
          let activities := d.activities.map (Activity.link d.flows)
          match ambiguousDefault? activities with
          | some e => .error e
          | none =>
              .ok { id := d.id, name := d.name, activities, places := .ofList ids.zipIdx,
                    flows := .ofList (d.flows.map fun f => (f.id, f)),
                    graph := .ofFlows ids d.flows }

def activity (p : LinkedProcess) (id : String) : Except ProcessError Activity :=
  match (p.places.get? id).bind (p.activities[·]?) with
  | some a => .ok a
  | none => .error (.activityNotFound id)

def flow? (p : LinkedProcess) (id : String) : Option Flow :=
  p.flows.get? id

end LinkedProcess

end ProcessStep
