import ProcessStep.Definition.Basic
import ProcessStep.Definition.Message

/-!
Definitions as data. Optional fields that are absent are left out, all others are written even
where they have their default.
-/

namespace ProcessStep

namespace Definition

def Parameter.toJson (p : Parameter) : Json :=
  .ofTable <| (Table.ofList [("name", Json.str p.name)])
    |>.insertSome "expression" (p.expression.map .str)
    |>.insertSome "template" (p.template.map .str)
    |>.insertSome "value" p.literal

def Mapping.toJson (m : Mapping) : Json :=
  .object [("input", .arr (m.input.map (·.toJson))), ("output", .arr (m.output.map (·.toJson)))]

def Field.toJson (f : Field) : Json :=
  .ofTable <| (Table.ofList [("id", Json.str f.id), ("type", .str f.type)])
    |>.insertSome "label" (f.label.map .str)
    |>.insertSome "defaultValue" (f.default.map .str)

def Form.toJson (f : Form) : Json :=
  .ofTable <| (Table.ofList [("fields", Json.arr (f.fields.map (·.toJson)))])
    |>.insertSome "key" (f.key.map .str)

def Activity.toJson (a : Activity) : Json :=
  .ofTable <| (Table.ofList [("id", Json.str a.id), ("type", .str a.type)])
    |>.insertSome "name" (a.name.map .str)
    |>.insertSome "io" (a.mapping.map (·.toJson))
    |>.insertSome "form" (a.form.map (·.toJson))

def Flow.toJson (f : Flow) : Json :=
  .ofTable <| (Table.ofList
      [("id", Json.str f.id), ("sourceRef", .str f.source), ("targetRef", .str f.target),
        ("isDefault", .bool f.isDefault)])
    |>.insertSome "condition" (f.condition.map .str)

def Process.toJson (p : Process) : Json :=
  .object [("id", .str p.id), ("name", .str p.name),
    ("activities", .arr (p.activities.map (·.toJson))),
    ("sequenceFlows", .arr (p.flows.map (·.toJson)))]

end Definition

def RestorePolicy.name : RestorePolicy → String
  | .lenient => "lenient"
  | .strict => "strict"

def ExecutionConfig.toJson (c : ExecutionConfig) : Json :=
  .object [("restore_policy", .str c.restorePolicy.name)]

def Failure.toJson (f : Failure) : Json :=
  .ofTable <| (Table.ofList [("message", Json.str f.message)])
    |>.insertSome "code" (f.code.map .str)

end ProcessStep
