import ProcessStep.Expression.Evaluation
import ProcessStep.Template.Grammar

/-!
The text of a template. Each round of a loop and the body of `with` have a frame of their own,
which assignments in them go to; in a round the name `loop` stands for the place of the item. The
functions of a loop, `loop.cycle` and `loop.changed`, are left out.
-/

namespace ProcessStep.Template

open Expression (Argument Context Outcome Term Value)

/-- The text so far, and the names as they stand. -/
structure Canvas where
  context : Context
  text : String

namespace Canvas

def write (c : Canvas) (s : String) : Canvas :=
  { c with text := c.text ++ s }

def bind (c : Canvas) (name : String) (v : Value) : Canvas :=
  match c.context.frames with
  | [] => { c with context.frames := [Table.insert [] name v] }
  | f :: rest => { c with context.frames := Table.insert f name v :: rest }

def push (c : Canvas) : Canvas :=
  { c with context.frames := [] :: c.context.frames }

def pop (c : Canvas) : Canvas :=
  { c with context.frames := c.context.frames.drop 1 }

end Canvas

def parts? : Value → Option (List Value)
  | .map entries => some (entries.map (·.1))
  | v => v.listed?

mutual

/-- Assigns a value; for a list of targets the value has to have as many items. No value has
members that can be assigned. -/
def assign (c : Canvas) (v : Value) : Target → Outcome Canvas
  | .name s => .ok (c.bind s v)
  | .member object _ => do
      let _ ← object.eval c.context
      .error .invalidOperation
  | .each targets =>
      match parts? v with
      | none => .error .cannotUnpack
      | some vs => if vs.length = targets.length then assignAll c vs targets
          else .error .cannotUnpack

def assignAll (c : Canvas) (vs : List Value) : List Target → Outcome Canvas
  | [] => .ok c
  | t :: targets =>
      match vs with
      | [] => .ok c
      | v :: vs => do
          let c ← assign c v t
          assignAll c vs targets

end

/-- What `loop` stands for in one round, at place `i` of `length` items. -/
def loopValue (length : Nat) (isCounted : Bool) (i : Nat) (previous next : Value) : Value :=
  let known (n : Nat) : Value := if isCounted then .count n else .undefined
  Value.mapOf [
    (.text "depth", .count 1), (.text "depth0", .count 0), (.text "first", .bool (i == 0)),
    (.text "index", .count (i + 1)), (.text "index0", .count i),
    (.text "last", .bool (isCounted && i + 1 == length)), (.text "length", known length),
    (.text "nextitem", next), (.text "previtem", previous),
    (.text "revindex", known (length - i)), (.text "revindex0", known (length - i - 1))]

/-- The items of a loop, each with what `loop` stands for in its round. -/
def rounds (xs : List Value) (isCounted : Bool) : List (Value × Value) :=
  let length := xs.length
  let neighbours := (Value.undefined :: xs).zip (xs.drop 1 ++ [.undefined])
  (xs.zip neighbours).zipIdx.map fun ((x, previous, next), i) =>
    (loopValue length isCounted i previous next, x)

/-- What a loop goes through, and whether the number of items is known beforehand; that of
characters is not. -/
def loopItems (v : Value) : Outcome (List Value × Bool) :=
  match v.iterate? with
  | some xs => .ok (xs, v.kind ≠ .text)
  | none => .error .invalidOperation

/-- The items for which a condition holds when they are assigned to the target. -/
def passing (c : Canvas) (target : Target) (condition : Option Term)
    (found : List Value × Bool) : Outcome (List Value × Bool) :=
  match condition with
  | none => .ok found
  | some t => do
      let kept ← found.1.filterM fun x => do
        let c ← assign c.push x target
        .ok (← t.eval c.context).isTruthy
      .ok (kept, true)

def filtered (c : Context) (s : String) (filters : List (String × List Argument)) :
    Outcome Value :=
  filters.foldlM
    (fun v (name, args) => do
      Expression.Filter.apply name v (← Expression.evalArguments c args))
    (.text s)

def bindAll (c : Canvas) (bindings : List (Target × Term)) : Outcome Canvas :=
  bindings.foldlM
    (fun c (target, t) => do assign c (← t.eval c.context) target) c

mutual

def Piece.render (c : Canvas) : Piece → Outcome Canvas
  | .plain s => .ok (c.write s)
  | .output t => do .ok (c.write (← t.eval c.context).toText)
  | .choose condition yes no => do
      if (← condition.eval c.context).isTruthy then renderAll c yes else renderAll c no
  | .loop target source condition body other => do
      let found ← loopItems (← source.eval c.context)
      let (xs, isCounted) ← passing c target condition found
      let c ← (rounds xs isCounted).foldlM
        (fun c (place, x) => do
          let c ← assign (c.push.bind "loop" place) x target
          .ok (← renderAll c body).pop)
        c
      if xs.isEmpty then renderAll c other else .ok c
  | .assign target t => do assign c (← t.eval c.context) target
  | .capture target filters body => do
      let inner ← renderAll { c with text := "" } body
      let v ← filtered inner.context inner.text filters
      assign { inner with text := c.text } v target
  | .within bindings body => do
      let inner ← bindAll c.push bindings
      .ok (← renderAll inner body).pop

def renderAll (c : Canvas) : List Piece → Outcome Canvas
  | [] => .ok c
  | p :: rest => do
      let c ← p.render c
      renderAll c rest

end

def render (template : String) (s : Scope) : Outcome String := do
  let found ← Grammar.template template.toList
  let c : Canvas := { context := { Context.ofScope s with frames := [[]] }, text := "" }
  .ok (← renderAll c found).text

end ProcessStep.Template
