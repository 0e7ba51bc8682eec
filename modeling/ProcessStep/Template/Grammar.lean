import ProcessStep.Expression.Grammar
import ProcessStep.Template.Basic

/-!
The grammar of templates: pieces up to the end, or up to a tag that ends the statement they are
in. The statements are `if`, `for`, `set` and `with`. Left out are recursive loops and the statements
`autoescape`, `block`, `break`, `call`, `continue`, `do`, `extends`, `filter`, `from`, `import`,
`include` and `macro`: their tags are malformed.
-/

namespace ProcessStep.Template.Grammar

open Expression (Outcome Term Token)
open Expression.Grammar (arguments deepest dottedName enough expect expression leftToRight
  phraseLength stuck)

def reserved : List String :=
  ["true", "True", "false", "False", "none", "None", "loop", "self"]

def closeTag : List Token → Outcome (List Token)
  | .closeTag :: ts => .ok ts
  | ts => stuck ts

/-- The last of the attributes that follow a target, which is then a member of what is before it. -/
def targetMember (object : Term) (s : String) : List Token → Outcome (Target × List Token)
  | .sign "." :: .name t :: ts => targetMember (.member object s) t ts
  | .sign "." :: ts => stuck ts
  | ts => .ok (.member object s, ts)

/-- A name to assign to; with `members`, also a member of what has the name. -/
def targetName (members : Bool) : List Token → Outcome (Target × List Token)
  | .name s :: ts =>
      if reserved.contains s then .error .malformed
      else match members, ts with
        | true, .sign "." :: .name t :: ts => targetMember (.name s) t ts
        | true, .sign "." :: ts => stuck ts
        | _, ts => .ok (.name s, ts)
  | ts => stuck ts

def endsTargets : List Token → Bool
  | .sign ")" :: _ => true
  | .closeTag :: _ => true
  | .closeOutput :: _ => true
  | .name "in" :: _ => true
  | _ => false

mutual

def target (fuel : Nat) (members : Bool) (ts : List Token) : Outcome (Target × List Token) :=
  match fuel with
  | 0 => .error .malformed
  | fuel + 1 => do
      let (found, isList, ts) ← targets fuel members ts
      match found, isList with
      | [t], false => .ok (t, ts)
      | found, _ => .ok (.each found, ts)

def targets (fuel : Nat) (members : Bool) (ts : List Token) :
    Outcome (List Target × Bool × List Token) :=
  match fuel with
  | 0 => .error .malformed
  | fuel + 1 =>
      if endsTargets ts then .ok ([], false, ts)
      else do
        let (t, ts) ← match ts with
          | .sign "(" :: ts => do
              let (t, ts) ← target fuel members ts
              .ok (t, ← expect ")" ts)
          | ts => targetName members ts
        match ts with
        | .sign "," :: ts => do
            let (rest, _, ts) ← targets fuel members ts
            .ok (t :: rest, true, ts)
        | ts => .ok ([t], false, ts)

end

def bindings (fuel depth : Nat) (first : Bool) (ts : List Token) :
    Outcome (List (Target × Term) × List Token) :=
  match fuel with
  | 0 => .error .malformed
  | fuel + 1 =>
      match ts with
      | .closeTag :: ts => .ok ([], ts)
      | ts => do
          let ts ← if first then .ok ts else expect "," ts
          let (t, ts) ← match ts with
            | .sign "(" :: ts => do
                let (t, ts) ← target (fuel + 1) false ts
                .ok (t, ← expect ")" ts)
            | ts => targetName false ts
          let ts ← expect "=" ts
          let (e, ts) ← expression (enough ts) depth ts
          let (rest, ts) ← bindings fuel depth false ts
          .ok ((t, e) :: rest, ts)

def captureFilters (fuel depth : Nat) (ts : List Token) :
    Outcome (List (String × List Expression.Argument) × List Token) :=
  match fuel with
  | 0 => .error .malformed
  | fuel + 1 =>
      match ts with
      | .sign "|" :: .name s :: ts => do
          let (s, ts) ← dottedName s ts
          let (args, ts) ← match ts with
            | .sign "(" :: ts => arguments (enough ts) depth 0 false ts
            | ts => .ok ([], ts)
          let (rest, ts) ← captureFilters fuel depth ts
          .ok ((s, args) :: rest, ts)
      | .sign "|" :: ts => stuck ts
      | ts => .ok ([], ts)

/-- The items after the first one of a list that is written without brackets; a comma may stand
after the last one. -/
def openItems (fuel depth : Nat) (ts : List Token) : Outcome (List Term × List Token) :=
  match fuel with
  | 0 => .error .malformed
  | fuel + 1 =>
      match ts with
      | .sign "," :: .closeTag :: ts => .ok ([], .closeTag :: ts)
      | .sign "," :: ts => do
          let (t, ts) ← expression (enough ts) depth ts
          let (rest, ts) ← openItems fuel depth ts
          .ok (t :: rest, ts)
      | ts => .ok ([], ts)

/-- What is assigned: an expression, or several with commas as a list. -/
def assigned (depth : Nat) (ts : List Token) : Outcome (Term × List Token) := do
  let (t, ts) ← expression (enough ts) depth ts
  match ts with
  | .sign "," :: _ => do
      let (rest, ts) ← openItems (phraseLength ts + 1) depth ts
      .ok (.list (t :: rest), ts)
  | ts => .ok (t, ts)


mutual

/-- Pieces up to a tag that begins with one of the given words, which is left, or up to the end
when there are none. -/
def pieces (fuel depth : Nat) (stops : List String) (ts : List Token) :
    Outcome (List Piece × List Token) :=
  match fuel with
  | 0 => .error .malformed
  | fuel + 1 =>
      match ts with
      | [] => if stops.isEmpty then .ok ([], []) else .error .malformed
      | .plain s :: ts => do
          let (rest, ts) ← pieces fuel depth stops ts
          .ok (.plain s :: rest, ts)
      | .openOutput :: ts => do
          let (e, ts) ← expression (enough ts) depth ts
          match ts with
          | .closeOutput :: ts => do
              let (rest, ts) ← pieces fuel depth stops ts
              .ok (.output e :: rest, ts)
          | ts => stuck ts
      | .openTag :: .name s :: ts =>
          if stops.contains s then .ok ([], .name s :: ts)
          else if deepest ≤ depth then .error .malformed
          else do
            let (p, ts) ← statement fuel (depth + 1) s ts
            let ts ← closeTag ts
            let (rest, ts) ← pieces fuel depth stops ts
            .ok (p :: rest, ts)
      | .openTag :: ts => stuck ts
      | ts => stuck ts

/-- A statement after its first word, up to the end of its last tag. -/
def statement (fuel depth : Nat) (word : String) (ts : List Token) :
    Outcome (Piece × List Token) :=
  match fuel with
  | 0 => .error .malformed
  | fuel + 1 =>
      match word with
      | "if" => condition fuel depth ts
      | "for" => do
          let (t, ts) ← target (phraseLength ts + 2) false ts
          let ts ← match ts with
            | .name "in" :: ts => .ok ts
            | ts => stuck ts
          let (source, ts) ← leftToRight (enough ts) 0 depth ts
          let (filter, ts) ← match ts with
            | .name "if" :: ts => do
                let (e, ts) ← expression (enough ts) depth ts
                .ok (some e, ts)
            | ts => .ok (none, ts)
          let ts ← closeTag ts
          let (body, ts) ← pieces fuel depth ["endfor", "else"] ts
          match ts with
          | .name "else" :: ts => do
              let ts ← closeTag ts
              let (other, ts) ← pieces fuel depth ["endfor"] ts
              .ok (.loop t source filter body other, ts.drop 1)
          | ts => .ok (.loop t source filter body [], ts.drop 1)
      | "set" => do
          let (t, ts) ← target (phraseLength ts + 2) true ts
          match ts with
          | .sign "=" :: ts => do
              let (e, ts) ← assigned depth ts
              .ok (.assign t e, ts)
          | ts => do
              let (filters, ts) ← captureFilters (phraseLength ts + 1) depth ts
              let ts ← closeTag ts
              let (body, ts) ← pieces fuel depth ["endset"] ts
              .ok (.capture t filters body, ts.drop 1)
      | "with" => do
          let (found, ts) ← bindings (phraseLength ts + 2) depth true ts
          let (body, ts) ← pieces fuel depth ["endwith"] ts
          .ok (.within found body, ts.drop 1)
      | _ => .error .malformed

/-- A condition with its branches, up to the word that ends the last one. -/
def condition (fuel depth : Nat) (ts : List Token) : Outcome (Piece × List Token) :=
  match fuel with
  | 0 => .error .malformed
  | fuel + 1 => do
      let (c, ts) ← leftToRight (enough ts) 0 depth ts
      let ts ← closeTag ts
      let (yes, ts) ← pieces fuel depth ["endif", "else", "elif"] ts
      match ts with
      | .name "else" :: ts => do
          let ts ← closeTag ts
          let (no, ts) ← pieces fuel depth ["endif"] ts
          .ok (.choose c yes no, ts.drop 1)
      | .name "elif" :: ts => do
          let (p, ts) ← condition fuel depth ts
          .ok (.choose c yes [p], ts)
      | ts => .ok (.choose c yes [], ts.drop 1)

end

def template (s : List Char) : Outcome (List Piece) := do
  let ts := Expression.templateTokens s
  let (found, _) ← pieces (3 * ts.length + 3) 0 [] ts
  .ok found

end ProcessStep.Template.Grammar
