import ProcessStep.Json.Printer
import ProcessStep.Proofs.Trimming
import ProcessStep.Resolution.Expression

/-!
Expressions in a wrapper and without one. An expression is read from its source: the text without
the blanks around it or, where the text begins and ends as a wrapper does (`Wrapped`), what stands
in the wrapper without the blanks around that. A source is always tight (`tight_unwrap`), and of a
text that is put into a wrapper nothing but blanks is taken off, whatever braces there are in it
(`unwrap_wrap`). All else of the text is seen only where an error quotes it (`Scope.resolve_eq`). So
the wrapper makes no difference to an expression without one (`Scope.wrapper_is_transparent`).
-/

namespace ProcessStep

open Expression (Context Problem Term)
open Text (Blank Tight trim)

variable {s t body before after : List Char}

/-! ### Wrapped texts -/

/-- The text begins with a dollar sign and an opening brace, and ends with a closing brace. -/
def Wrapped (t : List Char) : Prop := ['$', '\x7b'] <+: t ∧ ['\x7d'] <:+ t

instance (t : List Char) : Decidable (Wrapped t) := inferInstanceAs (Decidable (_ ∧ _))

def wrap (body : List Char) : List Char := '$' :: '\x7b' :: body ++ ['\x7d']

/-- The beginning and the end of a wrapper have no character in common. -/
theorem wrapped_iff : Wrapped t ↔ ∃ body, t = wrap body := by
  constructor
  · rintro ⟨⟨rest, rfl⟩, front, ends⟩
    have last := congrArg List.getLast? ends
    rcases List.eq_nil_or_concat' rest with rfl | ⟨body, c, rfl⟩
    · rw [List.getLast?_concat] at last
      cases last
    · rw [← List.append_assoc, List.getLast?_concat, List.getLast?_concat] at last
      cases last
      exact ⟨body, rfl⟩
  · rintro ⟨body, rfl⟩
    exact ⟨⟨body ++ ['\x7d'], rfl⟩, '$' :: '\x7b' :: body, rfl⟩

theorem tight_wrap (body : List Char) : Tight (wrap body) := by
  constructor
  · rintro c ⟨⟩
    rfl
  · rw [wrap, List.getLast?_concat]
    rintro c ⟨⟩
    rfl

/-! ### Sources -/

theorem unwrap_of_trim_eq_wrap (whole : trim s = wrap body) : unwrap s = trim body := by
  rw [unwrap, whole]
  show (if (body ++ ['\x7d']).getLast? = some '\x7d' then trim (body ++ ['\x7d']).dropLast
    else _) = _
  rw [List.getLast?_concat, if_pos rfl, List.dropLast_concat]

/-- Without a wrapper only the blanks around are taken off. -/
theorem unwrap_of_not_wrapped (bare : ¬ Wrapped (trim s)) : unwrap s = trim s := by
  rw [unwrap]
  split
  · next rest begins =>
    rw [begins]
    refine if_neg fun last => bare ?_
    obtain ⟨body, rfl⟩ := List.getLast?_eq_some_iff.mp last
    exact wrapped_iff.mpr ⟨body, begins⟩
  · rfl

/-- One wrapper is taken off, with the blanks at its two sides. -/
theorem unwrap_wrap (blank : Blank before) (blank' : Blank after) (body : List Char) :
    unwrap (before ++ wrap body ++ after) = trim body :=
  unwrap_of_trim_eq_wrap (Text.trim_append (tight_wrap body) blank blank')

/-- No blank is left around a source. -/
theorem tight_unwrap (s : List Char) : Tight (unwrap s) := by
  by_cases wrapped : Wrapped (trim s)
  · obtain ⟨body, whole⟩ := wrapped_iff.mp wrapped
    rw [unwrap_of_trim_eq_wrap whole]
    exact (Text.exists_of_trim body).1
  · rw [unwrap_of_not_wrapped wrapped]
    exact (Text.exists_of_trim s).1

/-- A wrapper is taken off exactly if there is one. -/
theorem unwrap_eq_trim_iff : unwrap s = trim s ↔ ¬ Wrapped (trim s) := by
  refine ⟨fun same wrapped => ?_, unwrap_of_not_wrapped⟩
  obtain ⟨body, whole⟩ := wrapped_iff.mp wrapped
  rw [unwrap_of_trim_eq_wrap whole, whole] at same
  -- Without its wrapper the text is shorter.
  have shorter := Text.length_trim_le body
  rw [same, wrap, List.length_append] at shorter
  simp only [List.length_cons, List.length_nil] at shorter
  omega

/-! ### Answers -/

/-- Why a source has no value as data, whatever expression it is the source of. -/
inductive Fault where
  | compile (problem : Problem)
  | evaluate (problem : Problem)
  | conversion

/-- The error of an expression, which is quoted as it was given. -/
def ResolutionError.quoting (expression : String) : Fault → ResolutionError
  | .compile p => .compile expression p
  | .evaluate p => .evaluate expression p
  | .conversion => .conversion expression

/-- Of the message only the quoted text depends on the expression. -/
theorem ResolutionError.message_quoting (f : Fault) : ∃ opening closing : String,
    ∀ expression, (quoting expression f).message = opening ++ expression ++ closing := by
  cases f with
  | compile p =>
      refine ⟨"failed to compile expression '", "': " ++ p.message, fun expression => ?_⟩
      show "failed to compile expression '" ++ expression ++ "': " ++ p.message = _
      rw [String.append_assoc]
  | evaluate p =>
      refine ⟨"failed to evaluate expression '", "': " ++ p.message, fun expression => ?_⟩
      show "failed to evaluate expression '" ++ expression ++ "': " ++ p.message = _
      rw [String.append_assoc]
  | conversion =>
      exact ⟨"expression '", "' produced a value that is not valid JSON: *", fun _ => rfl⟩

namespace Scope

/-- The value that a source has in the scope: the source is read as a term, and the value of the
term has to be data. -/
def answer (s : Scope) (source : List Char) : Except Fault Json :=
  match Term.ofText source with
  | .error p => .error (.compile p)
  | .ok t =>
      match t.eval (Context.ofScope s) with
      | .error p => .error (.evaluate p)
      | .ok v =>
          match v.toJson? with
          | some v => .ok v
          | none => .error .conversion

/-- An expression has the answer of its source, and an error quotes the expression. -/
theorem resolve_eq (s : Scope) (expression : String) : s.resolve expression =
    (s.answer (unwrap expression.toList)).mapError (.quoting expression) := by
  rw [resolve, answer]
  cases Term.ofText (unwrap expression.toList) with
  | error p => rfl
  | ok t =>
      simp only [evaluate]
      cases t.eval (Context.ofScope s) with
      | error p => rfl
      | ok v =>
          dsimp only
          cases v.toJson? <;> rfl

/-- Expressions with one source have the same answer, but for the text that an error quotes. -/
theorem answer_of_unwrap_eq (s : Scope) {e e' : String}
    (same : unwrap e.toList = unwrap e'.toList) : ∃ answer : Except Fault Json,
      s.resolve e = answer.mapError (.quoting e) ∧
        s.resolve e' = answer.mapError (.quoting e') := by
  refine ⟨s.answer (unwrap e.toList), s.resolve_eq e, ?_⟩
  rw [same]
  exact s.resolve_eq e'

/-- The source of an expression is tight, the expression has the answer of its source, and an error
quotes it as it was given. Of a text in a wrapper the source is the text without the blanks at its
ends. That is the source of the text itself exactly if the text has no wrapper of its own, and then
the wrapper changes nothing: the value is the same, or the error but for the text that it quotes. -/
theorem wrapper_is_transparent (scope : Scope) (s : String) {before after : String}
    (blank : Blank before.toList) (blank' : Blank after.toList) :
    let text := before ++ "$\x7b" ++ s ++ "\x7d" ++ after
    (∀ e : String, Tight (unwrap e.toList) ∧
        scope.resolve e = (scope.answer (unwrap e.toList)).mapError (.quoting e)) ∧
      (∀ f : Fault, ∃ opening closing : String, ∀ e,
        (ResolutionError.quoting e f).message = opening ++ e ++ closing) ∧
      (∃ left right, Blank left ∧ Blank right ∧
        s.toList = left ++ unwrap text.toList ++ right) ∧
      (unwrap text.toList = unwrap s.toList ↔ ¬ Wrapped (trim s.toList)) ∧
      (¬ Wrapped (trim s.toList) → ∃ answer : Except Fault Json,
        scope.resolve text = answer.mapError (.quoting text) ∧
          scope.resolve s = answer.mapError (.quoting s)) := by
  intro text
  have chars : text.toList = before.toList ++ wrap s.toList ++ after.toList := by
    simp [text, wrap]
  have source : unwrap text.toList = trim s.toList := by
    rw [chars, unwrap_wrap blank blank']
  have same : unwrap text.toList = unwrap s.toList ↔ ¬ Wrapped (trim s.toList) := by
    rw [source, eq_comm, unwrap_eq_trim_iff]
  refine ⟨fun e => ⟨tight_unwrap e.toList, scope.resolve_eq e⟩, ResolutionError.message_quoting,
    ?_, same, fun bare => scope.answer_of_unwrap_eq (same.mpr bare)⟩
  rw [source]
  exact (Text.exists_of_trim s.toList).2

def rating : Scope := (Environment.ofVariables [("rate", .int 2)]).scope []

/-- The braces of a map are not those of a wrapper, and neither are those of an expression that only
begins as a wrapper does. It is not well formed, and stays so in a wrapper. -/
theorem braces_wrapper_is_transparent :
    (rating.resolve "\n$\x7b\x7b'rate': variables.rate\x7d \x7d").map Json.compact =
        .ok "\x7b\"rate\":2\x7d" ∧
      rating.resolve "$\x7b$\x7brate\x7d + 1\x7d " =
        .error (.compile "$\x7b$\x7brate\x7d + 1\x7d " .malformed) := by
  have nothing : Blank "".toList := by decide
  have line : Blank "\n".toList := by decide
  have space : Blank " ".toList := by decide
  constructor
  · have value : (rating.resolve "\x7b'rate': variables.rate\x7d ").map Json.compact =
      .ok "\x7b\"rate\":2\x7d" := by decide +kernel
    obtain ⟨-, -, -, -, alike⟩ :=
      wrapper_is_transparent rating "\x7b'rate': variables.rate\x7d " line nothing
    obtain ⟨answer, wrapped, bare⟩ := alike (by decide)
    rw [bare] at value
    cases answer with
    | error f => cases value
    | ok v => exact (congrArg _ wrapped).trans value
  · have value : (rating.resolve "$\x7brate\x7d + 1").map Json.compact =
      .error (.compile "$\x7brate\x7d + 1" .malformed) := by decide +kernel
    obtain ⟨-, -, -, -, alike⟩ :=
      wrapper_is_transparent rating "$\x7brate\x7d + 1" nothing space
    obtain ⟨answer, wrapped, bare⟩ := alike (by decide)
    rw [bare] at value
    cases answer with
    | ok v => cases value
    | error f =>
        cases f with
        | evaluate | conversion => cases value
        | compile p =>
            cases value
            exact wrapped

end Scope

end ProcessStep
