import ProcessStep.Proofs.Numerals
import ProcessStep.Proofs.Scopes
import ProcessStep.Proofs.Viewing
import ProcessStep.Proofs.Wrapping

/-!
Paths: a name and attributes of it, joined by points. A path whose parts are names is read as the
term that looks the attributes up one after the other, and with `not` before it as the negation of
that term (`ofText_chars`, `ofText_not_chars`), whatever blanks and wrapper are around them
(`unwrap_of_wraps`). Where a scope has data under the path, the term stands for these data
(`eval_term`).
-/

namespace ProcessStep

namespace Expression

/-! ### Names -/

namespace Token

variable {c : Char} {cs rest : List Char} {fuel : Nat}

/-- The letters that a name can begin with, by their code points. -/
theorem range_of_isNameStart (start : isNameStart c = true) :
    65 ≤ c.toNat ∧ c.toNat ≤ 90 ∨ c.toNat = 95 ∨ 97 ≤ c.toNat ∧ c.toNat ≤ 122 := by
  have range : (decide (c.val ≥ 'A'.val ∧ c.val ≤ 'Z'.val) ||
      (c.val ≥ 'a'.val && c.val ≤ 'z'.val) || c == '_') = true := start
  simp only [Bool.or_eq_true, Bool.and_eq_true, decide_eq_true_eq, ge_iff_le,
    UInt32.le_iff_toNat_le, beq_iff_eq] at range
  rcases range with (upper | lower) | rfl
  · exact .inl upper
  · exact .inr (.inr lower)
  · exact .inr (.inl rfl)

/-- A name goes on with what it can begin with, and with digits. -/
theorem isNameStart_or_isDigit (name : isNameChar c = true) :
    isNameStart c = true ∨ c.isDigit = true := by
  simp only [isNameChar, isNameStart, Char.isAlphanum, Bool.or_eq_true] at name ⊢
  rcases name with (alpha | digit) | underscore
  · exact .inl (.inl alpha)
  · exact .inr digit
  · exact .inl (.inr underscore)

theorem isNameChar_of_isNameStart (start : isNameStart c = true) : isNameChar c = true := by
  simp only [isNameStart, isNameChar, Char.isAlphanum, Bool.or_eq_true] at start ⊢
  exact start.imp_left .inl

theorem isBlank_of_isNameChar (name : isNameChar c = true) : Text.isBlank c = false := by
  rcases isNameStart_or_isDigit name with start | digit
  · have range := range_of_isNameStart start
    simp [Text.isBlank]
    omega
  · exact Decimal.isBlank_of_isDigit digit

theorem isGap_of_isNameStart (start : isNameStart c = true) : isGap c = false := by
  have range := range_of_isNameStart start
  have differs (d : Char) (other : d.toNat < 48) : c ≠ d := by
    rintro rfl
    omega
  simp [isGap, differs]
  omega

theorem isDigit_of_isNameStart (start : isNameStart c = true) : Decimal.isDigit c = false := by
  refine Bool.eq_false_iff.mpr fun digit => ?_
  have range := range_of_isNameStart start
  have range' := Decimal.range_of_isDigit digit
  omega

/-- A character that begins no name is another one. -/
theorem ne_of_isNameStart {d : Char} (start : isNameStart c = true)
    (other : isNameStart d = false) : c ≠ d := by
  rintro rfl
  rw [start] at other
  cases other

/-! ### Tokens -/

/-- Whether a text begins with a sign of two characters shows in its first character. -/
theorem not_longSign {s : List Char} (other : ∀ w ∈ longSigns, w.toList.head? ≠ some c) :
    longSigns.contains (String.ofList ((c :: s).take 2)) = false := by
  rw [List.contains_eq_mem, decide_eq_false_iff_not]
  intro member
  refine other _ member ?_
  rw [String.toList_ofList]
  rfl

/-- A name is a token up to the first character that belongs to no name. -/
theorem next_name (start : isNameStart c = true) (chars : ∀ d ∈ cs, isNameChar d = true)
    (stops : ∀ d, rest.head? = some d → isNameChar d = false) :
    next (c :: cs ++ rest) = .ok (.name (String.ofList (c :: cs)), rest, 0) := by
  have long : longSigns.contains (String.ofList ((c :: (cs ++ rest)).take 2)) = false :=
    not_longSign fun w listed same => by
      have signs : longSigns.all fun w => w.toList.head?.all (!isNameStart ·) := by decide
      have sign := List.all_eq_true.mp signs w listed
      simp [same, start] at sign
  have short : shortSigns.contains c = false := by
    rw [List.contains_eq_mem, decide_eq_false_iff_not]
    intro listed
    have signs : shortSigns.all (!isNameStart ·) := by decide
    have sign := List.all_eq_true.mp signs c listed
    simp [start] at sign
  have quote : (c = '\'' || c = '"') = false := by
    simp [ne_of_isNameStart start (show isNameStart '\'' = false from rfl),
      ne_of_isNameStart start (show isNameStart '"' = false from rfl)]
  have all : ∀ d ∈ c :: cs, isNameChar d = true :=
    List.forall_mem_cons.mpr ⟨isNameChar_of_isNameStart start, chars⟩
  have stopped : rest.takeWhile isNameChar = [] ∧ rest.dropWhile isNameChar = rest := by
    cases rest with
    | nil => exact ⟨rfl, rfl⟩
    | cons d rest => simp [stops d rfl]
  have span : (c :: (cs ++ rest)).takeWhile isNameChar = c :: cs ∧
      (c :: (cs ++ rest)).dropWhile isNameChar = rest := by
    rw [← List.cons_append, List.takeWhile_append_of_pos all, List.dropWhile_append_of_pos all,
      stopped.1, stopped.2, List.append_nil]
    exact ⟨rfl, rfl⟩
  rw [List.cons_append, next]
  simp only [long, quote, isDigit_of_isNameStart start, short, start, span, Bool.false_eq_true,
    if_false, if_true]

theorem next_point (s : List Char) : next ('.' :: s) = .ok (.sign ".", s, 0) := by
  have long : longSigns.contains (String.ofList (('.' :: s).take 2)) = false :=
    not_longSign (by decide)
  rw [next, if_neg (by simpa using long)]
  rfl

/-- Where no blank stands, the next token is read at once. -/
theorem ofExpression_of_next {s rest : List Char} {t : Token} {change : Int}
    (gapless : ∀ d, s.head? = some d → isGap d = false) (read : next s = .ok (t, rest, change)) :
    ofExpression (fuel + 1) s = t :: ofExpression fuel rest := by
  cases s with
  | nil => cases read
  | cons d s =>
      have kept : (d :: s).dropWhile isGap = d :: s :=
        List.dropWhile_cons_of_neg (by simp [gapless d rfl])
      rw [ofExpression.eq_def, kept]
      simp only [read]

/-- A gap before a token does not matter. -/
theorem ofExpression_gap (fuel : Nat) (s : List Char) :
    ofExpression fuel (' ' :: s) = ofExpression fuel s := by
  unfold ofExpression
  rw [show (' ' :: s).dropWhile isGap = s.dropWhile isGap from rfl]

end Token

/-! ### Terms -/

namespace Grammar

variable {phrase : Nat → Outcome (Term × List Token)} {t : Term} {ts : List Token}
  {n fuel level depth : Nat}

/-! At the end of the tokens every phrase ends. -/

theorem further_nil : further (fuel + 1) level depth t [] = .ok (t, []) := by
  rw [further]

theorem comparisons_nil : comparisons (fuel + 1) depth [] = .ok ([], []) := by
  rw [comparisons]
  rfl

theorem conditions_nil : conditions (fuel + 1) depth t [] = .ok (t, []) := by
  rw [conditions]
  simp

theorem accesses_nil : accesses (fuel + 1) depth t [] = .ok (t, []) := by
  rw [accesses] <;> simp

theorem pipes_nil : pipes (fuel + 1) depth t [] = .ok (t, []) := by
  rw [pipes] <;> simp

theorem accesses_point (s : String) (ts : List Token) :
    accesses (fuel + 1) depth t (.sign "." :: .name s :: ts) =
      accesses fuel depth (.member t s) ts := by
  rw [accesses]

theorem signed_name (shallow : depth < deepest) (s : String) (ts : List Token) :
    signed (fuel + 1) depth (.name s :: ts) = primary fuel (depth + 1) (.name s :: ts) := by
  rw [signed, if_neg (by omega)]
  simp

/-! From the tightest level to the whole expression. -/

/-- With so many steps or more the phrase is read as the term, and no token is left. -/
def Reads (phrase : Nat → Outcome (Term × List Token)) (n : Nat) (t : Term) : Prop :=
  ∀ fuel, n ≤ fuel → phrase fuel = .ok (t, [])

/-- Steps that are more than enough can be left over. -/
theorem Reads.of_succ (reads : ∀ fuel, n ≤ fuel → phrase (fuel + 1) = .ok (t, [])) :
    Reads phrase (n + 1) t := by
  intro fuel enough
  obtain ⟨fuel, rfl⟩ : ∃ m, fuel = m + 1 := ⟨fuel - 1, by omega⟩
  exact reads fuel (by omega)

/-- Behind the last operand of a level comes no operator. -/
theorem Reads.leftToRight (reads : Reads (operand · level depth ts) (n + 1) t) :
    Reads (leftToRight · level depth ts) (n + 2) t := .of_succ fun fuel enough => by
  rw [Grammar.leftToRight, show operand fuel level depth ts = _ from reads fuel enough]
  obtain ⟨fuel, rfl⟩ : ∃ m, fuel = m + 1 := ⟨fuel - 1, by omega⟩
  exact further_nil

/-- An operand of a level is a phrase of the next one. -/
theorem Reads.operand (notNegation : level ≠ 1) (notLast : level ≠ 5)
    (reads : Reads (Grammar.leftToRight · (level + 1) depth ts) n t) :
    Reads (operand · level depth ts) (n + 1) t := .of_succ fun fuel enough => by
  rw [Grammar.operand, if_neg notNegation, if_neg notLast]
  exact reads fuel enough

/-- What is read at the tightest level is read at the level of sums. -/
theorem Reads.sum (reads : Reads (postfixed · depth ts) (n + 1) t) :
    Reads (Grammar.leftToRight · 2 depth ts) (n + 9) t := by
  have last : Reads (Grammar.operand · 5 depth ts) (n + 2) t := .of_succ fun fuel enough => by
    rw [Grammar.operand, if_neg (by decide), if_pos rfl]
    exact reads fuel enough
  -- Each of the levels between has one operand, which is all of the next one.
  have products := (last.leftToRight.operand (by decide) (by decide)).leftToRight
  have texts := (products.operand (by decide) (by decide)).leftToRight
  exact (texts.operand (by decide) (by decide)).leftToRight

/-- So it is read where a negation may stand, if there is none. -/
theorem Reads.negation (reads : Reads (Grammar.leftToRight · 2 depth ts) (n + 1) t)
    (bare : ∀ rest, ts ≠ .name "not" :: rest) : Reads (negation · depth ts) (n + 2) t :=
  .of_succ fun fuel enough => by
    unfold Grammar.negation
    split
    · next rest => exact absurd rfl (bare rest)
    · rw [show Grammar.leftToRight fuel 2 depth ts = _ from reads fuel enough]
      obtain ⟨fuel, rfl⟩ : ∃ m, fuel = m + 1 := ⟨fuel - 1, by omega⟩
      show (comparisons (fuel + 1) depth [] >>= fun r => .ok (simpleCompare t r.1, r.2)) = _
      rw [comparisons_nil]
      rfl

theorem Reads.not (reads : Reads (Grammar.negation · depth ts) n t) :
    Reads (Grammar.negation · depth (.name "not" :: ts)) (n + 1) (.not t) :=
  .of_succ fun fuel enough => by
    rw [Grammar.negation, show Grammar.negation fuel depth ts = _ from reads fuel enough]
    rfl

/-- And with no `and`, `or` or condition behind it, it is the whole expression. -/
theorem Reads.expression (reads : Reads (Grammar.negation · 1 ts) (n + 1) t) :
    Reads (expression · 0 ts) (n + 7) t := by
  have second : Reads (Grammar.operand · 1 1 ts) (n + 2) t := .of_succ fun fuel enough => by
    rw [Grammar.operand, if_pos rfl]
    exact reads fuel enough
  -- Neither `and` nor `or` follows, and then no condition.
  have first := (second.leftToRight.operand (by decide) (by decide)).leftToRight
  have unconditional : Reads (conditional · 1 ts) (n + 6) t := .of_succ fun fuel enough => by
    rw [conditional, show Grammar.leftToRight fuel 0 1 ts = _ from first fuel enough]
    obtain ⟨fuel, rfl⟩ : ∃ m, fuel = m + 1 := ⟨fuel - 1, by omega⟩
    exact conditions_nil
  refine .of_succ fun fuel enough => ?_
  rw [Grammar.expression, if_neg (by decide)]
  exact unconditional fuel enough

end Grammar

/-! ### Paths -/

structure Path where
  head : String
  members : List String

namespace Path

open Grammar (Reads)
open Token (isNameStart isNameChar ofExpression)

/-- A text is a name if it begins as one and goes on as one. -/
def isName (s : String) : Bool :=
  match s.toList with
  | [] => false
  | c :: cs => isNameStart c && cs.all isNameChar

/-- Words that mean something else at the beginning of an expression. -/
def words : List String := ["not", "true", "True", "false", "False", "none", "None"]

/-- All parts are names, and the first means nothing else. -/
structure Proper (p : Path) : Prop where
  head : isName p.head = true
  members : ∀ m ∈ p.members, isName m = true
  free : p.head ∉ words

def tail (members : List String) : List Char :=
  members.flatMap fun m => '.' :: m.toList

def chars (p : Path) : List Char :=
  p.head.toList ++ tail p.members

def steps (members : List String) : List Token :=
  members.flatMap fun m => [.sign ".", .name m]

def term (p : Path) : Term :=
  p.members.foldl .member (.name p.head)

variable {p : Path} {s : String} {members : List String} {fuel : Nat}

theorem isName_iff : isName s = true ↔
    ∃ c cs, s.toList = c :: cs ∧ isNameStart c = true ∧ ∀ d ∈ cs, isNameChar d = true := by
  unfold isName
  cases s.toList with
  | nil => simp
  | cons c cs => simp

/-- Attributes begin with a point, which ends the name before them. -/
theorem head_tail (members : List String) :
    ∀ d, (tail members).head? = some d → isNameChar d = false := by
  cases members with
  | nil => exact fun _ none => nomatch none
  | cons m members =>
      rintro d ⟨⟩
      rfl

/-- A name is read up to the first character that no name has. -/
theorem ofExpression_name {rest : List Char} (name : isName s = true)
    (stops : ∀ d, rest.head? = some d → isNameChar d = false) :
    ofExpression (fuel + 1) (s.toList ++ rest) = .name s :: ofExpression fuel rest := by
  obtain ⟨c, cs, same, start, chars⟩ := isName_iff.mp name
  have word : String.ofList (c :: cs) = s := by rw [← same, String.ofList_toList]
  rw [same, Token.ofExpression_of_next _ (Token.next_name start chars stops), word]
  rintro d ⟨⟩
  exact Token.isGap_of_isNameStart start

/-- Attributes are read in two steps each, one for the point and one for the name. -/
theorem ofExpression_tail (names : ∀ m ∈ members, isName m = true)
    (enough : 2 * members.length ≤ fuel) : ofExpression fuel (tail members) = steps members := by
  induction members generalizing fuel with
  | nil => cases fuel <;> rfl
  | cons m members ih =>
      obtain ⟨name, names⟩ := List.forall_mem_cons.mp names
      rw [List.length_cons] at enough
      obtain ⟨fuel, rfl⟩ : ∃ n, fuel = n + 2 := ⟨fuel - 2, by omega⟩
      have point := Token.next_point (m.toList ++ tail members)
      rw [show tail (m :: members) = '.' :: (m.toList ++ tail members) from rfl,
        Token.ofExpression_of_next (by rintro d ⟨⟩; rfl) point,
        ofExpression_name name (head_tail members), ih names (by omega)]
      rfl

theorem length_tail (names : ∀ m ∈ members, isName m = true) :
    2 * members.length ≤ (tail members).length := by
  induction members with
  | nil => exact Nat.zero_le _
  | cons m members ih =>
      obtain ⟨name, names⟩ := List.forall_mem_cons.mp names
      obtain ⟨c, cs, same, _⟩ := isName_iff.mp name
      have longer := ih names
      simp only [tail, List.flatMap_cons, List.length_append, List.length_cons, same] at longer ⊢
      omega

/-- The tokens of a path are its names with points between them. -/
theorem tokens_chars (proper : p.Proper) : tokens p.chars = .name p.head :: steps p.members := by
  obtain ⟨c, cs, same, _⟩ := isName_iff.mp proper.head
  have enough := length_tail proper.members
  have length : p.chars.length = (cs.length + (tail p.members).length) + 1 := by
    simp only [chars, same, List.length_append, List.length_cons]
    omega
  rw [tokens, length, chars, ofExpression_name proper.head (head_tail _),
    ofExpression_tail proper.members (by omega)]

/-- The negation of a path begins with a token of its own. -/
theorem tokens_not_chars (proper : p.Proper) :
    tokens ("not ".toList ++ p.chars) = .name "not" :: .name p.head :: steps p.members := by
  obtain ⟨c, cs, same, _⟩ := isName_iff.mp proper.head
  have enough := length_tail proper.members
  have length : ("not ".toList ++ p.chars).length =
      (cs.length + (tail p.members).length + 3) + 1 + 1 := by
    simp only [chars, same, List.length_append, List.length_cons]
    show 4 + _ = _
    omega
  have word : "not ".toList ++ p.chars = "not".toList ++ (' ' :: p.chars) := rfl
  rw [tokens, length, word, ofExpression_name rfl (by rintro d ⟨⟩; rfl), Token.ofExpression_gap,
    chars, ofExpression_name proper.head (head_tail _), ofExpression_tail proper.members (by omega)]

/-- Attributes are read into each other, the first one innermost. -/
theorem accesses_steps (enough : members.length < fuel) (depth : Nat) (t : Term) :
    Grammar.accesses fuel depth t (steps members) = .ok (members.foldl .member t, []) := by
  induction members generalizing fuel t with
  | nil =>
      obtain ⟨fuel, rfl⟩ : ∃ m, fuel = m + 1 := ⟨fuel - 1, by omega⟩
      exact Grammar.accesses_nil
  | cons m members ih =>
      rw [List.length_cons] at enough
      obtain ⟨fuel, rfl⟩ : ∃ m, fuel = m + 1 := ⟨fuel - 1, by omega⟩
      exact (Grammar.accesses_point m _).trans (ih (by omega) _)

/-- A name that is no word of the language stands for itself. -/
theorem primary_name (free : p.head ∉ words) (fuel depth : Nat) (ts : List Token) :
    Grammar.primary (fuel + 1) depth (.name p.head :: ts) = .ok (.name p.head, ts) := by
  simp only [words, List.mem_cons, List.not_mem_nil, or_false, not_or] at free
  simp [Grammar.primary, free]

/-- A path is a name with its attributes, and no other operator takes part. -/
theorem reads_postfixed (free : p.head ∉ words) :
    Reads (Grammar.postfixed · 1 (.name p.head :: steps p.members)) (p.members.length + 3) p.term :=
  .of_succ fun fuel enough => by
    obtain ⟨fuel, rfl⟩ : ∃ m, fuel = m + 2 := ⟨fuel - 2, by omega⟩
    have signed : Grammar.signed (fuel + 2) 1 (.name p.head :: steps p.members) =
        .ok (.name p.head, steps p.members) := by
      rw [Grammar.signed_name (by decide), primary_name free]
    have accesses : Grammar.accesses (fuel + 2) 1 (.name p.head) (steps p.members) =
        .ok (p.term, []) := accesses_steps (by omega) 1 _
    rw [Grammar.postfixed, signed]
    show (Grammar.accesses (fuel + 2) 1 (.name p.head) (steps p.members) >>= fun r =>
      Grammar.pipes (fuel + 2) 1 r.1 r.2) = _
    rw [accesses]
    exact Grammar.pipes_nil

/-- Through all levels down to the operand, a path is read as its term. -/
theorem reads_negation (free : p.head ∉ words) :
    Reads (Grammar.negation · 1 (.name p.head :: steps p.members)) (p.members.length + 12)
      p.term := by
  refine (reads_postfixed free).sum.negation fun rest same => free ?_
  have head : p.head = "not" := by simpa using (List.cons.inj same).1
  rw [head]
  decide

/-- There are steps enough for the tokens of a path. -/
theorem enough_steps (before : List Token) (opens : ∀ t ∈ before, Grammar.isCloser t = false) :
    members.length + 20 ≤ Grammar.enough (before ++ steps members) := by
  have opens' : ∀ t ∈ steps members, Grammar.isCloser t = false := by
    intro t member
    obtain ⟨m, -, member⟩ := List.mem_flatMap.mp member
    simp only [List.mem_cons, List.not_mem_nil, or_false] at member
    rcases member with rfl | rfl <;> rfl
  -- Steps are counted up to what closes a phrase, and no token of a path does.
  have whole : (before ++ steps members).takeWhile (!Grammar.isCloser ·) =
      before ++ steps members := by
    refine List.takeWhile_eq_self_iff.mpr fun t member => ?_
    rcases List.mem_append.mp member with first | last
    · simp [opens t first]
    · simp [opens' t last]
  have length : (steps members).length = 2 * members.length := by
    simp [steps, List.length_flatMap, Nat.mul_comm]
  rw [Grammar.enough, Grammar.phraseLength, whole, List.length_append, length]
  omega

/-- With as many steps as the tokens allow, a phrase is read to its end. -/
theorem ofText_of_reads {ts : List Token} {n : Nat} {t : Term} {cs : List Char}
    (read : tokens cs = ts) (reads : Reads (Grammar.expression · 0 ts) n t)
    (enough : n ≤ Grammar.enough ts) : Term.ofText cs = .ok t := by
  have whole : Grammar.expression (Grammar.enough ts) 0 ts = .ok (t, []) := reads _ enough
  rw [Term.ofText, read, whole]
  rfl

/-- A path is read as its term by the tokenizer and the grammar. -/
theorem ofText_chars (proper : p.Proper) : Term.ofText p.chars = .ok p.term := by
  have enough : p.members.length + 20 ≤ Grammar.enough (.name p.head :: steps p.members) :=
    enough_steps [.name p.head] (by simp [Grammar.isCloser])
  exact ofText_of_reads (tokens_chars proper) (reads_negation proper.free).expression (by omega)

theorem ofText_not_chars (proper : p.Proper) :
    Term.ofText ("not ".toList ++ p.chars) = .ok (.not p.term) := by
  have enough : p.members.length + 20 ≤
      Grammar.enough (.name "not" :: .name p.head :: steps p.members) :=
    enough_steps [.name "not", .name p.head] (by simp [Grammar.isCloser])
  exact ofText_of_reads (tokens_not_chars proper) (reads_negation proper.free).not.expression
    (by omega)

/-! ### Data under a path -/

/-- The data that a scope has under a path, if it has any. The services are no data. -/
def bound? (s : Scope) (p : Path) : Option Json :=
  if p.head = "services" then none
  else (s.get? p.head).bind fun v => p.members.foldlM Json.field? v

variable {v w : Json} {c : Context} {t : Term} {k : String}

/-- The fields of an object are found under their names as texts. -/
theorem keyed?_ofFields (fields : List (String × Json)) (k : String) :
    Value.keyed? (Value.ofFields fields) (.text k) = (Table.get? fields k).map Value.ofJson := by
  induction fields with
  | nil => rfl
  | cons e fields ih =>
      rw [Value.ofFields, Value.keyed?, ih, Table.get?_cons]
      simp only [Value.order_text_eq_iff]
      split <;> rfl

theorem member_ofJson (found : v.field? k = some w) :
    (Value.ofJson v).member k = .ok (.ofJson w) := by
  cases v with
  | obj fields =>
      have found' : Table.get? fields k = some w := found
      simp [Value.ofJson, Value.member, Value.item, Value.part?, keyed?_ofFields, found']
  | _ => cases found

/-- Attributes are looked up one after the other, as the fields of data are. -/
theorem eval_members (value : t.eval c = .ok (.ofJson v))
    (found : members.foldlM Json.field? v = some w) :
    (members.foldl .member t).eval c = .ok (.ofJson w) := by
  induction members generalizing t v with
  | nil =>
      cases found
      exact value
  | cons m members ih =>
      obtain ⟨u, first, rest⟩ := Option.bind_eq_some_iff.mp found
      refine ih ?_ rest
      rw [Term.eval, value]
      exact member_ofJson first

/-- Except for the services, what a scope has as data is what expressions find. -/
theorem root_of_get? {s : Scope} (found : s.get? k = some v) (other : k ≠ "services") :
    (Context.ofScope s).root.get? k = some (.ofJson v) := by
  rw [Scope.get?] at found
  rw [Scope.get?_root]
  by_cases isVariables : k = "variables"
  · rw [if_pos isVariables] at found ⊢
    cases found
    rfl
  · rw [if_neg isVariables, if_neg other] at found ⊢
    rw [found]
    rfl

/-- A path stands for the data under it, unless an inner name hides its head. -/
theorem eval_term {s : Scope} {frames : List (Table Value)} (bound : bound? s p = some v)
    (visible : frames.findSome? (Table.get? · p.head) = none) :
    p.term.eval { Context.ofScope s with frames } = .ok (.ofJson v) := by
  unfold bound? at bound
  split at bound
  · cases bound
  · next other =>
    obtain ⟨u, first, rest⟩ := Option.bind_eq_some_iff.mp bound
    refine eval_members ?_ rest
    rw [Term.eval, Context.lookup?, visible]
    simp only [root_of_get? first other, Option.getD_some]

/-! ### Wrappers -/

/-- The text is an expression between blanks, or in a wrapper with blanks around it and within. -/
inductive Wraps (cs : List Char) : List Char → Prop
  | bare (before after : List Char) (blank : Text.Blank before) (blank' : Text.Blank after) :
      Wraps cs (before ++ cs ++ after)
  | wrapped (before after left right : List Char) (blank : Text.Blank before)
      (blank' : Text.Blank after) (inner : Text.Blank left) (inner' : Text.Blank right) :
      Wraps cs (before ++ ('$' :: '\x7b' :: (left ++ cs ++ right) ++ ['\x7d']) ++ after)

/-- Blanks and a wrapper around an expression are taken off again. -/
theorem unwrap_of_wraps {cs text : List Char} (wraps : Wraps cs text) (tight : Text.Tight cs)
    (unwrapped : cs.head? ≠ some '$') : unwrap text = cs := by
  cases wraps with
  | bare before after blank blank' =>
      have trimmed := Text.trim_append tight blank blank'
      rw [unwrap_of_not_wrapped, trimmed]
      rw [trimmed]
      rintro ⟨⟨rest, rfl⟩, -⟩
      exact unwrapped rfl
  | wrapped before after left right blank blank' inner inner' =>
      exact (unwrap_wrap blank blank' _).trans (Text.trim_append tight inner inner')

theorem visible_name (name : isName s = true) : ∀ d ∈ s.toList, Text.isBlank d = false := by
  obtain ⟨c, cs, same, start, rest⟩ := isName_iff.mp name
  rw [same]
  exact List.forall_mem_cons.mpr
    ⟨Token.isBlank_of_isNameChar (Token.isNameChar_of_isNameStart start),
      fun d member => Token.isBlank_of_isNameChar (rest d member)⟩

theorem visible_chars (proper : p.Proper) : ∀ d ∈ p.chars, Text.isBlank d = false := by
  intro d member
  rcases List.mem_append.mp member with inHead | inTail
  · exact visible_name proper.head d inHead
  · obtain ⟨m, listed, member⟩ := List.mem_flatMap.mp inTail
    rcases List.mem_cons.mp member with rfl | inName
    · rfl
    · exact visible_name (proper.members m listed) d inName

/-- No blank and no wrapper is part of a path, so unwrapping leaves the path. -/
theorem unwrap_chars {text : List Char} (proper : p.Proper) (wraps : Wraps p.chars text) :
    unwrap text = p.chars := by
  obtain ⟨c, cs, same, start, _⟩ := isName_iff.mp proper.head
  refine unwrap_of_wraps wraps (.of_forall (visible_chars proper)) ?_
  rw [chars, same]
  rintro ⟨⟩
  cases start

theorem unwrap_not_chars {text : List Char} (proper : p.Proper)
    (wraps : Wraps ("not ".toList ++ p.chars) text) :
    unwrap text = "not ".toList ++ p.chars := by
  obtain ⟨c, cs, same, _⟩ := isName_iff.mp proper.head
  have some : p.chars ≠ [] := by simp [chars, same]
  have tight : Text.Tight ("not ".toList ++ p.chars) := by
    constructor
    · rintro d ⟨⟩
      rfl
    · rw [List.getLast?_append_of_ne_nil _ some]
      exact (Text.Tight.of_forall (visible_chars proper)).last
  exact unwrap_of_wraps wraps tight (by rintro ⟨⟩)

end Path

end Expression

end ProcessStep
