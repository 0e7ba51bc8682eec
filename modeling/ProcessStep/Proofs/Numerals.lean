import Mathlib.Algebra.Group.Int.Defs
import ProcessStep.Proofs.Coercing
import ProcessStep.Proofs.Trimming

/-!
Texts as whole numbers. `Decimal.Numeral` says how a whole number is written: decimal digits,
perhaps with a sign in front. A text spells a number if its numeral stands between blanks
(`Spells`), and as a `long` a text is read exactly as the number that it spells, if that has 64 bits
(`coerce_long_exactly`).
-/

namespace ProcessStep

namespace Decimal

variable {s ds : List Char} {n : Int} {c : Char}

/-- A whole number in decimal digits, perhaps with a sign in front. There may be zeros before the
other digits. -/
inductive Numeral : List Char → Int → Prop
  | bare {ds : List Char} (some : ds ≠ []) (digits : ∀ c ∈ ds, c.isDigit = true) :
      Numeral ds (Nat.ofDigitChars 10 ds 0)
  | plus {ds : List Char} (some : ds ≠ []) (digits : ∀ c ∈ ds, c.isDigit = true) :
      Numeral ('+' :: ds) (Nat.ofDigitChars 10 ds 0)
  | minus {ds : List Char} (some : ds ≠ []) (digits : ∀ c ∈ ds, c.isDigit = true) :
      Numeral ('-' :: ds) (-Nat.ofDigitChars 10 ds 0)

/-- Digits are read as the library reads them. -/
theorem ofDigits_eq (ds : List Char) : ofDigits ds = Nat.ofDigitChars 10 ds 0 := by
  have step : (fun n c => n * 10 + digitValue c) =
      fun n (c : Char) => 10 * n + (c.toNat - '0'.toNat) := by
    funext n c
    rw [digitValue, Nat.mul_comm]
  rw [ofDigits, Nat.ofDigitChars, step]

def signedValue (negative : Bool) (ds : List Char) : Int :=
  if negative then -ofDigits ds else ofDigits ds

theorem spanSign_of_digits (digits : ∀ c ∈ ds, c.isDigit = true) : spanSign ds = (false, ds) := by
  unfold spanSign
  split
  · exact absurd (digits '-' List.mem_cons_self) (by decide)
  · exact absurd (digits '+' List.mem_cons_self) (by decide)
  · rfl

/-- A numeral has digits behind at most one sign, and stands for what they denote. -/
theorem numeral_iff : Numeral s n ↔
    (spanSign s).2 ≠ [] ∧ (∀ c ∈ (spanSign s).2, c.isDigit = true) ∧
      n = signedValue (spanSign s).1 (spanSign s).2 := by
  constructor
  · intro numeral
    cases numeral with
    | bare some digits =>
        rw [spanSign_of_digits digits]
        exact ⟨some, digits, by simp [signedValue, ofDigits_eq]⟩
    | plus some digits | minus some digits =>
        exact ⟨some, digits, by simp [spanSign, signedValue, ofDigits_eq]⟩
  · generalize sign : spanSign s = spanned
    rintro ⟨some, digits, rfl⟩
    rw [signedValue, ofDigits_eq]
    unfold spanSign at sign
    split at sign <;> cases sign
    · exact .minus some digits
    · exact .plus some digits
    · exact .bare some digits

theorem range_of_isDigit (digit : c.isDigit = true) : 48 ≤ c.toNat ∧ c.toNat ≤ 57 := by
  simpa [Char.isDigit, UInt32.le_iff_toNat_le] using digit

theorem isBlank_of_isDigit (digit : c.isDigit = true) : Text.isBlank c = false := by
  have range := range_of_isDigit digit
  simp [Text.isBlank]
  omega

/-- There are no blanks in a numeral. -/
theorem Numeral.tight (numeral : Numeral s n) : Text.Tight s := by
  refine .of_forall ?_
  cases numeral with
  | bare _ digits => exact fun c member => isBlank_of_isDigit (digits c member)
  | plus _ digits | minus _ digits =>
      rw [List.forall_mem_cons]
      exact ⟨by decide, fun c member => isBlank_of_isDigit (digits c member)⟩

/-- The decimal text of a number is a numeral. -/
theorem numeral_toString (n : Int) : Numeral (toString n).toList n := by
  have digits (m : Nat) : ∀ c ∈ Nat.toDigits 10 m, c.isDigit = true := fun c member =>
    Nat.isDigit_of_mem_toDigits (by decide) (by decide) member
  have value (m : Nat) : Nat.ofDigitChars 10 (Nat.toDigits 10 m) 0 = m :=
    Nat.ofDigitChars_toDigits (by decide) (by decide)
  cases n with
  | ofNat m =>
      have numeral := Numeral.bare Nat.toDigits_ne_nil (digits m)
      rw [value] at numeral
      rw [Int.toString_eq_repr, Int.repr, Nat.toList_repr]
      exact numeral
  | negSucc m =>
      have numeral := Numeral.minus Nat.toDigits_ne_nil (digits m.succ)
      rw [value] at numeral
      rw [Int.toString_eq_repr, Int.repr, String.toList_append, Nat.toList_repr]
      exact numeral

end Decimal

namespace FieldType

open Decimal (Numeral)

variable {s : String} {n : Int} {outcome : Except ResolutionError Json}

/-- The text is the numeral of a whole number between blanks. -/
def Spells (s : String) (n : Int) : Prop :=
  ∃ before numeral after, Text.Blank before ∧ Text.Blank after ∧ Numeral numeral n ∧
    s.toList = before ++ numeral ++ after

/-- Blanks around a numeral do not matter, since none stands in it. -/
theorem spells_iff : Spells s n ↔ Numeral (Text.trim s.toList) n := by
  constructor
  · rintro ⟨before, numeral, after, blank, blank', isNumeral, same⟩
    rwa [Text.trim_eq_iff.mpr ⟨isNumeral.tight, before, after, blank, blank', same⟩]
  · intro isNumeral
    obtain ⟨_, before, after, blank, blank', same⟩ := Text.trim_eq_iff.mp (Eq.refl _)
    exact ⟨before, _, after, blank, blank', isNumeral, same⟩

/-- What is read is the number of a numeral in range. -/
theorem long?_eq_some_iff {cs : List Char} :
    long? cs = some n ↔ Numeral cs n ∧ leastLong ≤ n ∧ n ≤ greatestLong := by
  rw [Decimal.numeral_iff, long?]
  generalize Decimal.spanSign cs = spanned
  obtain ⟨negative, ds⟩ := spanned
  have proper : (ds.isEmpty || !ds.all Decimal.isDigit) = false ↔
      ds ≠ [] ∧ ∀ c ∈ ds, c.isDigit = true := by
    simp only [Bool.or_eq_false_iff, Bool.not_eq_false', List.isEmpty_eq_false_iff, List.all_eq_true]
    rfl
  dsimp only
  rw [Option.ite_none_left_eq_some, Option.ite_none_right_eq_some, Bool.not_eq_true, proper,
    and_assoc, ← Decimal.signedValue]
  simp only [Bool.and_eq_true, decide_eq_true_eq, Option.some.injEq]
  grind

/-- What a text is as a `long`. -/
inductive LongReading (s : String) : Except ResolutionError Json → Prop
  | nothing (empty : s = "") : LongReading s (.ok .null)
  | number {n : Int} (spells : Spells s n) (least : -2 ^ 63 ≤ n) (greatest : n ≤ 2 ^ 63 - 1) :
      LongReading s (.ok (.int n))
  | mismatch (nonempty : s ≠ "") (other : ∀ n, Spells s n → n < -2 ^ 63 ∨ 2 ^ 63 - 1 < n) :
      LongReading s (.error (.coercion s .long))

/-- A text that is not empty is trimmed, read, and quoted as it was if it cannot be read. -/
theorem coerce_long_of_nonempty (nonempty : s ≠ "") :
    coerce .long s =
      match long? (Text.trim s.toList) with
      | some n => .ok (.int n)
      | none => .error (.coercion s .long) := by
  have notBlank : ¬(s.isEmpty && FieldType.long != .string) = true := by simpa using nonempty
  rw [coerce, if_neg notBlank, read?]
  cases long? (Text.trim s.toList) <;> rfl

/-- The empty text spells no number. -/
theorem nonempty_of_spells (spells : Spells s n) : s ≠ "" := by
  rintro rfl
  obtain ⟨some, _⟩ := Decimal.numeral_iff.mp (spells_iff.mp spells)
  exact some rfl

theorem coerce_long_of_spells (spells : Spells s n) (least : -2 ^ 63 ≤ n)
    (greatest : n ≤ 2 ^ 63 - 1) : coerce .long s = .ok (.int n) := by
  have read : long? (Text.trim s.toList) = some n :=
    long?_eq_some_iff.mpr ⟨spells_iff.mp spells, least, greatest⟩
  rw [coerce_long_of_nonempty (nonempty_of_spells spells), read]

theorem coerce_long_of_mismatch (nonempty : s ≠ "")
    (other : ∀ n, Spells s n → n < -2 ^ 63 ∨ 2 ^ 63 - 1 < n) :
    coerce .long s = .error (.coercion s .long) := by
  rw [coerce_long_of_nonempty nonempty]
  cases read : long? (Text.trim s.toList) with
  | none => rfl
  | some n =>
      obtain ⟨numeral, least, greatest⟩ := long?_eq_some_iff.mp read
      have least : -2 ^ 63 ≤ n := least
      have greatest : n ≤ 2 ^ 63 - 1 := greatest
      have outside := other n (spells_iff.mpr numeral)
      omega

/-- Every text comes to one of the readings. -/
theorem longReading_coerce (s : String) : LongReading s (coerce .long s) := by
  by_cases empty : s = ""
  · subst empty
    exact .nothing rfl
  · by_cases number : ∃ n, Spells s n ∧ -2 ^ 63 ≤ n ∧ n ≤ 2 ^ 63 - 1
    · obtain ⟨n, spells, least, greatest⟩ := number
      rw [coerce_long_of_spells spells least greatest]
      exact .number spells least greatest
    · have other : ∀ n, Spells s n → n < -2 ^ 63 ∨ 2 ^ 63 - 1 < n := fun n spells => by
        by_contra inside
        exact number ⟨n, spells, by omega, by omega⟩
      rw [coerce_long_of_mismatch empty other]
      exact .mismatch empty other

/-- The readings exclude each other, so each says what the text comes to. -/
theorem LongReading.eq_coerce (reading : LongReading s outcome) : coerce .long s = outcome := by
  cases reading with
  | nothing empty =>
      subst empty
      rfl
  | number spells least greatest => exact coerce_long_of_spells spells least greatest
  | mismatch nonempty other => exact coerce_long_of_mismatch nonempty other

/-- As a `long` the empty text is null, a text that spells a number of 64 bits is that number, and
any other text is an error that quotes it with its blanks. So the decimal text of a number of 64
bits, in any blanks, is read as that number again. -/
theorem coerce_long_exactly :
    (∀ s outcome, coerce .long s = outcome ↔ LongReading s outcome) ∧
      (∀ s, (ResolutionError.coercion s .long).message =
        "value '" ++ s ++ "' is not a valid long") ∧
      ∀ n before after, -2 ^ 63 ≤ n → n ≤ 2 ^ 63 - 1 → Text.Blank before → Text.Blank after →
        coerce .long (String.ofList (before ++ (toString n).toList ++ after)) = .ok (.int n) := by
  refine ⟨fun s outcome => ⟨?_, LongReading.eq_coerce⟩, fun s => ?_,
    fun n before after least greatest blank blank' => ?_⟩
  · rintro rfl
    exact longReading_coerce s
  · show "value '" ++ s ++ "' is not a valid " ++ "long" = _
    rw [String.append_assoc]
    rfl
  · have numeral := Decimal.numeral_toString n
    refine coerce_long_of_spells ⟨before, _, after, blank, blank', numeral, ?_⟩ least greatest
    exact String.toList_ofList

/-- The least number has no positive counterpart, but it is read, also between an ideographic space
and a line end; the number below it is an error. -/
theorem least_coerce_long_exactly :
    coerce .long (String.ofList ("\u3000".toList ++ (toString (-2 ^ 63 : Int)).toList ++ ['\n'])) =
        .ok (.int (-9223372036854775808)) ∧
      LongReading " -9223372036854775809" (.error (.coercion " -9223372036854775809" .long)) ∧
      LongReading "+007" (.ok (.int 7)) := by
  obtain ⟨exactly, _, padded⟩ := coerce_long_exactly
  refine ⟨padded _ _ _ (by decide) (by decide) (by decide) (by decide), (exactly _ _).mp rfl,
    (exactly _ _).mp rfl⟩

end FieldType

end ProcessStep
