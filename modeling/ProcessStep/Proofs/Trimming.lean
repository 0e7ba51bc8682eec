import Mathlib.Data.List.DropRight
import ProcessStep.Text.Blank

/-!
Trimmed texts. A text is what trimming leaves of another exactly if it is tight, with no blank at
either end, and the other is the same text between blanks (`trim_eq_iff`).
-/

namespace ProcessStep.Text

variable {s t before after : List Char}

def Blank (s : List Char) : Prop := ∀ c ∈ s, isBlank c = true

instance (s : List Char) : Decidable (Blank s) :=
  List.decidableBAll (isBlank · = true) s

structure Tight (s : List Char) : Prop where
  head : ∀ c, s.head? = some c → isBlank c = false
  last : ∀ c, s.getLast? = some c → isBlank c = false

theorem Tight.of_forall (visible : ∀ c ∈ s, isBlank c = false) : Tight s where
  head c first := visible c (List.mem_of_head? first)
  last c last := visible c (List.mem_of_getLast? last)

/-- Blanks in front are taken off one by one. -/
theorem trimStart_append (blank : Blank before) (s : List Char) :
    trimStart (before ++ s) = trimStart s :=
  List.dropWhile_append_of_pos blank

theorem trimEnd_append (blank : Blank after) (s : List Char) :
    trimEnd (s ++ after) = trimEnd s := by
  have blank' : ∀ c ∈ after.reverse, isBlank c = true := fun c member =>
    blank c (List.mem_reverse.mp member)
  rw [trimEnd, List.reverse_append, List.dropWhile_append_of_pos blank', ← trimEnd]

theorem trimStart_of_head (head : ∀ c, s.head? = some c → isBlank c = false) :
    trimStart s = s := by
  cases s with
  | nil => rfl
  | cons c s => exact List.dropWhile_cons_of_neg (by simp [head c rfl])

theorem trimEnd_of_last (last : ∀ c, s.getLast? = some c → isBlank c = false) :
    trimEnd s = s := by
  rw [trimEnd, ← trimStart, trimStart_of_head, List.reverse_reverse]
  rwa [List.head?_reverse]

/-- Trimming a tight text between blanks leaves the text. -/
theorem trim_append (tight : Tight t) (blank : Blank before) (blank' : Blank after) :
    trim (before ++ t ++ after) = t := by
  rw [trim, List.append_assoc, trimStart_append blank]
  cases t with
  | nil =>
      have nothing : trimStart after = [] := List.dropWhile_eq_nil_iff.mpr blank'
      rw [List.nil_append, nothing]
      rfl
  | cons c t =>
      rw [trimStart_of_head (s := c :: t ++ after) tight.head, trimEnd_append blank',
        trimEnd_of_last tight.last]

/-- What trimming leaves is tight, and what it takes away is blank. -/
theorem exists_of_trim (s : List Char) :
    Tight (trim s) ∧
      ∃ before after, Blank before ∧ Blank after ∧ s = before ++ trim s ++ after := by
  have front := List.takeWhile_append_dropWhile (p := isBlank) (l := s)
  have back : trim s ++ (trimStart s).rtakeWhile isBlank = trimStart s :=
    List.rdropWhile_append_rtakeWhile
  refine ⟨⟨fun c first => ?_, fun c last => ?_⟩, s.takeWhile isBlank,
    (trimStart s).rtakeWhile isBlank, fun c taken => List.mem_takeWhile_imp taken,
    fun c taken => List.mem_rtakeWhile_imp taken, ?_⟩
  · have first' : (trimStart s).head? = some c := by
      rw [← back, List.head?_append, first, Option.some_or]
    have stops := List.head?_dropWhile_not isBlank s
    rw [show (s.dropWhile isBlank).head? = some c from first'] at stops
    exact stops
  · rw [trim, trimEnd, List.getLast?_reverse] at last
    have stops := List.head?_dropWhile_not isBlank (trimStart s).reverse
    rw [last] at stops
    exact stops
  · rw [List.append_assoc, back]
    exact front.symm

theorem length_trim_le (s : List Char) : (trim s).length ≤ s.length := by
  obtain ⟨_, before, after, _, _, same⟩ := exists_of_trim s
  have lengths := congrArg List.length same
  rw [List.length_append, List.length_append] at lengths
  omega

/-- Trimming leaves the one text without outer blanks that the text is made of. -/
theorem trim_eq_iff : trim s = t ↔
    Tight t ∧ ∃ before after, Blank before ∧ Blank after ∧ s = before ++ t ++ after := by
  constructor
  · rintro rfl
    exact exists_of_trim s
  · rintro ⟨tight, before, after, blank, blank', rfl⟩
    exact trim_append tight blank blank'

end ProcessStep.Text
