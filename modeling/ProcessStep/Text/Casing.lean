import ProcessStep.Text.Blank
import ProcessStep.Text.CaseTable

/-!
Capital and small letters of whole texts. A capital form may be longer than its letter, and
the small form of a capital sigma depends on its place in the word; every other letter is
changed on its own.
-/

namespace ProcessStep.Text

def isSmall (c : Char) : Bool :=
  c.isLower || (0x80 ≤ c.toNat && smallRuns.any (·.contains c.toNat))

def isCapital (c : Char) : Bool :=
  c.isUpper || (0x80 ≤ c.toNat && capitalRuns.any (·.contains c.toNat))

/-- Letters that have a case, the digraphs in title case among them. -/
def isCased (c : Char) : Bool :=
  isSmall c || isCapital c
    || [(⟨0x1c5, 0x1cb, 3⟩ : Run), ⟨0x1f2, 0x1f2, 1⟩, ⟨0x1f88, 0x1f8f, 1⟩, ⟨0x1f98, 0x1f9f, 1⟩,
        ⟨0x1fa8, 0x1faf, 1⟩, ⟨0x1fbc, 0x1fcc, 16⟩, ⟨0x1ffc, 0x1ffc, 1⟩].any (·.contains c.toNat)

def isCaseIgnorable (c : Char) : Bool :=
  caseIgnorableSpans.any (·.contains c.toNat)

def capital (c : Char) : List Char :=
  if c.toNat < 0x80 then [c.toUpper]
  else match expandingCapitals.find? (·.1 == c.toNat) with
    | some (_, forms) => forms.map Char.ofNat
    | none => [((capitalShifts.findSome? (·.image? c.toNat)).map Char.ofNat).getD c]

/-- The small form of one character, taken on its own. -/
def small (c : Char) : List Char :=
  if c.toNat < 0x80 then [c.toLower]
  else if c.toNat == 0x130 then ['i', Char.ofNat 0x307]
  else [((smallShifts.findSome? (·.image? c.toNat)).map Char.ofNat).getD c]

/-- A sigma is final when a cased letter comes before it and none after it, characters that
the case ignores left aside. -/
def isFinalSigma (before after : List Char) : Bool :=
  ((before.dropWhile isCaseIgnorable).head?.any isCased)
    && !((after.dropWhile isCaseIgnorable).head?.any isCased)

/-- The small form of a text; `before` is what was read of it already, last character first. -/
def smallFrom (before : List Char) : List Char → List Char
  | [] => []
  | c :: rest =>
      (if c.toNat == 0x3a3 then
        [Char.ofNat (if isFinalSigma before rest then 0x3c2 else 0x3c3)]
      else small c) ++ smallFrom (c :: before) rest

def toSmall (s : String) : String :=
  String.ofList (smallFrom [] s.toList)

def toCapital (s : String) : String :=
  String.ofList (s.toList.flatMap capital)

/-- The first character in capital form, the rest in small form. -/
def capitalize (s : String) : String :=
  match s.toList with
  | [] => ""
  | c :: rest => String.ofList (capital c ++ smallFrom [] rest)

/-- ASCII punctuation: every visible ASCII character that is neither a letter nor a digit. -/
def isPunctuation (c : Char) : Bool :=
  0x21 ≤ c.toNat && c.toNat ≤ 0x7e && !c.isAlphanum

/-- Each character that follows a blank, a punctuation mark or the beginning is put in capital
form, the others in small form. -/
def titleFrom (atStart : Bool) : List Char → List Char
  | [] => []
  | c :: rest =>
      if isPunctuation c || isBlank c then c :: titleFrom true rest
      else (if atStart then capital c else small c) ++ titleFrom false rest

def toTitle (s : String) : String :=
  String.ofList (titleFrom true s.toList)

def toSmallAscii (s : String) : String :=
  String.ofList (s.toList.map Char.toLower)

end ProcessStep.Text
