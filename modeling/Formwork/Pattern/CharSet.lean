import Formwork.Unicode.Category
import Formwork.Unicode.Folding
import Formwork.Unicode.Property
import Formwork.Text.Basic

namespace Formwork.Pattern

inductive Shorthand
  | digit
  | word
  | space
deriving DecidableEq

/-- How the lettered classes are understood: over all of Unicode, or as short lists of
characters. -/
inductive Alphabet
  | unicode
  | compact
deriving DecidableEq

def isCompactSpace (c : Char) : Bool :=
  c == ' ' || (0x09 ≤ c.toNat && c.toNat ≤ 0x0d) || c.toNat == 0xa0 || c.toNat == 0xfeff ||
    c.toNat == 0x2003 || c.toNat == 0x2029

open Unicode in
def letterTables : List Ranges :=
  [categoryLl, categoryLu, categoryLt, categoryLm, categoryLo, categoryNl, Property.otherAlphabetic,
    Property.otherLowercase, Property.otherUppercase]

open Unicode in
def wordTables : List Ranges :=
  letterTables ++ [categoryNd, categoryPc, categoryMn, categoryMc, categoryMe, Property.joinControl]

def isWordChar (c : Char) : Bool := wordTables.any (·.contains c)

namespace Shorthand

def contains (k : Shorthand) (a : Alphabet) (c : Char) : Bool :=
  match k, a with
  | .digit, .unicode => Unicode.categoryNd.contains c
  | .digit, .compact => c.isDigit
  | .word, .unicode => isWordChar c
  | .word, .compact => c.isAlphanum || c == '_'
  | .space, .unicode => Text.isBlank c
  | .space, .compact => isCompactSpace c

end Shorthand

inductive CharSet
  | all
  | none
  | range (first last : Char)
  | shorthand (k : Shorthand)
  | listed (r : Unicode.Ranges)
  | negate (s : CharSet)
  | union (s t : CharSet)
  | inter (s t : CharSet)
  /-- The characters of a set, and those that differ from one of them in case alone. -/
  | folded (s : CharSet)

namespace CharSet

def char (c : Char) : CharSet := .range c c

def contains (a : Alphabet) : CharSet → Char → Bool
  | .all, _ => true
  | .none, _ => false
  | .range first last, c => first ≤ c && c ≤ last
  | .shorthand k, c => k.contains a c
  | .listed r, c => r.contains c
  | .negate s, c => !s.contains a c
  | .union s t, c => s.contains a c || t.contains a c
  | .inter s t, c => s.contains a c && t.contains a c
  | .folded s, c => (Unicode.caseVariants c).any (s.contains a)

def unionAll (ss : List CharSet) : CharSet := ss.foldl .union .none

def points (ns : List Nat) : CharSet := unionAll (ns.map fun n ↦ .char (Char.ofNat n))

def span (first last : Nat) : CharSet := .range (Char.ofNat first) (Char.ofNat last)

def diff (s t : CharSet) : CharSet := .inter s (.negate t)

def symmDiff (s t : CharSet) : CharSet := .union (s.diff t) (t.diff s)

def foldIf (ignoreCase : Bool) (s : CharSet) : CharSet := if ignoreCase then .folded s else s

def negateIf (negated : Bool) (s : CharSet) : CharSet := if negated then .negate s else s

end CharSet

inductive Edge
  | textStart
  | textEnd
  | lineStart
  | lineEnd
  | wordStart
  | wordEnd
  | wordEdge
  | noWordEdge
  /-- Where looking for matches began. -/
  | searchStart
  | anywhere
deriving DecidableEq

def isWordAt (text : Array Char) (i : Nat) : Bool := (text[i]?).any isWordChar

def isWordBefore (text : Array Char) (i : Nat) : Bool := 0 < i && isWordAt text (i - 1)

namespace Edge

def isAt (text : Array Char) (i : Nat) : Edge → Bool
  | textStart | searchStart => i == 0
  | textEnd => i == text.size
  | lineStart => i == 0 || text[i - 1]? == some '\n'
  | lineEnd => i == text.size || text[i]? == some '\n'
  | wordStart => !isWordBefore text i && isWordAt text i
  | wordEnd => isWordBefore text i && !isWordAt text i
  | wordEdge => isWordBefore text i != isWordAt text i
  | noWordEdge => isWordBefore text i == isWordAt text i
  | anywhere => true

def isSoft : Edge → Bool
  | textStart | textEnd | lineStart | lineEnd => true
  | _ => false

end Edge

open Unicode (Ranges)

def casePairs : List (Nat × Nat) :=
  Unicode.foldingShifts.flatMap fun s ↦
    (List.range ((s.last - s.first) / s.step + 1)).map fun k ↦
      (s.first + k * s.step, s.target + k * s.step)

def foldRanges (r : Ranges) : Ranges :=
  let roots := casePairs.filterMap fun p ↦
    if Ranges.holds false p.1 r.boundaries || Ranges.holds false p.2 r.boundaries then some p.2
    else none
  let variants := casePairs.filterMap fun p ↦ if roots.contains p.2 then some p.1 else none
  (roots ++ variants).foldl (fun r n ↦ r.union ⟨[n, n + 1]⟩) r

def Shorthand.ranges : Shorthand → Alphabet → Ranges
  | .digit, .unicode => Unicode.categoryNd
  | .digit, .compact => ⟨[0x30, 0x3a]⟩
  | .word, .unicode => wordTables.foldl .union ⟨[]⟩
  | .word, .compact => ⟨[0x30, 0x3a, 0x41, 0x5b, 0x5f, 0x60, 0x61, 0x7b]⟩
  | .space, .unicode => ⟨[
      0x9, 0xe, 0x20, 0x21, 0x85, 0x86, 0xa0, 0xa1, 0x1680, 0x1681, 0x2000, 0x200b, 0x2028, 0x202a,
      0x202f, 0x2030, 0x205f, 0x2060, 0x3000, 0x3001]⟩
  | .space, .compact =>
    ⟨[0x9, 0xe, 0x20, 0x21, 0xa0, 0xa1, 0x2003, 0x2004, 0x2029, 0x202a, 0xfeff, 0xff00]⟩

def CharSet.ranges (a : Alphabet) : CharSet → Ranges
  | .all => ⟨[0]⟩
  | .none => ⟨[]⟩
  | .range first last => ⟨if first ≤ last then [first.toNat, last.toNat + 1] else []⟩
  | .shorthand k => k.ranges a
  | .listed r => r
  | .negate s => (s.ranges a).complement
  | .union s t => (s.ranges a).union (t.ranges a)
  | .inter s t => (s.ranges a).inter (t.ranges a)
  | .folded s => foldRanges (s.ranges a)

def characterPoints : Ranges := ⟨[0, 0xd800, 0xe000, 0x110000]⟩

def CharSet.runs (s : CharSet) (a : Alphabet) : List (Nat × Nat) :=
  Ranges.runs 0x110000 ((s.ranges a).inter characterPoints).boundaries

end Formwork.Pattern
