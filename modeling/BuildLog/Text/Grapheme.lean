import BuildLog.Unicode.GraphemeBreak
import BuildLog.Text.Basic

/-!
# Grapheme clusters — the characters that a reader sees as one

A text falls into extended grapheme clusters: whether a cluster goes on with the next character
depends on the class of that character and on what the cluster holds so far.  `Cluster` keeps as
much of it as the rules ask for.
-/

namespace BuildLog.Text

open Unicode

/-- What a character does at the edge of a cluster. -/
inductive Joining
  | other
  | cr
  | lf
  | control
  | extend
  | joiner
  | regional
  | prepended
  | spacingMark
  | lead
  | vowel
  | trail
  | leadVowel
  | leadVowelTrail
deriving Repr, DecidableEq

/-- Hangul syllables come in blocks of 28, of which the first has no trailing consonant. -/
def hangulSyllable (n : Nat) : Joining :=
  if (n - 0xAC00) % 28 = 0 then .leadVowel else .leadVowelTrail

def joining (c : Char) : Joining :=
  let n := c.toNat
  if n < 0x20 || n = 0x7F then
    if c = '\r' then .cr else if c = '\n' then .lf else .control
  else if n < 0x7F then .other
  else if n = 0x200D then .joiner
  else if 0x1F1E6 ≤ n && n ≤ 0x1F1FF then .regional
  else if 0xAC00 ≤ n && n ≤ 0xD7A3 then hangulSyllable n
  else if hangulLead.contains c then .lead
  else if hangulVowel.contains c then .vowel
  else if hangulTrail.contains c then .trail
  else if extend.contains c then .extend
  else if spacingMark.contains c then .spacingMark
  else if prepended.contains c then .prepended
  else if control.contains c then .control
  else .other

/-- The end of a cluster: the class of its last character, whether an odd number of regional
indicators ends it, whether it ends with a pictograph and extending characters (and perhaps a
joiner), and whether it ends with a consonant and extending characters, with a linker or not. -/
structure Cluster where
  last : Joining
  oddRegional : Bool
  pictograph : Bool
  pictographJoined : Bool
  consonant : Bool
  linked : Bool
deriving Repr

def Cluster.start (c : Char) : Cluster where
  last := joining c
  oddRegional := joining c = .regional
  pictograph := pictographic.contains c
  pictographJoined := false
  consonant := conjunctConsonant.contains c
  linked := false

/-- The cluster after it was extended by `c`. -/
def Cluster.add (k : Cluster) (c : Char) : Cluster :=
  let j := joining c
  let isExtend := j = .extend
  let linker := conjunctLinker.contains c
  let conjunctExtend := (isExtend && c.toNat ≠ 0x200C) || j = .joiner || linker
  { last := j
    oddRegional := j = .regional && !k.oddRegional
    pictograph := pictographic.contains c || (k.pictograph && isExtend)
    pictographJoined := k.pictograph && j = .joiner
    consonant := conjunctConsonant.contains c || (k.consonant && conjunctExtend)
    linked := k.consonant && conjunctExtend && (k.linked || linker) }

/-- Whether a cluster goes on with the character `c`. -/
def Cluster.accepts (k : Cluster) (c : Char) : Bool :=
  let j := joining c
  match k.last, j with
  | .cr, .lf => true
  | .cr, _ | .lf, _ | .control, _ => false
  | _, .cr | _, .lf | _, .control => false
  | .lead, .lead | .lead, .vowel | .lead, .leadVowel | .lead, .leadVowelTrail => true
  | .leadVowel, .vowel | .leadVowel, .trail | .vowel, .vowel | .vowel, .trail => true
  | .leadVowelTrail, .trail | .trail, .trail => true
  | _, .extend | _, .joiner | _, .spacingMark => true
  | .prepended, _ => true
  | _, _ =>
    (k.consonant && k.linked && conjunctConsonant.contains c)
      || (k.pictographJoined && pictographic.contains c)
      || (k.oddRegional && j = .regional)

/-- The clusters of a text whose first characters, `acc` in reverse, are the open cluster `k`. -/
def graphemesFrom (k : Cluster) (acc : Text) : Text → List Text
  | [] => [acc.reverse]
  | c :: t =>
    if k.accepts c then graphemesFrom (k.add c) (c :: acc) t
    else acc.reverse :: graphemesFrom (.start c) [c] t

/-- The extended grapheme clusters of the text, in order. -/
def graphemes : Text → List Text
  | [] => []
  | c :: t => graphemesFrom (.start c) [c] t

theorem flatten_graphemesFrom (k : Cluster) (acc t : Text) :
    (graphemesFrom k acc t).flatten = acc.reverse ++ t := by
  induction t generalizing k acc with
  | nil => simp [graphemesFrom]
  | cons c t ih =>
    simp only [graphemesFrom]
    split <;> simp [ih]

/-- The clusters of a text, put together, are the text. -/
@[simp] theorem flatten_graphemes (t : Text) : (graphemes t).flatten = t := by
  cases t with
  | nil => rfl
  | cons c t => simp [graphemes, flatten_graphemesFrom]

example : graphemes "a\r\nb".toList = [['a'], ['\r', '\n'], ['b']] := by decide +kernel

end BuildLog.Text
