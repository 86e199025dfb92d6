import GrantList.Text.CaseTable

/-!
# Full lower-casing

`Text.lowerCase` maps a text to lower case by the full mappings of the case tables. Two characters
need more than a one-to-one mapping: the capital I with a dot, whose lower case is an `i` and a
combining dot, and the capital sigma, whose lower case depends on where it stands. At the end of a
word a sigma is written `ς`, elsewhere `σ`.
-/

namespace GrantList.Text

/-- Whether the first character of `l` that is not ignored for case has case. Read towards either
side, this tells whether a word goes on there. -/
def meetsCased (l : List Char) : Bool :=
  match l.dropWhile (· ∈ CodeRanges.caseIgnorable) with
  | [] => false
  | c :: _ => c ∈ CodeRanges.cased

/-- The lower case of a capital sigma between `before`, read backwards, and `after`: the final form
if a word ends there. -/
def lowerSigma (before after : List Char) : Char :=
  if meetsCased before && !meetsCased after then 'ς' else 'σ'

/-- The lower case of a character, wherever it stands. -/
def lowerChar (c : Char) : List Char :=
  if c.toNat < 128 then [c.toLower]
  else if c = 'İ' then ['i', '\u0307']
  else [(CaseRun.all.findSome? (·.lower? c)).getD c]

/-- The lower case of the characters `l` that follow `before`, which is read backwards. -/
def lowerCaseAfter (before : List Char) : List Char → List Char
  | [] => []
  | c :: l =>
    (if c = 'Σ' then [lowerSigma before l] else lowerChar c) ++ lowerCaseAfter (c :: before) l

/-- The text in lower case. -/
def lowerCase (s : String) : String :=
  .ofList (lowerCaseAfter [] s.toList)

end GrantList.Text
