import GrantList.Yaml.Error

/-!
# Positions in a text

A `Cursor` stands at a place of a YAML text: it holds the characters that follow and counts the
octets, the lines and the columns that it has passed. A line ends with a carriage return, a line feed,
both together, or one of the three further line separators.
-/

namespace GrantList.Yaml

/-- Whether `c` is a space or a tab. -/
def isBlank (c : Char) : Bool :=
  c == ' ' || c == '\t'

/-- Whether `c` ends a line. -/
def isBreak (c : Char) : Bool :=
  c == '\n' || c == '\r' || c == '\u0085' || c == '\u2028' || c == '\u2029'

/-- Whether `c` may stand in the name of an anchor, of a directive or of a tag handle. -/
def isWordChar (c : Char) : Bool :=
  c.isAlphanum || c == '_' || c == '-'

/-- Whether `c` may occur in a file at all. -/
def isAllowed (c : Char) : Bool :=
  let n := c.toNat
  n == 0x09 || n == 0x0A || n == 0x0D || (0x20 ≤ n && n ≤ 0x7E) || n == 0x85
    || (0xA0 ≤ n && n ≤ 0xD7FF) || (0xE000 ≤ n && n ≤ 0xFFFD) || 0x10000 ≤ n

/-- A place in a text. -/
structure Cursor where
  /-- The characters that follow. -/
  rest : List Char
  /-- The number of octets passed, as the text is written in UTF-8. -/
  index : Nat := 0
  /-- The number of lines passed. -/
  line : Nat := 0
  /-- The number of characters passed on this line. -/
  column : Nat := 0
deriving Repr

namespace Cursor

/-- Whether nothing follows. -/
def atEnd (c : Cursor) : Bool :=
  c.rest.isEmpty

/-- The character `n` places ahead. -/
def peek? (c : Cursor) (n : Nat := 0) : Option Char :=
  c.rest[n]?

/-- Whether the character `n` places ahead is `ch`. -/
def sees (c : Cursor) (ch : Char) (n : Nat := 0) : Bool :=
  c.peek? n == some ch

/-- Whether a space or a tab stands `n` places ahead. -/
def seesBlank (c : Cursor) (n : Nat := 0) : Bool :=
  (c.peek? n).any isBlank

/-- Whether a line ends `n` places ahead. -/
def seesBreak (c : Cursor) (n : Nat := 0) : Bool :=
  (c.peek? n).any isBreak

/-- Whether a blank, the end of a line or the end of the text is `n` places ahead. -/
def seesGap (c : Cursor) (n : Nat := 0) : Bool :=
  (c.peek? n).all fun ch => isBlank ch || isBreak ch

/-- Whether a line begins here with the mark that starts a document or the one that ends it. -/
def seesDocumentMark (c : Cursor) (mark : Char) : Bool :=
  c.column == 0 && c.sees mark && c.sees mark 1 && c.sees mark 2 && c.seesGap 3

/-- Passes one character. -/
def next (c : Cursor) : Cursor :=
  match c.rest with
  | [] => c
  | ch :: r => { c with rest := r, index := c.index + ch.utf8Size, column := c.column + 1 }

/-- Passes `n` characters of one line. -/
def skip (c : Cursor) : Nat → Cursor
  | 0 => c
  | n + 1 => c.next.skip n

/-- The line end that stands here, as it counts in a scalar. The two oldest forms, and the two of
them together, all count as a line feed. -/
def breakText (c : Cursor) : String :=
  match c.peek? with
  | some '\u2028' => "\u2028"
  | some '\u2029' => "\u2029"
  | some ch => if isBreak ch then "\n" else ""
  | none => ""

/-- Passes a line end, if one stands here. -/
def nextLine (c : Cursor) : Cursor :=
  match c.rest with
  | '\r' :: '\n' :: r => { rest := r, index := c.index + 2, line := c.line + 1, column := 0 }
  | ch :: r =>
    if isBreak ch then
      { rest := r, index := c.index + ch.utf8Size, line := c.line + 1, column := 0 }
    else c
  | [] => c

/-- The characters that satisfy `p`, up to the first that does not. -/
def spanText (c : Cursor) (p : Char → Bool) : String :=
  .ofList (c.rest.takeWhile p)

/-- Passes the characters of this line that satisfy `p`. -/
def skipWhile (c : Cursor) (p : Char → Bool) : Cursor :=
  c.skip (c.rest.takeWhile p).length

/-- Passes spaces and tabs. -/
def skipBlanks (c : Cursor) : Cursor :=
  c.skipWhile isBlank

/-- Passes the rest of the line, without its end. -/
def skipToBreak (c : Cursor) : Cursor :=
  c.skipWhile fun ch => !isBreak ch

/-! ### What is left after a step -/

theorem rest_next (c : Cursor) : c.next.rest = c.rest.tail := by
  unfold next; split <;> simp_all

theorem rest_skip (c : Cursor) (n : Nat) : (c.skip n).rest = c.rest.drop n := by
  induction n generalizing c with
  | zero => rfl
  | succ n ih => rw [skip, ih, rest_next, List.drop_tail]

theorem length_rest_nextLine_le (c : Cursor) : c.nextLine.rest.length ≤ c.rest.length := by
  unfold nextLine
  split
  · next h => simp only [h, List.length_cons]; omega
  · next _ h => split <;> simp [h]
  · next h => simp [h]

/-- A step over the end of a line makes progress. -/
theorem length_rest_nextLine_lt {c : Cursor} {ch : Char} {r : List Char} (h : c.rest = ch :: r)
    (hb : isBreak ch = true) : c.nextLine.rest.length < c.rest.length := by
  unfold nextLine
  split
  · next h' => simp only [h', List.length_cons]; omega
  · next _ h' =>
    obtain ⟨rfl, rfl⟩ : _ = ch ∧ _ = r := List.cons.inj (h'.symm.trans h)
    simp [h', hb]
  · next h' => simp [h'] at h

end Cursor

end GrantList.Yaml
