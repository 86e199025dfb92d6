import GrantList.Yaml.Cursor
import GrantList.Yaml.Lexeme

/-!
# Scalars

The three ways to write a scalar. A plain scalar ends where something else could begin, a quoted one
at its closing quote, and a block scalar where the indentation falls back. In plain and quoted
scalars a single line end counts as a space and further ones count as they are; blanks around a line
end do not count. In block scalars the header decides how line ends are kept.
-/

namespace GrantList.Yaml

/-! ### Folding of lines -/

/-- The text of a scalar as far as it has been read, and the blanks and line ends after it, which
count only if more text follows. -/
structure Folding where
  /-- The text so far. -/
  text : String := ""
  /-- The blanks after it on the same line. -/
  blanks : String := ""
  /-- Whether the line has ended since. -/
  broken : Bool := false
  /-- The first line end after the text. -/
  firstBreak : String := ""
  /-- The line ends after the first. -/
  breaks : String := ""

namespace Folding

/-- Whether blanks or line ends stand after the text. -/
def isPending (f : Folding) : Bool :=
  f.broken || !f.blanks.isEmpty

/-- Adds what the blanks and line ends after the text count for. -/
def join (f : Folding) : Folding :=
  if f.broken then
    if f.firstBreak == "\n" then { text := f.text ++ if f.breaks.isEmpty then " " else f.breaks }
    else { text := f.text ++ f.firstBreak ++ f.breaks }
  else { text := f.text ++ f.blanks }

/-- Adds a character of text. -/
def push (f : Folding) (ch : Char) : Folding :=
  let f := f.join
  { f with text := f.text.push ch }

/-- Notes a blank. Blanks at the start of a line do not count. -/
def blank (f : Folding) (ch : Char) : Folding :=
  if f.broken then f else { f with blanks := f.blanks.push ch }

/-- Notes a line end. Blanks before it do not count. -/
def lineEnd (f : Folding) (s : String) : Folding :=
  if f.broken then { f with breaks := f.breaks ++ s }
  else { f with blanks := "", broken := true, firstBreak := s }

end Folding

/-! ### Plain scalars -/

/-- Whether a plain scalar ends before the character `ch`, where the cursor stands. -/
def endsPlain (flow : Bool) (ch : Char) (c : Cursor) : Bool :=
  (ch == ':' && c.seesGap 1) || (flow && [',', '[', ']', '{', '}'].contains ch)

set_option linter.unusedVariables false in
-- the proof that the scan ends uses the equations of the match
/-- Reads on in a plain scalar whose lines are indented by at least `indent`. -/
def plainFrom (flow : Bool) (indent : Int) (f : Folding) (c : Cursor) :
    Except Fault (Folding × Cursor) :=
  match h : c.rest with
  | [] => .ok (f, c)
  | ch :: _ =>
    if isBlank ch then
      if f.broken && ch == '\t' && decide (c.column < indent) then .error .tabIndentation
      else plainFrom flow indent (f.blank ch) c.next
    else if hb : isBreak ch then plainFrom flow indent (f.lineEnd c.breakText) c.nextLine
    else if f.isPending && ((!flow && decide (c.column < indent)) || c.seesDocumentMark '-'
        || c.seesDocumentMark '.' || ch == '#') then .ok (f, c)
    else if flow && ch == ':' && (c.peek? 1).any [',', '?', '[', ']', '{', '}'].contains then
      .error .unexpectedColon
    else if endsPlain flow ch c then .ok (f, c)
    else plainFrom flow indent (f.push ch) c.next
termination_by c.rest.length
decreasing_by
  · simp [Cursor.rest_next, h]
  · exact Cursor.length_rest_nextLine_lt h hb
  · simp [Cursor.rest_next, h]

/-! ### Quoted scalars -/

/-- The value of a hexadecimal digit. -/
def hexDigit? (c : Char) : Option Nat :=
  if c.isDigit then some (c.toNat - '0'.toNat)
  else if 'a' ≤ c ∧ c ≤ 'f' then some (c.toNat - 'a'.toNat + 10)
  else if 'A' ≤ c ∧ c ≤ 'F' then some (c.toNat - 'A'.toNat + 10)
  else none

/-- The number that a list of hexadecimal digits stands for. -/
def hexNumber? (l : List Char) : Option Nat :=
  (l.mapM hexDigit?).map (·.foldl (fun n d => 16 * n + d) 0)

/-- The character that an escape of one letter stands for. -/
def shortEscape? : Char → Option Char
  | '0' => some '\x00'
  | 'a' => some '\x07'
  | 'b' => some '\x08'
  | 't' | '\t' => some '\t'
  | 'n' => some '\n'
  | 'v' => some '\x0b'
  | 'f' => some '\x0c'
  | 'r' => some '\r'
  | 'e' => some '\x1b'
  | ' ' => some ' '
  | '"' => some '"'
  | '/' => some '/'
  | '\\' => some '\\'
  | 'N' => some '\u0085'
  | '_' => some '\u00a0'
  | 'L' => some '\u2028'
  | 'P' => some '\u2029'
  | _ => none

/-- The number of digits after the letter of an escape by code point. -/
def escapeDigits? : Char → Option Nat
  | 'x' => some 2
  | 'u' => some 4
  | 'U' => some 8
  | _ => none

/-- The character that the escape `l`, read after its backslash, stands for, and the number of
characters it takes. -/
def escape? : List Char → Option (Char × Nat)
  | [] => none
  | ch :: l =>
    match shortEscape? ch, escapeDigits? ch with
    | some e, _ => some (e, 1)
    | none, none => none
    | none, some n =>
      if l.length < n then none
      else
        match hexNumber? (l.take n) with
        | none => none
        | some v => if v.isValidChar then some (Char.ofNat v, n + 1) else none

set_option linter.unusedVariables false in
-- the proof that the scan ends uses the equations of the match
/-- Reads on in a quoted scalar, up to its closing quote. -/
def quotedFrom (single : Bool) (f : Folding) (c : Cursor) : Except Fault (String × Cursor) :=
  match h : c.rest with
  | [] => .error .unclosedQuote
  | ch :: l =>
    if isBlank ch then quotedFrom single (f.blank ch) c.next
    else if hb : isBreak ch then quotedFrom single (f.lineEnd c.breakText) c.nextLine
    else if c.seesDocumentMark '-' || c.seesDocumentMark '.' then .error .documentInQuote
    else if ch == (if single then '\'' else '"') then
      -- within single quotes, the quote itself is written twice
      if single && c.sees '\'' 1 then quotedFrom single (f.push ch) (c.skip 2)
      else .ok (f.join.text, c.next)
    else if !single && ch == '\\' then
      -- an escaped line end counts for nothing
      if c.seesBreak 1 then quotedFrom single { f.join with broken := true } c.next.nextLine
      else
        match escape? l with
        | some (e, n) => quotedFrom single (f.push e) (c.skip (n + 1))
        | none => .error .badEscape
    else quotedFrom single (f.push ch) c.next
termination_by c.rest.length
decreasing_by
  · simp [Cursor.rest_next, h]
  · exact Cursor.length_rest_nextLine_lt h hb
  · simp only [Cursor.rest_skip, h, List.length_drop, List.length_cons]; omega
  · have := c.next.length_rest_nextLine_le
    simp only [Cursor.rest_next, h, List.tail_cons, List.length_cons] at this ⊢; omega
  · simp only [Cursor.rest_skip, h, List.length_drop, List.length_cons]; omega
  · simp [Cursor.rest_next, h]

/-! ### Block scalars -/

/-- How the line ends at the end of a block scalar are kept. -/
inductive Chomping where
  /-- None of them. -/
  | strip
  /-- The first of them. -/
  | clip
  /-- All of them. -/
  | keep
deriving DecidableEq, Repr

/-- The sign for a way to keep the line ends. -/
def chomping? : Char → Option Chomping
  | '+' => some .keep
  | '-' => some .strip
  | _ => none

/-- The indentation and the chomping in the header of a block scalar, in either order. A missing
indentation is `0`. -/
def blockHeader (c : Cursor) : Except Fault (Nat × Chomping × Cursor) := do
  let digit (c : Cursor) : Except Fault (Nat × Cursor) :=
    match c.peek? with
    | some ch =>
      if ch == '0' then .error .badBlockHeader
      else if ch.isDigit then .ok (ch.toNat - '0'.toNat, c.next)
      else .ok (0, c)
    | none => .ok (0, c)
  match c.peek?.bind chomping? with
  | some chomping =>
    let (indent, c) ← digit c.next
    return (indent, chomping, c)
  | none =>
    let (indent, c) ← digit c
    match if indent == 0 then none else c.peek?.bind chomping? with
    | some chomping => return (indent, chomping, c.next)
    | none => return (indent, .clip, c)

set_option linter.unusedVariables false in
-- the proof that the scan ends uses the equations of the match
/-- Passes the indentation and the empty lines before a line of a block scalar. The result is the
greatest column reached and the line ends passed. While `indent` is `0`, any number of spaces counts
as indentation. -/
def blockBreaks (indent widest : Nat) (breaks : String) (c : Cursor) :
    Except Fault (Nat × String × Cursor) :=
  match h : c.rest with
  | [] => .ok (max widest c.column, breaks, c)
  | ch :: _ =>
    let indents := indent == 0 || decide (c.column < indent)
    if ch == ' ' && indents then blockBreaks indent widest breaks c.next
    else if ch == '\t' && indents then .error .tabIndentation
    else if hb : isBreak ch then
      blockBreaks indent (max widest c.column) (breaks ++ c.breakText) c.nextLine
    else .ok (max widest c.column, breaks, c)
termination_by c.rest.length
decreasing_by
  · simp [Cursor.rest_next, h]
  · exact Cursor.length_rest_nextLine_lt h hb

/-- The lines of a block scalar read so far. -/
structure BlockLines where
  /-- The text so far. -/
  text : String := ""
  /-- The end of the last line. -/
  lastBreak : String := ""
  /-- The ends of the empty lines after it. -/
  breaks : String
  /-- Whether the last line began with a blank. -/
  indented : Bool := false

/-- Adds the next line. When lines are folded, a single line end between two lines that do not begin
with a blank counts as a space. -/
def BlockLines.addLine (b : BlockLines) (folded indented : Bool) (line : String) : String :=
  let lineEnd :=
    if folded && b.lastBreak == "\n" && !b.indented && !indented then
      if b.breaks.isEmpty then " " else ""
    else b.lastBreak
  b.text ++ lineEnd ++ b.breaks ++ line

/-- Reads the lines of a block scalar that are indented by `indent`. -/
def blockLinesFrom (folded : Bool) (indent : Nat) (b : BlockLines) (c : Cursor) :
    Except Fault (BlockLines × Cursor) :=
  if c.column == indent && !c.atEnd then
    let lineStop := c.skipToBreak
    match blockBreaks indent 0 "" lineStop.nextLine with
    | .error fault => .error fault
    | .ok (_, breaks, c') =>
      let b : BlockLines := {
        text := b.addLine folded c.seesBlank (c.spanText fun ch => !isBreak ch)
        lastBreak := lineStop.breakText
        breaks
        indented := c.seesBlank }
      if c'.rest.length < c.rest.length then blockLinesFrom folded indent b c' else .ok (b, c')
  else .ok (b, c)
termination_by c.rest.length

/-- Reads a block scalar after its mark, within a collection that is indented by `outer`. -/
def blockScalar (folded : Bool) (outer : Int) (c : Cursor) : Except Fault (String × Cursor) := do
  let (increment, chomping, c) ← blockHeader c
  let c := c.skipBlanks
  let c := if c.sees '#' then c.skipToBreak else c
  if !c.atEnd && !c.seesBreak then throw .badBlockHeader
  let given := if increment == 0 then 0 else (max outer 0).toNat + increment
  let (widest, breaks, c) ← blockBreaks given 0 "" c.nextLine
  let indent := if given == 0 then max widest (max (outer + 1) 1).toNat else given
  let (b, c) ← blockLinesFrom folded indent { breaks } c
  match chomping with
  | .strip => return (b.text, c)
  | .clip => return (b.text ++ b.lastBreak, c)
  | .keep => return (b.text ++ b.lastBreak ++ b.breaks, c)

end GrantList.Yaml
