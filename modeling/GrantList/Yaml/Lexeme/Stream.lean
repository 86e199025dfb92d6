import GrantList.Yaml.Lexeme.Property

/-!
# The lexemes of a text

A text is cut into lexemes from left to right. Two things depend on more than the characters at
hand. Block collections start where the column grows and end where it falls back, so the columns of
the open ones are kept. And a key need not be marked: what was read as a scalar turns out to be a
key when a colon follows it, so the places where a key may have begun are kept as well, one for each
open flow collection and one for the block around them. The mark of such a key is put in before it
once the colon is seen.

Such a key must stand on one line and may take at most 1024 octets. Where a block mapping needs
a key, one that turns out to be none is a fault.
-/

namespace GrantList.Yaml

/-- A place where an unmarked key may have begun. -/
structure KeyStart where
  /-- Whether the block mapping around it needs a key here. -/
  required : Bool
  /-- The number of lexemes before it. -/
  position : Nat
  /-- The number of octets before it. -/
  index : Nat
  /-- The line it stands on. -/
  line : Nat
  /-- The column it stands in. -/
  column : Nat

/-- The state of cutting a text into lexemes. -/
structure Lexer where
  /-- Where the next lexeme begins. -/
  cursor : Cursor
  /-- The lexemes so far. -/
  lexemes : Array Lexeme := #[]
  /-- The column of the innermost open block collection, or `-1`. -/
  indent : Int := -1
  /-- The columns of the block collections around it, innermost first. -/
  outer : List Int := []
  /-- The possible start of a key in the innermost open flow collection, or in the block if there
  is none. -/
  keyStart : Option KeyStart := none
  /-- The possible starts of keys around it, innermost first: one for each open flow collection. -/
  outerKeyStarts : List (Option KeyStart) := []
  /-- Whether a key may begin here. -/
  keyAllowed : Bool := true

namespace Lexer

/-- Whether a flow collection is open. -/
def inFlow (l : Lexer) : Bool :=
  !l.outerKeyStarts.isEmpty

/-- Adds a lexeme. -/
def emit (l : Lexer) (x : Lexeme) : Lexer :=
  { l with lexemes := l.lexemes.push x }

/-- Adds a lexeme that ends at `c`. -/
def emitTo (l : Lexer) (x : Lexeme) (c : Cursor) : Lexer :=
  { l.emit x with cursor := c }

/-! ### Unmarked keys -/

/-- Gives up a possible key, which is a fault if a key is needed. -/
def giveUpKey : Option KeyStart → Except Fault (Option KeyStart)
  | none => .ok none
  | some k => if k.required then .error .missingColon else .ok none

/-- Gives up the innermost possible key. -/
def dropKey (l : Lexer) : Except Fault Lexer := do
  return { l with keyStart := ← giveUpKey l.keyStart }

/-- Gives up a possible key that began on another line or too far back. -/
def dropIfStale (c : Cursor) : Option KeyStart → Except Fault (Option KeyStart)
  | none => .ok none
  | some k =>
    if k.line < c.line || k.index + 1024 < c.index then giveUpKey (some k) else .ok (some k)

/-- Gives up all possible keys that began on another line or too far back. -/
def dropStaleKeys (l : Lexer) : Except Fault Lexer := do
  return { l with
    keyStart := ← dropIfStale l.cursor l.keyStart
    outerKeyStarts := ← l.outerKeyStarts.mapM (dropIfStale l.cursor) }

/-- Notes that a key may begin here, if one is allowed. -/
def markKey (l : Lexer) : Except Fault Lexer := do
  if l.keyAllowed then
    let l ← l.dropKey
    return { l with keyStart := some {
      required := !l.inFlow && decide (l.indent = l.cursor.column)
      position := l.lexemes.size
      index := l.cursor.index
      line := l.cursor.line
      column := l.cursor.column } }
  else return l

/-! ### Block collections -/

/-- Opens a block collection at `column`, unless one as deep is open. Its start goes before the
lexeme at `position`. -/
def openBlock (l : Lexer) (column position : Nat) (start : Lexeme) : Lexer :=
  if !l.inFlow && decide (l.indent < column) then
    { l with
      indent := column
      outer := l.indent :: l.outer
      lexemes := l.lexemes.insertIdxIfInBounds position start }
  else l

/-- Ends the block collections among those at `indent` and around it that are deeper than `column`.
The result is the column of the innermost one left, those around it, and the lexemes. -/
def closeBlocksFrom (column indent : Int) (lexemes : Array Lexeme) :
    List Int → Int × List Int × Array Lexeme
  | [] => (indent, [], lexemes)
  | i :: outer =>
    if column < indent then closeBlocksFrom column i (lexemes.push .blockEnd) outer
    else (indent, i :: outer, lexemes)

/-- Ends the block collections that are deeper than `column`. Within a flow collection the
indentation does not count. -/
def closeBlocks (l : Lexer) (column : Int) : Lexer :=
  if l.inFlow then l
  else
    let (indent, outer, lexemes) := closeBlocksFrom column l.indent l.lexemes l.outer
    { l with indent, outer, lexemes }

/-! ### Marks -/

/-- Reads a lexeme that cannot be within a block collection. -/
def outermost (l : Lexer) (read : Cursor → Except Fault (Lexeme × Cursor)) :
    Except Fault Lexer := do
  let l ← (l.closeBlocks (-1)).dropKey
  let (x, c) ← read l.cursor
  return { l.emitTo x c with keyAllowed := false }

/-- Opens a flow collection. It may itself be a key. -/
def openFlow (l : Lexer) (start : Lexeme) : Except Fault Lexer := do
  let l ← l.markKey
  return { l.emitTo start l.cursor.next with
    keyStart := none
    outerKeyStarts := l.keyStart :: l.outerKeyStarts
    keyAllowed := true }

/-- Closes the innermost flow collection, if one is open. -/
def closeFlow (l : Lexer) (stop : Lexeme) : Except Fault Lexer := do
  let l ← l.dropKey
  let l := match l.outerKeyStarts with
    | [] => l
    | k :: outer => { l with keyStart := k, outerKeyStarts := outer }
  return { l.emitTo stop l.cursor.next with keyAllowed := false }

/-- Reads the mark between the entries of a flow collection. -/
def flowEntry (l : Lexer) : Except Fault Lexer := do
  let l ← l.dropKey
  return { l.emitTo .flowEntry l.cursor.next with keyAllowed := true }

/-- Reads a mark with which an entry or a key of a block collection may begin. The fault is raised
where no such mark is allowed. -/
def blockMark (l : Lexer) (start mark : Lexeme) (fault : Fault) : Except Fault Lexer := do
  if !l.inFlow && !l.keyAllowed then throw fault
  let l := l.openBlock l.cursor.column l.lexemes.size start
  return l.emitTo mark l.cursor.next

/-- Reads the mark of an entry of a block sequence. -/
def blockEntry (l : Lexer) : Except Fault Lexer := do
  let l ← l.blockMark .blockSequenceStart .blockEntry .misplacedEntry
  return { ← l.dropKey with keyAllowed := true }

/-- Reads the mark of a key. -/
def markedKey (l : Lexer) : Except Fault Lexer := do
  let l ← l.blockMark .blockMappingStart .key .misplacedKey
  return { ← l.dropKey with keyAllowed := !l.inFlow }

/-- Reads the mark of a value. If a key may have begun before it, that was one. -/
def markedValue (l : Lexer) : Except Fault Lexer :=
  match l.keyStart with
  | some k =>
    let l := { l with lexemes := l.lexemes.insertIdxIfInBounds k.position .key }
    let l := l.openBlock k.column k.position .blockMappingStart
    .ok { l.emitTo .value l.cursor.next with keyStart := none, keyAllowed := false }
  | none => do
    let l ← l.blockMark .blockMappingStart .value .misplacedValue
    return { l with keyAllowed := !l.inFlow }

/-! ### Nodes -/

/-- Reads a lexeme with which a key may begin. -/
def nodeStart (l : Lexer) (read : Cursor → Except Fault (Lexeme × Cursor)) :
    Except Fault Lexer := do
  let l ← l.markKey
  let (x, c) ← read l.cursor
  return { l.emitTo x c with keyAllowed := false }

/-- Reads a block scalar. -/
def blockText (l : Lexer) (folded : Bool) : Except Fault Lexer := do
  let l ← l.dropKey
  let (text, c) ← blockScalar folded l.indent l.cursor.next
  return { l.emitTo (.scalar text false) c with keyAllowed := true }

/-- Reads a quoted scalar. -/
def quotedText (l : Lexer) (single : Bool) : Except Fault Lexer :=
  l.nodeStart fun c => do
    let (text, c) ← quotedFrom single {} c.next
    return (.scalar text false, c)

/-- Reads a plain scalar. A key may begin after it only if it ended with a line. -/
def plainText (l : Lexer) : Except Fault Lexer := do
  let l ← l.markKey
  let (f, c) ← plainFrom l.inFlow (l.indent + 1) {} l.cursor
  return { l.emitTo (.scalar f.text true) c with keyAllowed := f.broken }

/-! ### The whole text -/

/-- Passes the blanks and the comment that stand before a lexeme or the end of a line. A tab is
passed only where no key may begin. -/
def skipGap (l : Lexer) : Cursor :=
  let c := if l.cursor.column == 0 && l.cursor.sees '\uFEFF' then l.cursor.next else l.cursor
  let tabs := l.inFlow || !l.keyAllowed
  let c := c.skipWhile fun ch => ch == ' ' || (tabs && ch == '\t')
  if c.sees '#' then c.skipToBreak else c

/-- Passes everything before the next lexeme. Outside flow collections a key may begin on a new
line. -/
def skipToLexeme (l : Lexer) : Lexer :=
  let c := l.skipGap
  let next := { l with cursor := c.nextLine, keyAllowed := l.keyAllowed || !l.inFlow }
  if !c.seesBreak then { l with cursor := c }
  else if next.cursor.rest.length < l.cursor.rest.length then skipToLexeme next
  else next
termination_by l.cursor.rest.length

/-- Whether a plain scalar may begin with `ch`, where the cursor stands. -/
def startsPlain (flow : Bool) (ch : Char) (c : Cursor) : Bool :=
  if isBlank ch || isBreak ch then false
  else if ch == '-' then !c.seesBlank 1
  else if ch == '?' || ch == ':' then !flow && !c.seesGap 1
  else !",[]\x7b\x7d#&*!|>'\"%@\x60".toList.contains ch

/-- Reads the lexeme that begins with `ch`, where the cursor stands. -/
def lexeme (l : Lexer) (ch : Char) : Except Fault Lexer :=
  let c := l.cursor
  let flow := l.inFlow
  if c.column == 0 && ch == '%' then l.outermost directiveLexeme
  else if c.seesDocumentMark '-' then l.outermost fun c => .ok (.documentStart, c.skip 3)
  else if c.seesDocumentMark '.' then l.outermost fun c => .ok (.documentEnd, c.skip 3)
  else if ch == '[' then l.openFlow .flowSequenceStart
  else if ch == '\x7b' then l.openFlow .flowMappingStart
  else if ch == ']' then l.closeFlow .flowSequenceEnd
  else if ch == '\x7d' then l.closeFlow .flowMappingEnd
  else if ch == ',' then l.flowEntry
  else if ch == '-' && c.seesGap 1 then l.blockEntry
  else if ch == '?' && (flow || c.seesGap 1) then l.markedKey
  else if ch == ':' && (flow || c.seesGap 1) then l.markedValue
  else if ch == '*' then l.nodeStart fun c => do
    let (name, c) ← anchorName c.next
    return (.alias name, c)
  else if ch == '&' then l.nodeStart fun c => do
    let (name, c) ← anchorName c.next
    return (.anchor name, c)
  else if ch == '!' then l.nodeStart (tagLexeme flow)
  else if ch == '|' && !flow then l.blockText false
  else if ch == '>' && !flow then l.blockText true
  else if ch == '\'' then l.quotedText true
  else if ch == '"' then l.quotedText false
  else if startsPlain flow ch c then l.plainText
  else .error .badStart

/-- Reads on to the end of the text. -/
def run (l : Lexer) : Except Fault (Array Lexeme) :=
  match l.skipToLexeme.dropStaleKeys with
  | .error fault => .error fault
  | .ok l' =>
    let l' := l'.closeBlocks l'.cursor.column
    match l'.cursor.peek? with
    | none => do
      let l' ← (l'.closeBlocks (-1)).dropKey
      return l'.lexemes
    | some ch =>
      match l'.lexeme ch with
      | .error fault => .error fault
      | .ok l'' =>
        if l''.cursor.rest.length < l.cursor.rest.length then run l'' else .error .badStart
termination_by l.cursor.rest.length

end Lexer

/-- The lexemes of a text. -/
def lexemes (s : String) : Except Fault (List Lexeme) := do
  if !s.toList.all isAllowed then throw .badCharacter
  let l ← Lexer.run { cursor := { rest := s.toList } }
  return l.toList

end GrantList.Yaml
