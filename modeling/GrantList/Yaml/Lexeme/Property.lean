import GrantList.Yaml.Cursor
import GrantList.Yaml.Lexeme
import GrantList.Yaml.Lexeme.Scalar

/-!
# Properties and directives

Anchors, aliases and tags, which belong to nodes, and the two directives that may stand before a
document. A tag is written in full between angle brackets, or as a handle with a suffix. Within a
suffix, characters may be written as octets in hexadecimal. The character with code point zero, which
can only be written in that way, ends a tag, and what follows it does not count.
-/

namespace GrantList.Yaml

/-! ### Anchors and aliases -/

/-- Reads the name of an anchor or an alias after its mark. -/
def anchorName (c : Cursor) : Except Fault (String × Cursor) :=
  let name := c.spanText isWordChar
  let c := c.skipWhile isWordChar
  let ended := c.seesGap || (c.peek?).any ['?', ':', ',', ']', '}', '%', '@', '`'].contains
  if name.isEmpty || !ended then .error .badAnchor else .ok (name, c)

/-! ### Tags -/

/-- Whether `ch` may stand in a tag. Commas and brackets may only where the tag is enclosed. -/
def isTagChar (enclosed : Bool) (ch : Char) : Bool :=
  isWordChar ch || ";/?:@&=+$.!~*'()".toList.contains ch
    || (enclosed && [',', '[', ']'].contains ch)

/-- The octet that a percent sign and two hexadecimal digits stand for. -/
def octet? : List Char → Option Nat
  | '%' :: a :: b :: _ => hexNumber? [a, b]
  | _ => none

/-- The number of octets of a character whose first octet is given. -/
def octetCount? (first : Nat) : Option Nat :=
  if first < 0x80 then some 1
  else if first < 0xC0 then none
  else if first < 0xE0 then some 2
  else if first < 0xF0 then some 3
  else if first < 0xF8 then some 4
  else none

/-- Reads `n` further octets of a character, of which `value` has been read. -/
def moreOctets? (value : Nat) (c : Cursor) : Nat → Option (Nat × Cursor)
  | 0 => some (value, c)
  | n + 1 =>
    match octet? c.rest with
    | none => none
    | some o => if o / 64 == 2 then moreOctets? (64 * value + o % 64) (c.skip 3) n else none

/-- Reads a character that is written as octets. A code point that takes fewer octets than were
written, or that is none, counts as unknown. -/
def octetChar? (c : Cursor) : Option (Char × Cursor) := do
  let first ← octet? c.rest
  let count ← octetCount? first
  let (value, c) ← moreOctets? (first % (if count == 1 then 128 else 1 <<< (7 - count))) (c.skip 3)
    (count - 1)
  let least := if count == 1 then 0 else if count == 2 then 0x80 else if count == 3 then 0x800
    else 0x10000
  return (if least ≤ value && value.isValidChar then Char.ofNat value else '\uFFFD', c)

/-- Reads on in a tag of which `text` has been read. -/
def tagTextFrom (enclosed : Bool) (text : String) (c : Cursor) :
    Except Fault (String × Cursor) :=
  match c.peek? with
  | none => .ok (text, c)
  | some ch =>
    if ch == '%' then
      match octetChar? c with
      | none => .error .badTag
      | some (e, c') =>
        if c'.rest.length < c.rest.length then tagTextFrom enclosed (text.push e) c'
        else .error .badTag
    else if isTagChar enclosed ch then
      let c' := c.next
      if c'.rest.length < c.rest.length then tagTextFrom enclosed (text.push ch) c'
      else .error .badTag
    else .ok (text, c)
termination_by c.rest.length

/-- Reads the text of a tag that goes on after `head`, which counts without its first character. It
is not empty, unless there is a head, and counts up to the first character zero. -/
def tagText (enclosed : Bool) (head : String) (c : Cursor) : Except Fault (String × Cursor) := do
  let (text, c') ← tagTextFrom enclosed "" c
  if head.isEmpty && text.isEmpty then throw .badTag
  return (.ofList (head.toList.drop 1 ++ text.toList.takeWhile (· ≠ '\x00')), c')

/-- Reads a tag handle: an exclamation mark, a word, and another exclamation mark if there is one.
In a directive the second mark may be missing only if there is no word. -/
def tagHandle (directive : Bool) (c : Cursor) : Except Fault (String × Cursor) := do
  if !c.sees '!' then throw .badTag
  let word := c.next.spanText isWordChar
  let c := c.next.skipWhile isWordChar
  if c.sees '!' then return ("!" ++ word ++ "!", c.next)
  if directive && !word.isEmpty then throw .badTag
  return ("!" ++ word, c)

/-- Reads a tag, from its exclamation mark on. A tag without a handle that was declared has the
handle `!`, and the exclamation mark alone is a tag without a handle. -/
def tagLexeme (flow : Bool) (c : Cursor) : Except Fault (Lexeme × Cursor) := do
  let (lexeme, c) ←
    if c.sees '<' 1 then do
      let (text, c) ← tagText true "" (c.skip 2)
      if !c.sees '>' then throw .badTag
      pure (Lexeme.tag "" text, c.next)
    else do
      let (handle, c) ← tagHandle false c
      if handle.length > 1 && handle.toList.getLast? == some '!' then
        let (suffix, c) ← tagText false "" c
        pure (Lexeme.tag handle suffix, c)
      else
        let (suffix, c) ← tagText false handle c
        pure (if suffix.isEmpty then Lexeme.tag "" "!" else Lexeme.tag "!" suffix, c)
  if !c.seesGap && !(flow && c.sees ',') then throw .badTag
  return (lexeme, c)

/-! ### Directives -/

/-- Reads a number of a version, which has at most nine digits. -/
def versionNumber (c : Cursor) : Except Fault (Nat × Cursor) :=
  let digits := c.rest.takeWhile Char.isDigit
  if digits.isEmpty || digits.length > 9 then .error .badDirective
  else .ok (digits.foldl (fun n d => 10 * n + (d.toNat - '0'.toNat)) 0, c.skip digits.length)

/-- Reads what follows the name of a directive. -/
def directiveValue (name : String) (c : Cursor) : Except Fault (Lexeme × Cursor) := do
  if name == "YAML" then
    let (major, c) ← versionNumber c.skipBlanks
    if !c.sees '.' then throw .badDirective
    let (minor, c) ← versionNumber c.next
    return (.versionDirective major minor, c)
  else if name == "TAG" then
    let (handle, c) ← tagHandle true c.skipBlanks
    if !c.seesBlank then throw .badDirective
    let (start, c) ← tagText true "" c.skipBlanks
    if !c.seesGap then throw .badDirective
    return (.tagDirective handle start, c)
  else throw .badDirective

/-- Reads a directive, from its percent sign to the end of its line. -/
def directiveLexeme (c : Cursor) : Except Fault (Lexeme × Cursor) := do
  let c := c.next
  let name := c.spanText isWordChar
  let c := c.skipWhile isWordChar
  if !c.seesGap then throw .badDirective
  let (lexeme, c) ← directiveValue name c
  let c := c.skipBlanks
  let c := if c.sees '#' then c.skipToBreak else c
  if !c.atEnd && !c.seesBreak then throw .badDirective
  return (lexeme, c.nextLine)

end GrantList.Yaml
