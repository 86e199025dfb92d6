/-!
# JSON output

The results of commands are printed as JSON objects whose fields are texts and lists of texts. Each
field and each item of a list stands on a line of its own, indented by two spaces for each level; an
empty list stands on the line of its field. Within quotes, the quote, the backslash and the control
characters are escaped and all else is written as it is.
-/

namespace GrantList.Json

/-- The value of a field. -/
inductive Value where
  /-- A text. -/
  | text (s : String)
  /-- A list of texts. -/
  | list (l : List String)
deriving DecidableEq, Repr

/-- The number in hexadecimal with four digits. -/
def hex4 (n : Nat) : String :=
  let digits := Nat.toDigits 16 n
  .ofList (List.replicate (4 - digits.length) '0' ++ digits)

/-- The written form of a character within quotes. -/
def escapeChar (c : Char) : String :=
  match c with
  | '"' => "\\\""
  | '\\' => "\\\\"
  | '\x08' => "\\b"
  | '\x0c' => "\\f"
  | '\n' => "\\n"
  | '\r' => "\\r"
  | '\t' => "\\t"
  | _ => if c.toNat < 0x20 then "\\u" ++ hex4 c.toNat else c.toString

/-- The text between quotes. -/
def quote (s : String) : String :=
  "\"" ++ "".intercalate (s.toList.map escapeChar) ++ "\""

/-- The written form of the value of a field. -/
def Value.print : Value → String
  | .text s => quote s
  | .list [] => "[]"
  | .list l => "[\n" ++ ",\n".intercalate (l.map fun s => "    " ++ quote s) ++ "\n  ]"

/-- The written form of an object with the given fields. -/
def printObject (fields : List (String × Value)) : String :=
  let line (f : String × Value) : String := "  " ++ quote f.1 ++ ": " ++ f.2.print
  "\x7b\n" ++ ",\n".intercalate (fields.map line) ++ "\n\x7d"

end GrantList.Json
