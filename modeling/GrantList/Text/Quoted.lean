import GrantList.Text.QuoteTable

/-!
# Quoted texts

Messages that list texts write each one between double quotes. The quote, the backslash and the
common control characters are written with a backslash and a letter. Every other character that
cannot be seen on its own, because it has no visible form or attaches to the one before it, is
written by its code point, so that two different texts never look the same.
-/

namespace GrantList.Text

/-- The written form of a character within quotes. -/
def quoteChar (c : Char) : String :=
  match c with
  | '\x00' => "\\0"
  | '\t' => "\\t"
  | '\r' => "\\r"
  | '\n' => "\\n"
  | '"' => "\\\""
  | '\\' => "\\\\"
  | _ =>
    if c ∈ CodeRanges.extending ∨ c ∈ CodeRanges.unprintable then
      "\\u\x7b" ++ .ofList (Nat.toDigits 16 c.toNat) ++ "\x7d"
    else
      c.toString

/-- The text between quotes. -/
def quote (s : String) : String :=
  "\"" ++ "".intercalate (s.toList.map quoteChar) ++ "\""

/-- A list of quoted texts, in brackets. -/
def quoteList (l : List String) : String :=
  "[" ++ ", ".intercalate (l.map quote) ++ "]"

end GrantList.Text
