/-!
# Faults of a data file

The reasons for which the text of a YAML file cannot be read, from characters that may not occur to
records that lack a field. Each fault has a message that says what is wrong.
-/

namespace GrantList.Yaml

/-- What is wrong with a YAML text. -/
inductive Fault where
  /-- A character that may not occur in a file. -/
  | badCharacter
  /-- A character with which no lexeme begins. -/
  | badStart
  /-- A key that is not followed by its colon in time. -/
  | missingColon
  /-- An entry of a block sequence where none is allowed. -/
  | misplacedEntry
  /-- A key where none is allowed. -/
  | misplacedKey
  /-- A value where none is allowed. -/
  | misplacedValue
  /-- A directive that is not known or not well formed. -/
  | badDirective
  /-- A directive that is given twice. -/
  | duplicateDirective
  /-- A version of the language that is not supported. -/
  | unsupportedVersion
  /-- An anchor or an alias without a proper name. -/
  | badAnchor
  /-- A tag that is not well formed. -/
  | badTag
  /-- A tag whose handle was not declared. -/
  | unknownHandle
  /-- A header of a block scalar that is not well formed. -/
  | badBlockHeader
  /-- A tab where only spaces may indent. -/
  | tabIndentation
  /-- A quoted scalar that is not closed. -/
  | unclosedQuote
  /-- The start or the end of a document within a quoted scalar. -/
  | documentInQuote
  /-- An escape that is not known or not well formed. -/
  | badEscape
  /-- A colon in a plain scalar of a flow collection before one of its marks. -/
  | unexpectedColon
  /-- A lexeme other than the start of a document between two documents. -/
  | missingDocumentStart
  /-- A lexeme with which no node begins. -/
  | missingNode
  /-- A block sequence that goes on with something else than an entry. -/
  | missingDash
  /-- A block mapping that goes on with something else than a key. -/
  | missingKey
  /-- A flow collection whose entries are not separated. -/
  | missingComma
  /-- An alias of an anchor that was not defined. -/
  | unknownAnchor
  /-- More than one document. -/
  | severalDocuments
  /-- Aliases that repeat too much. -/
  | tooManyAliases
  /-- Something else where text is expected. -/
  | expectedText
  /-- Something else where a list is expected. -/
  | expectedList
  /-- Something else where a record is expected. -/
  | expectedRecord
  /-- Something else where only nothing is allowed. -/
  | expectedNull
  /-- A field that is given twice. -/
  | duplicateField (name : String)
  /-- A field that is not given. -/
  | missingField (name : String)
deriving DecidableEq, Repr

/-- The message for a fault. -/
def Fault.message : Fault → String
  | .badCharacter => "the text holds a control character"
  | .badStart => "nothing begins with this character"
  | .missingColon => "a key has no colon"
  | .misplacedEntry => "an entry of a list is not allowed here"
  | .misplacedKey => "a key is not allowed here"
  | .misplacedValue => "a value is not allowed here"
  | .badDirective => "a directive is malformed or unknown"
  | .duplicateDirective => "a directive is repeated"
  | .unsupportedVersion => "this version of the language is not supported"
  | .badAnchor => "an anchor or an alias has no proper name"
  | .badTag => "a tag is malformed"
  | .unknownHandle => "a tag handle is not declared"
  | .badBlockHeader => "the header of a block scalar is malformed"
  | .tabIndentation => "a tab stands where only spaces may indent"
  | .unclosedQuote => "a quoted scalar is not closed"
  | .documentInQuote => "a document starts or ends within a quoted scalar"
  | .badEscape => "an escape is malformed or unknown"
  | .unexpectedColon => "a colon is not allowed here"
  | .missingDocumentStart => "a document has no start"
  | .missingNode => "a node is missing"
  | .missingDash => "an entry of a list has no dash"
  | .missingKey => "a key is missing"
  | .missingComma => "the entries of a collection are not separated"
  | .unknownAnchor => "an alias has no anchor"
  | .severalDocuments => "there is more than one document"
  | .tooManyAliases => "aliases repeat too much"
  | .expectedText => "a text is expected"
  | .expectedList => "a list is expected"
  | .expectedRecord => "a record is expected"
  | .expectedNull => "only a null is expected"
  | .duplicateField name => "the field '" ++ name ++ "' is given twice"
  | .missingField name => "the field '" ++ name ++ "' is missing"

end GrantList.Yaml
