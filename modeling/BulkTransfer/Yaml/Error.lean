/-!
# YAML faults

Why a text is no YAML document, or why a document is not of the wanted form.
-/
namespace BulkTransfer

inductive YamlFault where
  | controlCharacter
  | strayCharacter
  | tabInIndentation
  | missingColon
  | entryNotAllowed
  | keyNotAllowed
  | valueNotAllowed
  | badDirective
  | badTag
  | badAnchor
  | badBlockHeader
  | unclosedQuote
  | badEscape
  | strayColon
  | unexpectedToken
  | undefinedTagHandle
  | unsupportedVersion
  | repeatedDirective
  | unknownAlias
  | moreThanOneDocument
  | nestedTooDeep
  | aliasesTooMany
  | integerOutOfRange
  | tagMismatch
  | taggedValue
  | keyNotScalar
  | wrongForm (expected : String)
  | duplicateField (name : String)
  | mismatched (reason : String)
  deriving DecidableEq, Repr

def YamlFault.message : YamlFault → String
  | controlCharacter => "control characters are not allowed"
  | strayCharacter => "found character that cannot start any token"
  | tabInIndentation => "found a tab where an indentation space is expected"
  | missingColon => "could not find expected ':'"
  | entryNotAllowed => "block sequence entries are not allowed here"
  | keyNotAllowed => "mapping keys are not allowed here"
  | valueNotAllowed => "mapping values are not allowed here"
  | badDirective => "malformed directive"
  | badTag => "malformed tag"
  | badAnchor => "malformed anchor or alias"
  | badBlockHeader => "malformed header of a block scalar"
  | unclosedQuote => "unclosed quoted scalar"
  | badEscape => "unknown escape"
  | strayColon => "found unexpected ':'"
  | unexpectedToken => "did not find expected content"
  | undefinedTagHandle => "undefined tag handle"
  | unsupportedVersion => "unsupported version"
  | repeatedDirective => "repeated directive"
  | unknownAlias => "unknown anchor"
  | moreThanOneDocument => "more than one document"
  | nestedTooDeep => "recursion limit exceeded"
  | aliasesTooMany => "repetition limit exceeded"
  | integerOutOfRange => "integer out of range"
  | tagMismatch => "value does not fit its tag"
  | taggedValue => "unexpected tag"
  | keyNotScalar => "key is no scalar"
  | wrongForm expected => "expected " ++ expected
  | duplicateField name => "duplicate field `" ++ name ++ "`"
  | mismatched reason => reason

end BulkTransfer
