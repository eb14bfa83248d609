/-!
# Why a pattern is refused
-/

namespace Schemata.Pattern

/-- What is wrong with the text of a pattern. -/
inductive Fault where
  | unclosedGroup
  | unopenedGroup
  | unclosedClass
  | unclosedCount
  | missingOperand
  | missingCount
  | countTooLarge
  | countOrder
  | lookAround
  | backreference
  | escapeEnd
  | unknownEscape
  | escapeInClass
  | hexDigit
  | hexEmpty
  | hexValue
  | rangeEnd
  | rangeOrder
  | groupName
  | repeatedGroupName
  | unknownFlag
  | repeatedFlag
  | flagsEnd
  | danglingNegation
  | unknownBoundary
  | unclosedBoundary
  | unicodeNotAllowed
  | notText
  | unknownProperty
  | nestedTooDeep
  | tooLarge
deriving DecidableEq

namespace Fault

/-- What is wrong, in words. -/
def reason : Fault → String
  | .unclosedGroup => "unclosed group"
  | .unopenedGroup => "unopened group"
  | .unclosedClass => "unclosed character class"
  | .unclosedCount => "unclosed counted repetition"
  | .missingOperand => "repetition operator missing expression"
  | .missingCount => "repetition quantifier expects a valid decimal"
  | .countTooLarge => "decimal literal invalid"
  | .countOrder => "invalid repetition count range, the start must be <= the end"
  | .lookAround => "look-around, including look-ahead and look-behind, is not supported"
  | .backreference => "backreferences are not supported"
  | .escapeEnd => "incomplete escape sequence, reached end of pattern prematurely"
  | .unknownEscape => "unrecognized escape sequence"
  | .escapeInClass => "invalid escape sequence found in character class"
  | .hexDigit => "invalid hexadecimal digit"
  | .hexEmpty => "hexadecimal literal empty"
  | .hexValue => "hexadecimal literal is not a Unicode scalar value"
  | .rangeEnd => "invalid range boundary, must be a literal"
  | .rangeOrder => "invalid character class range, the start must be <= the end"
  | .groupName => "invalid capture group name"
  | .repeatedGroupName => "duplicate capture group name"
  | .unknownFlag => "unrecognized flag"
  | .repeatedFlag => "duplicate flag"
  | .flagsEnd => "expected flag but got end of regex"
  | .danglingNegation => "dangling flag negation operator"
  | .unknownBoundary => "unrecognized special word boundary assertion"
  | .unclosedBoundary => "special word boundary assertion is unclosed"
  | .unicodeNotAllowed => "Unicode not allowed here"
  | .notText => "pattern can match invalid UTF-8"
  | .unknownProperty => "Unicode property not found"
  | .nestedTooDeep => "exceeds the maximum number of nested parentheses/brackets (250)"
  | .tooLarge => "Compiled regex exceeds size limit of 10485760 bytes."

/-- The diagnosis that a message carries. -/
def message : Fault → String
  | .tooLarge => reason .tooLarge
  | fault => "regex parse error: " ++ fault.reason

end Fault

end Schemata.Pattern
