import Schemata.Text.Segments
import Schemata.Unicode.Latest

/-!
# Formats of texts

Electronic mail addresses, web addresses, and texts in one case.
-/

namespace Schemata.Text

open Schemata.Unicode

/-- A Latin letter or a digit. -/
def isLatinAlnum (c : Char) : Bool :=
  c.isAlphanum

/-- A character of the part of a mail address before the at sign. -/
def isMailboxChar (c : Char) : Bool :=
  isLatinAlnum c || ".!#$%&'*+/=?^_`\x7b|\x7d~-".toList.contains c

/-- A label of a host name: up to 63 letters, digits and hyphens, with no hyphen at either end. -/
def isHostLabel (s : List Char) : Bool :=
  s.length ≤ 63 && (s.head?.map isLatinAlnum).getD false && (s.getLast?.map isLatinAlnum).getD false
    && s.all fun c => isLatinAlnum c || c == '-'

/-- A mail address: a mailbox name, an at sign, and labels with points between them. -/
def isEmail (s : String) : Bool :=
  match cutListAt? ['@'] s.toList with
  | some (mailbox, host) =>
    !mailbox.isEmpty && mailbox.all isMailboxChar && (segmentsOf '.' host).all isHostLabel
  | none => false

/-- What stands after a given start of a text. -/
def afterStart? (start : String) (s : List Char) : Option (List Char) :=
  if start.toList.isPrefixOf s then some (s.drop start.length) else none

/-- A web address: the scheme, two characters of which the first begins a host and the second does not end the line, and no
blank after them. -/
def isUrl (s : String) : Bool :=
  match (afterStart? "http://" s.toList).or (afterStart? "https://" s.toList) with
  | some (first :: second :: rest) =>
    !whiteSpace.contains first && !"/$.?#".toList.contains first && second != '\n'
      && rest.all fun c => !whiteSpace.contains c
  | _ => false

/-- Every letter is in lower case. -/
def isLowercase (s : String) : Bool :=
  s.toList.all fun c => !Latest.alphabetic.contains c || Latest.lowercase.contains c

/-- Every letter is in upper case. -/
def isUppercase (s : String) : Bool :=
  s.toList.all fun c => !Latest.alphabetic.contains c || Latest.uppercase.contains c

end Schemata.Text
