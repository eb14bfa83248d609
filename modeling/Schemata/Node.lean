import Schemata.Json.Printer
import Schemata.Json.Reader
import Schemata.Pattern

/-!
# Descriptions

A description is a document in which patterns may stand: an object with the key `$regex`, and no other key but `$flags`, is read as
a pattern, with its flags folded into the text. Every other value is read part by part (`decode`), and `toJson` goes the other way.
-/

namespace Schemata

/-- A description or a part of one. -/
inductive Node where
  | null
  | bool (b : Bool)
  | num (n : Number)
  | str (s : String)
  | pattern (p : Pattern)
  | seq (items : List Node)
  | map (fields : List (String × Node))

/-- Why a document is no description. -/
inductive DecodeError where
  | invalidPattern (source : String) (fault : Pattern.Fault)
  | unsupportedFlag (c : Char)
  | notText (key : String)

/-- What is wrong, in words. -/
def DecodeError.message : DecodeError → String
  | .invalidPattern source fault => "invalid regular expression `" ++ source ++ "`: " ++ fault.message
  | .unsupportedFlag c => "unsupported regular expression flag `" ++ String.singleton c ++ "`"
  | .notText key => "`" ++ key ++ "` must be a string"

namespace Node

/-- The key of the text of a pattern. -/
def patternKey : String := "$regex"

/-- The key of the flags of a pattern. -/
def flagsKey : String := "$flags"

/-! ## Patterns in documents -/

/-- An object that stands for a pattern. -/
def isPatternLiteral (members : Members) : Bool :=
  members.contains patternKey && members.keys.all fun key => key == patternKey || key == flagsKey

/-- The text under a key of an object; `absent` when the key is not there. -/
def textUnder (members : Members) (key : String) (absent : Except DecodeError String) : Except DecodeError String :=
  match members.get? key with
  | none => absent
  | some (.str s) => .ok s
  | some _ => .error (.notText key)

/-- The flags that a pattern literal may have. -/
def isFlag (c : Char) : Bool :=
  c == 'i' || c == 'm' || c == 's' || c == 'x'

/-- The text of a pattern with flags written in front of it. -/
def foldFlags (flags source : String) : String :=
  if flags = "" then source else "(?" ++ flags ++ ")" ++ source

/-- The pattern of a text; an error shows the text as it was written. -/
def compilePattern (written source : String) : Except DecodeError Pattern :=
  (Pattern.compile source).mapError (.invalidPattern written)

/-- The pattern that an object stands for: its text, its flags, each flag, and last the whole are looked at. -/
def decodePattern (members : Members) : Except DecodeError Pattern := do
  let source ← textUnder members patternKey (.error (.notText patternKey))
  let flags ← textUnder members flagsKey (.ok "")
  match flags.toList.find? (!isFlag ·) with
  | some c => .error (.unsupportedFlag c)
  | none => compilePattern source (foldFlags flags source)

/-! ## From documents and back -/

mutual

/-- The description that a document writes; the first thing wrong in the order of the document is reported. -/
def decode (v : Json) : Except DecodeError Node :=
  match v with
  | .null => .ok .null
  | .bool b => .ok (.bool b)
  | .num n => .ok (.num n)
  | .str s => .ok (.str s)
  | .arr items => return .seq (← decodeItems items)
  | .obj members =>
    if isPatternLiteral members then return .pattern (← decodePattern members)
    else return .map (← decodeMembers members)
termination_by structural v

/-- The descriptions of items. -/
def decodeItems (items : List Json) : Except DecodeError (List Node) :=
  match items with
  | [] => .ok []
  | v :: rest => return (← decode v) :: (← decodeItems rest)
termination_by structural items

/-- The descriptions of members. -/
def decodeMembers (members : List (String × Json)) : Except DecodeError (List (String × Node)) :=
  match members with
  | [] => .ok []
  | (key, v) :: rest => return (key, ← decode v) :: (← decodeMembers rest)
termination_by structural members

end

/-- Why a text is no description: it is no document, or the document is no description. -/
inductive ReadError where
  | notDocument
  | undecodable (e : DecodeError)

/-- The description that a text writes. What is wrong with the document is found before what follows the document. -/
def read (s : String) : Except ReadError Node :=
  match Json.front? s with
  | none => .error .notDocument
  | some (v, isAlone) =>
    match decode v with
    | .error e => .error (.undecodable e)
    | .ok n => if isAlone then .ok n else .error .notDocument

mutual

/-- A description as a document. -/
def toJson (n : Node) : Json :=
  match n with
  | .null => .null
  | .bool b => .bool b
  | .num n => .num n
  | .str s => .str s
  | .pattern p => .obj [(patternKey, .str p.source)]
  | .seq items => .arr (itemsToJson items)
  | .map fields => .obj (fieldsToJson fields)
termination_by structural n

/-- Items as documents. -/
def itemsToJson (items : List Node) : List Json :=
  match items with
  | [] => []
  | n :: rest => toJson n :: itemsToJson rest
termination_by structural items

/-- Fields as documents. -/
def fieldsToJson (fields : List (String × Node)) : List (String × Json) :=
  match fields with
  | [] => []
  | (key, n) :: rest => (key, toJson n) :: fieldsToJson rest
termination_by structural fields

end

mutual

/-- Two descriptions are the same; patterns are compared by their texts. -/
def same : Node → Node → Bool
  | .null, .null => true
  | .bool a, .bool b => a == b
  | .num a, .num b => a.same b
  | .str a, .str b => a == b
  | .pattern a, .pattern b => a.source == b.source
  | .seq a, .seq b => sameItems a b
  | .map a, .map b => sameFields a b
  | _, _ => false
termination_by structural a => a

/-- Two runs of items are the same. -/
def sameItems : List Node → List Node → Bool
  | [], [] => true
  | a :: as, b :: bs => same a b && sameItems as bs
  | _, _ => false
termination_by structural a => a

/-- Two runs of fields are the same, keys included. -/
def sameFields : List (String × Node) → List (String × Node) → Bool
  | [], [] => true
  | (k, a) :: as, (l, b) :: bs => k == l && same a b && sameFields as bs
  | _, _ => false
termination_by structural a => a

end

/-- The text of a description, as a document. -/
def text (n : Node) : String :=
  n.toJson.text

/-- What sort of node it is, in a word. -/
def kindName : Node → String
  | .null => "Null"
  | .bool _ => "Bool"
  | .num _ => "Number"
  | .str _ => "String"
  | .pattern _ => "Regex"
  | .seq _ => "Sequence"
  | .map _ => "Mapping"

end Node

end Schemata
