import Schemata.Json.Printer
import Schemata.Log.Filter
import Schemata.Log.Options

/-!
# Records of the log

A record says what happened: a message, fields in order, how grave it is, and which part of the program speaks. As a document
(`documentLine`) it is one line, whose members stand in a fixed order and may repeat a key. No clock is read: the time of a
record is left empty. Of the two formats in words only the words are kept (`wordsLine`): their layout, their colors and the place in
the source are left out.
-/

namespace Schemata.Log

/-- Something that happened. -/
structure Record where
  level : Level
  target : String
  message : String
  fields : List (String × Json)

namespace Record

/-- The names of the fields, the message included. -/
def fieldNames (r : Record) : List String :=
  "message" :: r.fields.map Prod.fst

/-- The record passes a filter. -/
def passes (r : Record) (f : Filter) : Bool :=
  f.allows r.level r.target r.fieldNames

/-- The members of an object, in order, each key with the text of its value. -/
def membersText (members : List (String × String)) : String :=
  ",".intercalate (members.map fun (key, text) => Json.quote key ++ ":" ++ text)

/-- An object of these members, in order. -/
def objectText (members : List (String × String)) : String :=
  "\x7b" ++ membersText members ++ "\x7d"

/-- The record as a document on one line. -/
def documentLine (d : Display) (r : Record) : String :=
  let event := ("message", Json.quote r.message) :: r.fields.map fun (key, v) => (key, v.text)
  objectText ([("timestamp", Json.quote ""), ("level", Json.quote r.level.name)]
    ++ (if d.flatten then event else [("fields", objectText event)])
    ++ (if d.target then [("target", Json.quote r.target)] else [])
    ++ (if d.threadIds then [("threadId", Json.quote "ThreadId(1)")] else []))

/-- The record as words on one line. -/
def wordsLine (d : Display) (r : Record) : String :=
  " ".intercalate ([r.level.name] ++ (if d.target then [r.target ++ ":"] else []) ++ [r.message]
    ++ r.fields.map fun (key, v) => key ++ "=" ++ v.text)

/-- The line of a record under the options of the log. -/
def line (o : Options) (r : Record) : String :=
  match o.format with
  | .json => r.documentLine o.display
  | _ => r.wordsLine o.display

end Record

end Schemata.Log
