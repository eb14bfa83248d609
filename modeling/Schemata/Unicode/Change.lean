/-!
# Changes of properties

The characters that have a property in version 17 of the Unicode standard and not in version 16, which the tables are of, or
have it in version 16 only. A row holds the name of a property or of a general category and its ranges: for each range the
distance from the end of the one before and the distance from its first character to its last, in hexadecimal.
-/

namespace Schemata.Unicode

/-- The characters that a property gained or lost, by the name of the property. -/
def changeTable : List (String × List String) := [
  ("alphabetic", [
    "88f 0 3cc 0 7f 0 9af1 1 2 0 1 0 1c 0 614e 19 56b 2 32 1 c64 7 248 2b 50c4 18 2 18 11e 4 1801 7 509 15 61 72",
    "58cd 1e 1 15 8 1 d03a 5 1762 b 5502 10c9"]),
  ("lowercase", [
    "295 0 a539 0 21 0 c6c9 18"]),
  ("uppercase", [
    "a7ce 0 3 0 1 0 c6cb 18"]),
  ("cased", [
    "295 0 a538 1 2 0 1 0 1c 0 c6ae 18 2 18"]),
  ("caseignorable", [
    "1acf e 2 b 8d05 0 66d3 0 34 1 c64 0 1 2 1 0 272 0 5218 1 76ef 0 2 0 7 1 5 0 9 0"]),
  ("graphemeextend", [
    "1acf e 2 b f40e 1 c64 0 1 2 1 0 cb7c 0 2 0 7 1 5 0"]),
  ("cn", [
    "88f 0 3cc 0 7f 0 df2 e 2 b 5d5 0 ad4 0 7c37 1 2 0 1 0 1c 0 53d1 f 1bd 1 36 6 b71 19 56b 2 8 8 21 1 c64 7 248 2b",
    "4 9 50b6 18 2 18 11e 4 1801 7 509 15 61 72 3f07 2 1bd 16 f 10 17cf 1e 1 15 8 1 fd8 0 9e 3 155 8 17b 3 32 0 3 0",
    "39 0 4 0 1c 0 4 0 10a 0 bb3f 5 1762 b 5502 10c9"]),
  ("nd", [
    "11de0 9"]),
  ("nl", [
    "16ff4 2"]),
  ("lm", [
    "a7f1 0 66d3 0 f13 0 5218 1 770b 0"])]

end Schemata.Unicode
