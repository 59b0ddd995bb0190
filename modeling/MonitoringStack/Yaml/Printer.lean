import MonitoringStack.Json.Printer

namespace MonitoringStack.Yaml

def reserved : List String :=
  ["null", "true", "false", "y", "n", "yes", "no", "on", "off", ".inf", ".nan"]

def startsPlain : List Char → Bool
  | '.' :: c :: _ => c.isAlpha
  | c :: _ => c.isAlpha
  | [] => false

/-- A colon that ends a word, or a `#` that starts one. -/
def hasMark : List Char → Bool
  | [':'] => true
  | ':' :: ' ' :: _ => true
  | ' ' :: '#' :: _ => true
  | _ :: rest => hasMark rest
  | [] => false

def isClear (c : Char) : Bool := 0x20 ≤ c.toNat && c.toNat < 0x7F

def isPlain (cs : List Char) : Bool :=
  startsPlain cs && !hasMark cs && cs.all isClear && cs.getLast? ≠ some ' ' &&
    String.ofList (cs.map Char.toLower) ∉ reserved

def singleQuoted (cs : List Char) : String :=
  "'" ++ String.ofList (cs.flatMap fun c => if c = '\'' then [c, c] else [c]) ++ "'"

/-- Whether a text of several lines can be shown line by line. -/
def isBlock (lines : List (List Char)) : Bool :=
  lines.head?.any (fun line => line.head?.any (· ≠ ' ')) && lines.getLast? ≠ some [] &&
    lines.all fun line => line.all isClear && line.getLast? ≠ some ' '

def stringLines (s : String) : List String :=
  match (s.splitOn "\n").map String.toList with
  | [line] =>
    if isPlain line then [s]
    else if line.all isClear then [singleQuoted line]
    else [Json.quoted s]
  | lines => if isBlock lines then "|-" :: lines.map String.ofList else [Json.quoted s]

def indented (line : String) : String := if line = "" then "" else "  " ++ line

def scalar (j : Json) : List String :=
  match j with
  | .string s => stringLines s
  | j => [j.text]

def introduced (intro : String) : List String → List String
  | [] => [intro]
  | line :: rest => (intro ++ line) :: rest.map indented

/-- A field whose value has the given lines. The items of a list stand right below the key, what
is in an object further in. -/
def field (key : String) (value : Json) (lines : List String) : List String :=
  match value with
  | .array (_ :: _) => (key ++ ":") :: lines
  | .object (_ :: _) => (key ++ ":") :: lines.map indented
  | _ => introduced (key ++ ": ") lines

mutual

def lines : Json → List String
  | .array [] => ["[]"]
  | .array (j :: rest) => itemLines (j :: rest)
  | .object [] => ["\x7b\x7d"]
  | .object (f :: rest) => fieldLines (f :: rest)
  | j => scalar j

def itemLines : List Json → List String
  | [] => []
  | j :: rest => introduced "- " (lines j) ++ itemLines rest

def fieldLines : List (String × Json) → List String
  | [] => []
  | (key, j) :: rest =>
    field (" ".intercalate (stringLines key)) j (lines j) ++ fieldLines rest

end

def document (j : Json) : String :=
  String.join (("---" :: lines j).map (· ++ "\n"))

end MonitoringStack.Yaml
