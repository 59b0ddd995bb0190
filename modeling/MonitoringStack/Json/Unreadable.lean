import MonitoringStack.Json.Printer
import MonitoringStack.Text.Quoted

namespace MonitoringStack.Json

inductive Part where
  | value
  | string
  | list
  | object
deriving DecidableEq

inductive Defect where
  | cutOff (part : Part)
  | noValue
  | noWord
  | badNumber
  | outOfRange
  | badEscape
  | rawControl
  -- Half of a character is escaped, but not the other one.
  | loneHalf
  -- The first half of a character is escaped, and no escape follows.
  | openHalf
  | bareKey
  | noColon
  | noItemBreak
  | noFieldBreak
  | trailingComma
  | trailingText
  | tooDeep
  | unfit (reason : String)
deriving DecidableEq

/-- Why a text holds no value of a form, and where that shows. -/
structure Unreadable where
  defect : Defect
  line : Nat
  column : Nat
deriving DecidableEq

def Part.text : Part → String
  | .value => "a value"
  | .string => "a string"
  | .list => "a list"
  | .object => "an object"

namespace Defect

def isMalformed : Defect → Bool
  | .unfit _ => false
  | _ => true

def text : Defect → String
  | .cutOff part => "EOF while parsing " ++ part.text
  | .noValue => "expected value"
  | .noWord => "expected ident"
  | .badNumber => "invalid number"
  | .outOfRange => "number out of range"
  | .badEscape => "invalid escape"
  | .rawControl => "control character (\\u0000-\\u001F) found while parsing a string"
  | .loneHalf => "lone leading surrogate in hex escape"
  | .openHalf => "unexpected end of hex escape"
  | .bareKey => "key must be a string"
  | .noColon => "expected `:`"
  | .noItemBreak => "expected `,` or `]`"
  | .noFieldBreak => "expected `,` or `\x7d`"
  | .trailingComma => "trailing comma"
  | .trailingText => "trailing characters"
  | .tooDeep => "recursion limit exceeded"
  | .unfit reason => reason

end Defect

def Unreadable.text (e : Unreadable) : String :=
  e.defect.text ++ " at line " ++ toString e.line ++ " column " ++ toString e.column

def size (cs : List Char) : Nat := cs.foldl (fun n c => n + c.utf8Size) 0

structure Stop where
  defect : Defect
  -- The bytes that were left to read.
  left : Nat
  -- The embedded text that was being read, if it was one.
  inside : Option (List Char) := none

namespace Stop

def before {α : Type} (defect : Defect) (cs : List Char) : Except Stop α :=
  .error { defect, left := size cs }

def past {α : Type} (defect : Defect) (cs : List Char) : Except Stop α :=
  .error { defect, left := size cs - 1 }

def locate (line column : Nat) : Nat → List Char → Nat × Nat
  | _, [] => (line, column)
  | n, c :: cs =>
    if n = 0 then (line, column)
    else if c = '\n' then locate (line + 1) 0 (n - 1) cs
    else locate line (column + min n c.utf8Size) (n - c.utf8Size) cs

def toUnreadable (s : Stop) (cs : List Char) : Unreadable :=
  let cs := s.inside.getD cs
  let (line, column) := locate 1 0 (size cs - s.left) cs
  { defect := s.defect, line, column }

/-- A stop inside an embedded text, as the text around it sees it. -/
def embedded (s : Stop) (cs : List Char) : Stop :=
  { s with defect := .unfit s.defect.text, inside := s.inside.getD cs }

end Stop

section Mismatches

def described : Json → String
  | .null => "null"
  | .bool b => "boolean `" ++ toString b ++ "`"
  | .number (.int n) => "integer `" ++ toString n ++ "`"
  | .number (.real x) => "floating point `" ++ Decimal.scientific x ++ "`"
  | .string s => "string " ++ Text.quoted s
  | .array _ => "sequence"
  | .object _ => "map"

def wrongType (j : Json) (expected : String) : String :=
  "invalid type: " ++ j.described ++ ", expected " ++ expected

def wrongValue (j : Json) (expected : String) : String :=
  "invalid value: " ++ j.described ++ ", expected " ++ expected

def inBackticks (s : String) : String := "`" ++ s ++ "`"

def choices (names : List String) : String :=
  match names.map inBackticks with
  | [a] => a
  | [a, b] => a ++ " or " ++ b
  | names => "one of " ++ ", ".intercalate names

def wrongName (name : String) (names : List String) : String :=
  "unknown variant " ++ inBackticks name ++ ", expected " ++ choices names

def missingField (name : String) : String := "missing field " ++ inBackticks name

def duplicateField (name : String) : String := "duplicate field " ++ inBackticks name

def wrongLength (n : Nat) (expected : String) (fields : Nat) : String :=
  "invalid length " ++ toString n ++ ", expected " ++ expected ++ " with " ++ toString fields ++
    (if fields = 1 then " element" else " elements")

end Mismatches

end MonitoringStack.Json
