import MonitoringStack.Json.Reader

namespace MonitoringStack.Json

def isEmbedding (fields : List (String × Json)) : Bool := fields.head?.any (·.1 = embeddedKey)

def onlyText? : List (String × Json) → Option String
  | [(_, .string text)] => some text
  | _ => none

mutual

def expand? (read : String → Option Json) : Json → Option Json
  | .array items => (expandItems? read items).map .array
  | .object fields =>
    if isEmbedding fields then (onlyText? fields).bind read
    else (expandFields? read fields).map .object
  | j => some j

def expandItems? (read : String → Option Json) : List Json → Option (List Json)
  | [] => some []
  | j :: rest => do
    let j ← expand? read j
    let rest ← expandItems? read rest
    return j :: rest

def expandFields? (read : String → Option Json) :
    List (String × Json) → Option (List (String × Json))
  | [] => some []
  | (key, j) :: rest => do
    let j ← expand? read j
    let rest ← expandFields? read rest
    return (key, j) :: rest

end

/-- The sorted tree in a text. Embedded texts are shorter than the text they stand in, which bounds
how deep they go. -/
def ofTextWithin? : Nat → String → Option Json
  | 0, _ => none
  | bound + 1, text =>
    ((Form.any.read text).toOption.bind (expand? (ofTextWithin? bound))).map canonical

def ofText? (text : String) : Option Json := ofTextWithin? (text.length + 1) text

def settle? (j : Json) : Option Json := (expand? ofText? j).map canonical

end MonitoringStack.Json
