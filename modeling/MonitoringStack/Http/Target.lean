namespace MonitoringStack.Http

structure Target where
  path : String
  query : String
deriving DecidableEq

namespace Target

def isPathChar (c : Char) : Bool :=
  let n := c.toNat
  n = 0x21 || n = 0x22 || (0x24 ≤ n && n ≤ 0x3B) || n = 0x3D || (0x40 ≤ n && n ≤ 0x5F) ||
    (0x61 ≤ n && n ≤ 0x7E) || 0x80 ≤ n

def isQueryChar (c : Char) : Bool :=
  let n := c.toNat
  n = 0x21 || (0x24 ≤ n && n ≤ 0x3B) || n = 0x3D || (0x3F ≤ n && n ≤ 0x7E) || 0x80 ≤ n

/-- The path and the query of a text that starts with either; what follows a `#` is dropped. -/
def ofPath? (cs : List Char) : Option Target :=
  let cs := cs.takeWhile (· ≠ '#')
  let path := cs.takeWhile (· ≠ '?')
  let query := (cs.dropWhile (· ≠ '?')).drop 1
  if path.all isPathChar && query.all isQueryChar then
    some ⟨String.ofList path, String.ofList query⟩
  else none

section Authority

def isHostChar (c : Char) : Bool := c.isAlphanum || c ∈ "-._~!$&'()*+,;=".toList

/-- How far an authority has been read: the colons and escapes of its present part, and whether
its one pair of brackets has been opened and closed. -/
structure Authority where
  colons : Nat := 0
  escaped : Bool := false
  opened : Bool := false
  closed : Bool := false

namespace Authority

def step? (a : Authority) (c : Char) : Option Authority :=
  match c with
  | ':' => if a.colons < 8 then some { a with colons := a.colons + 1 } else none
  | '%' => some { a with escaped := true }
  | '@' => some { a with colons := 0, escaped := false }
  | '[' => if a.opened || a.escaped then none else some { a with opened := true }
  | ']' =>
    if a.opened && !a.closed then some { a with closed := true, colons := 0, escaped := false }
    else none
  | c => if isHostChar c then some a else none

def isDone (a : Authority) : Bool := a.opened = a.closed && a.colons ≤ 1 && !a.escaped

end Authority

def isAuthority (cs : List Char) : Bool :=
  (cs.foldlM Authority.step? {}).any Authority.isDone && cs.getLast? ≠ some '@'

def afterScheme? (cs : List Char) : Option (List Char) :=
  let scheme := cs.takeWhile fun c => c.isAlphanum || c ∈ ['+', '-', '.', '~']
  match cs.drop scheme.length with
  | ':' :: '/' :: '/' :: rest => if scheme.length ≤ 64 then some rest else none
  | _ => none

end Authority

def maxSize : Nat := 65534

def isTooLong (text : String) : Bool := maxSize < text.utf8ByteSize

/-- A target is a path, a whole address, or a host by itself, which has no path. -/
def read? (text : String) : Option Target :=
  if isTooLong text then none else
  match text.toList with
  | [] => none
  | ['*'] => some ⟨"*", ""⟩
  | '/' :: rest => ofPath? ('/' :: rest)
  | cs =>
    match afterScheme? cs with
    | none => if isAuthority cs then some ⟨"", ""⟩ else none
    | some cs =>
      let host := cs.takeWhile (· ∉ ['/', '?', '#'])
      if host.isEmpty || !isAuthority host then none
      else (ofPath? (cs.drop host.length)).map fun t =>
        if t.path = "" then { t with path := "/" } else t

end Target

structure Response where
  status : Nat
  contentType : Option String := none
  body : String := ""
deriving DecidableEq

namespace Response

def notFound : Response := { status := 404 }

def methodNotAllowed : Response := { status := 405 }

def plainText : String := "text/plain; charset=utf-8"

def forGet (method : String) (answer : Response) : Response :=
  if method = "GET" then answer
  else if method = "HEAD" then { answer with body := "" }
  else methodNotAllowed

def healthy : Response := { status := 200, contentType := some plainText, body := "ok" }

end Response

end MonitoringStack.Http
