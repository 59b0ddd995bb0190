namespace MonitoringStack.Http.MediaType

def isTokenChar (c : Char) : Bool :=
  c.isAlphanum || c ∈ "!#$%&'*+-.^_|~".toList || c.toNat = 96

def lower (cs : List Char) : List Char := cs.map Char.toLower

/-- Parameters of a media type, each after a semicolon: `name=value` or `name="value"`. After the
last semicolon there need not be one. -/
def areParameters : Nat → List Char → Bool
  | 0, _ => false
  | fuel + 1, cs =>
    let cs := cs.dropWhile (· = ' ')
    let name := cs.takeWhile isTokenChar
    match cs.drop name.length with
    | [] => name.isEmpty
    | '=' :: '"' :: _ :: rest =>
      match (rest.dropWhile (· ≠ '"')).tail?.map (·.dropWhile (· = ' ')) with
      | some [] => !name.isEmpty
      | some (';' :: rest) => !name.isEmpty && areParameters fuel rest
      | _ => false
    | '=' :: rest =>
      let value := rest.takeWhile isTokenChar
      match rest.drop value.length with
      | [] => !name.isEmpty
      | ';' :: rest => !name.isEmpty && !value.isEmpty && areParameters fuel rest
      | _ => false
    | _ => false

/-- A subtype and its suffix, which starts at the last plus sign that is not the first
character. -/
def splitSuffix (subtype : List Char) : List Char × Option (List Char) :=
  let suffix := (subtype.reverse.takeWhile (· ≠ '+')).reverse
  let base := subtype.take (subtype.length - suffix.length - 1)
  if base.isEmpty then (subtype, none) else (base, some suffix)

/-- Whether a media type is JSON: `application/json`, or a type of `application` that ends in
`+json`. Nothing but printable ASCII may stand in it. -/
def isJson (mediaType : String) : Bool :=
  let cs := mediaType.toList
  let type := cs.takeWhile isTokenChar
  match cs.drop type.length with
  | '/' :: rest =>
    let subtype := rest.takeWhile isTokenChar
    let (base, suffix) := splitSuffix subtype
    cs.all (fun c => 0x20 ≤ c.toNat && c.toNat < 0x7F) && lower type = "application".toList &&
      (lower base = "json".toList || suffix.any (lower · = "json".toList)) &&
      match rest.drop subtype.length with
      | [] => true
      | ';' :: rest => areParameters cs.length rest
      | _ => false
  | _ => false

end MonitoringStack.Http.MediaType
