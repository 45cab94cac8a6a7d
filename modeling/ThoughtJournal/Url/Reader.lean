import ThoughtJournal.Url.Host

/-! # Reading addresses

The address that a text denotes. Line breaks and tabs are passed over, and so are blanks at the ends.
What follows the scheme is read by the rules of the web, of files, or of all other schemes; the parts
of a path are resolved on the way.
-/

namespace ThoughtJournal.Url

/-! ## Characters that are kept -/

def isFragmentChar (c : Char) : Bool :=
  isPrinted c && !([' ', '"', '<', '>', '\x60'].elem c)

def isQueryChar (c : Char) : Bool := isPrinted c && !([' ', '"', '#', '<', '>'].elem c)

/-- A character that is kept in a query by the rules of the web. -/
def isWebQueryChar (c : Char) : Bool := isQueryChar c && c != '\''

def isPathChar (c : Char) : Bool :=
  isFragmentChar c && !(['#', '?', '\x7b', '\x7d'].elem c)

/-- A character that is kept in the name of a user. -/
def isUserChar (c : Char) : Bool :=
  isPathChar c && !(['/', ':', ';', '=', '@', '[', '\\', ']', '^', '|'].elem c)

/-! ## Schemes -/

/-- A character that is passed over wherever it stands. -/
def isPassedOver (c : Char) : Bool := c == '\t' || c == '\n' || c == '\r'

def isControl (c : Char) : Bool := decide (c.toNat ≤ 0x20)

/-- The characters of a text that count in an address. -/
def clean (text : Text) : Text :=
  (Text.dropEndWhile isControl (text.dropWhile isControl)).filter fun c => !isPassedOver c

/-- The scheme before the first colon, if it begins with a letter and goes on with letters, digits,
plus signs, dashes and dots; and what follows the colon. -/
def splitScheme? (text : Text) : Option (Text × Text) :=
  let scheme := text.takeWhile fun c => c.isAlphanum || ['+', '-', '.'].elem c
  match scheme, text.drop scheme.length with
  | first :: _, ':' :: rest => if first.isAlpha then some (scheme.map Char.toLower, rest) else none
  | _, _ => none

/-! ## Paths -/

/-- A slash; by the rules of the web of either direction. -/
def isSlash (special : Bool) (c : Char) : Bool := c == '/' || (special && c == '\\')

/-- The dots of a part of a path that has nothing else: none, one or two. A dot can be written in
percent notation. -/
def dotsOf (part : Text) : Option Nat :=
  let rec count : Text → Option Nat
    | [] => some 0
    | '.' :: rest => (count rest).map (· + 1)
    | '%' :: '2' :: 'e' :: rest | '%' :: '2' :: 'E' :: rest => (count rest).map (· + 1)
    | _ => none
  (count part).filter (· ≤ 2)

/-- The parts of a path without those that lead nowhere; a part with two dots takes away the part
before it. The parts so far are given from the last one on. -/
def resolveDots (reversed : List Text) : List Text → List Text
  | [] => reversed.reverse
  | part :: rest =>
      let resolved (kept : List Text) : List Text := if rest.isEmpty then [] :: kept else kept
      match dotsOf part with
      | some 2 => resolveDots (resolved (reversed.drop 1)) rest
      | some 1 => resolveDots (resolved reversed) rest
      | _ => resolveDots (part :: reversed) rest

/-- A path in its normal form. It begins with a slash. -/
def readPath (special : Bool) (text : Text) : Text :=
  let slashed := text.map fun c => if isSlash special c then '/' else c
  let relative := match slashed with
    | '/' :: rest => rest
    | rest => rest
  '/' :: Text.join ['/']
    ((resolveDots [] (Text.splitOn '/' relative)).map (Percent.encode isPathChar))

/-! ## Users, hosts and ports -/

/-- The text before the last of a character, if there is any, and the text after it. -/
def splitLast? (mark : Char) (text : Text) : Option (Text × Text) :=
  let after := (text.reverse.takeWhile (· != mark)).reverse
  if after.length < text.length then
    some ((text.take (text.length - after.length)).dropLast, after)
  else none

/-- The text of a host before the colon of a port, and the text from there on. A colon in brackets is
none. -/
def splitPort (inside : Bool) : Text → Text × Text
  | [] => ([], [])
  | c :: rest =>
      if c == ':' && !inside then ([], c :: rest)
      else
        let parts := splitPort (c == '[' || (inside && c != ']')) rest
        (c :: parts.1, parts.2)

def readPort (digits : Text) : Except Fault (Option Nat) :=
  if digits.isEmpty then .ok none
  else
    match digits.mapM Text.digit? with
    | some digits =>
        let port := Text.valueOf 10 digits
        if port ≤ 65535 then .ok (some port) else .error .invalidPort
    | none => .error .invalidPort

def ofHost (scheme : Text) (host : Option Text) : Url where
  scheme := scheme
  user := []
  password := none
  host := host
  port := none
  path := []
  query := none
  fragment := none

/-- An address with the user and the password that a text names. An empty password is none. -/
def withUser (url : Url) (text : Text) : Url :=
  let encode := Percent.encode isUserChar
  let password := (text.dropWhile (· != ':')).drop 1
  { url with
    user := encode (text.takeWhile (· != ':'))
    password := if password.isEmpty then none else some (encode password) }

/-- The host and the port of a text. There is no port without a host. -/
def readHostPort (scheme text : Text) : Except Fault Url := do
  let parts := splitPort false text
  if parts.1.isEmpty && !parts.2.isEmpty then .error .emptyHost
  else
    let host ← if isSpecial scheme then readWebHost parts.1 else readOtherHost parts.1
    let port ← readPort (parts.2.drop 1)
    let port := if port.isSome && port = standardPort? scheme then none else port
    return { ofHost scheme (some host) with port }

/-- The user, the host and the port of a text. There is no user without a host. -/
def readAuthority (scheme text : Text) : Except Fault Url :=
  match splitLast? '@' text with
  | none => readHostPort scheme text
  | some (_, []) => .error .emptyHost
  | some (user, host) => (readHostPort scheme host).map fun url => url.withUser user

/-! ## Addresses -/

/-- An address with the path, query and fragment of a text, given how the path is read. -/
def withRest (url : Url) (path : Text → Text) (text : Text) : Url :=
  let before := text.takeWhile (· != '#')
  let encodeQuery := Percent.encode (if isSpecial url.scheme then isWebQueryChar else isQueryChar)
  let rest (mark : Char) (text : Text) : Option Text :=
    match text.dropWhile (· != mark) with
    | [] => none
    | _ :: rest => some rest
  { url with
    path := path (before.takeWhile (· != '?'))
    query := (rest '?' before).map encodeQuery
    fragment := (rest '#' text).map (Percent.encode isFragmentChar) }

/-- The part of a text before the path, and the text from there on. -/
def splitAuthority (special : Bool) (text : Text) : Text × Text :=
  let ends (c : Char) : Bool := isSlash special c || c == '?' || c == '#'
  (text.takeWhile fun c => !ends c, text.dropWhile fun c => !ends c)

/-- A path that is empty if its text is. -/
def readOptionalPath (text : Text) : Text := if text.isEmpty then [] else readPath false text

/-- The address of a file after its scheme. The host of this machine has no name. -/
def readFile (text : Text) : Except Fault Url := do
  match text with
  | first :: second :: rest =>
      if isSlash true first && isSlash true second then
        let parts := splitAuthority true rest
        let host ← if parts.1.isEmpty then pure [] else readWebHost parts.1
        let host := if host = "localhost".toList then [] else host
        return (ofHost fileScheme (some host)).withRest (readPath true) parts.2
      else return (ofHost fileScheme (some [])).withRest (readPath true) text
  | _ => return (ofHost fileScheme (some [])).withRest (readPath true) text

/-- An address of a scheme without rules of its own, after the scheme. -/
def readOther (scheme : Text) : Text → Except Fault Url
  | '/' :: '/' :: rest => do
      let parts := splitAuthority false rest
      let url ← readAuthority scheme parts.1
      return url.withRest readOptionalPath parts.2
  | '/' :: rest => .ok ((ofHost scheme none).withRest (readPath false) ('/' :: rest))
  | text => .ok ((ofHost scheme none).withRest (Percent.encode isPrinted) text)

/-- An address by the rules of the web, after its scheme and the slashes that follow. -/
def readWeb (scheme text : Text) : Except Fault Url := do
  let parts := splitAuthority true text
  let url ← readAuthority scheme parts.1
  return url.withRest (readPath true) parts.2

/-- The address that a text denotes. -/
def parse (text : Text) : Except Fault Url :=
  match splitScheme? (clean text) with
  | none => .error .relative
  | some (scheme, rest) =>
      if scheme = fileScheme then readFile rest
      else if isSpecial scheme then readWeb scheme (rest.dropWhile (isSlash true))
      else readOther scheme rest

end ThoughtJournal.Url
