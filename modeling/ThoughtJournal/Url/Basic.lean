import ThoughtJournal.Text.Percent

/-! # Addresses

An address in its normal form: the scheme in lower case, no standard port, no dots among the parts of
the path, and characters that cannot stand in a part as their bytes in percent notation.
-/

namespace ThoughtJournal

/-- An address in its normal form. -/
structure Url where
  scheme : Text
  /-- The user and the password, if any, in percent notation. -/
  user : Text
  password : Option Text
  /-- The host, which is empty where there is room for one but none is named. -/
  host : Option Text
  port : Option Nat
  path : Text
  query : Option Text
  fragment : Option Text
deriving DecidableEq, Repr

namespace Url

/-- Why a text is no address. -/
inductive Fault where
  /-- There is no scheme. -/
  | relative
  /-- There is no host. -/
  | emptyHost
  /-- The port is not a number of 16 bits. -/
  | invalidPort
  /-- The host ends in a number but is no address of four bytes. -/
  | invalidFourBytes
  /-- The host is in brackets but is no address of eight words. -/
  | invalidEightWords
  /-- The host has a label that is no name. -/
  | invalidName
  /-- The host has a character that hosts do not have. -/
  | invalidCharacter
deriving DecidableEq, Repr

def Fault.message : Fault → Text
  | .relative => "relative URL without a base".toList
  | .emptyHost => "empty host".toList
  | .invalidPort => "invalid port number".toList
  | .invalidFourBytes => "invalid IPv4 address".toList
  | .invalidEightWords => "invalid IPv6 address".toList
  | .invalidName => "invalid international domain name".toList
  | .invalidCharacter => "invalid domain character".toList

/-! ## Schemes -/

/-- The schemes of addresses with a host, and their standard ports. -/
def standardPorts : List (Text × Nat) := [
  ("http".toList, 80), ("https".toList, 443), ("ws".toList, 80), ("wss".toList, 443),
  ("ftp".toList, 21)]

def standardPort? (scheme : Text) : Option Nat := standardPorts.lookup scheme

def fileScheme : Text := "file".toList

/-- Whether addresses of a scheme are read by the rules of the web. -/
def isSpecial (scheme : Text) : Bool := (standardPort? scheme).isSome || scheme = fileScheme

/-- Whether requests can be sent to addresses of a scheme. -/
def isWeb (scheme : Text) : Bool := scheme = "http".toList || scheme = "https".toList

/-- Whether an address names a host. -/
def hasHost (url : Url) : Bool :=
  match url.host with
  | some host => !host.isEmpty
  | none => false

/-! ## Writing -/

def userText (url : Url) : Text :=
  match url.password with
  | some password => url.user ++ [':'] ++ password ++ ['@']
  | none => if url.user.isEmpty then [] else url.user ++ ['@']

/-- An optional part of an address with the character before it. -/
def partText (mark : Char) : Option Text → Text
  | some part => mark :: part
  | none => []

/-- The part of an address between the scheme and the path. -/
def authorityText (url : Url) : Text :=
  match url.host with
  | some host =>
      "//".toList ++ url.userText ++ host ++ partText ':' (url.port.map Text.ofNat)
  | none => if "//".toList.isPrefixOf url.path then "/.".toList else []

/-- The text of an address. -/
def text (url : Url) : Text :=
  url.scheme ++ [':'] ++ url.authorityText ++ url.path ++ partText '?' url.query ++
    partText '#' url.fragment

/-- Whether a text in percent notation stands for a text. -/
def isReadable (text : Text) : Bool := (Utf8.malformed? (Percent.decode text)).isNone

/-- An address as it is shown: without the user and the password, if they can be read. -/
def shown (url : Url) : Url :=
  let named := !url.user.isEmpty || url.password.any isReadable
  if isReadable url.user && named then { url with user := [], password := none } else url

/-- An address with more fields in its query. An empty query is none. -/
def withFields (url : Url) (fields : List (Text × Text)) : Url :=
  let added := Percent.ofFields fields
  let query := match url.query with
    | none => added
    | some query =>
        if query.isEmpty || fields.isEmpty then query ++ added else query ++ ['&'] ++ added
  { url with query := if query.isEmpty then none else some query }

end Url

end ThoughtJournal
