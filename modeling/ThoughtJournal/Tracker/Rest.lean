import ThoughtJournal.Config.Basic
import ThoughtJournal.Sync.Report
import ThoughtJournal.Text.Utf8
import ThoughtJournal.Tracker.Issue
import ThoughtJournal.Url.Reader

/-! # A tracker behind a REST interface

One request asks for the index and one for every body. A request is sent only if its address and its
headers are well-formed; an answer counts only if its status tells success and its body is JSON. The
index lists pull requests too, which are no journals.
-/

namespace ThoughtJournal.Tracker

/-- A request for a document. -/
structure Request where
  url : Url
  headers : List (Text × Text)
deriving DecidableEq, Repr

/-- What becomes of a request that is sent. -/
inductive Reply where
  /-- There is no answer, for a chain of causes. -/
  | unreachable (causes : List Text)
  /-- An answer with a status and a body. -/
  | answered (status : Nat) (body : Bytes)
deriving DecidableEq, Repr

/-- What becomes of every request. -/
abbrev Network := Request → Reply

def statusWords : List (Nat × String) := [
  (100, "Continue"), (101, "Switching Protocols"), (102, "Processing"), (200, "OK"),
  (201, "Created"), (202, "Accepted"), (203, "Non Authoritative Information"), (204, "No Content"),
  (205, "Reset Content"), (206, "Partial Content"), (207, "Multi-Status"),
  (208, "Already Reported"), (226, "IM Used"), (300, "Multiple Choices"),
  (301, "Moved Permanently"), (302, "Found"), (303, "See Other"), (304, "Not Modified"),
  (305, "Use Proxy"), (307, "Temporary Redirect"), (308, "Permanent Redirect"),
  (400, "Bad Request"), (401, "Unauthorized"), (402, "Payment Required"), (403, "Forbidden"),
  (404, "Not Found"), (405, "Method Not Allowed"), (406, "Not Acceptable"),
  (407, "Proxy Authentication Required"), (408, "Request Timeout"), (409, "Conflict"),
  (410, "Gone"), (411, "Length Required"), (412, "Precondition Failed"),
  (413, "Payload Too Large"), (414, "URI Too Long"), (415, "Unsupported Media Type"),
  (416, "Range Not Satisfiable"), (417, "Expectation Failed"), (418, "I'm a teapot"),
  (421, "Misdirected Request"), (422, "Unprocessable Entity"), (423, "Locked"),
  (424, "Failed Dependency"), (426, "Upgrade Required"), (428, "Precondition Required"),
  (429, "Too Many Requests"), (431, "Request Header Fields Too Large"),
  (451, "Unavailable For Legal Reasons"), (500, "Internal Server Error"),
  (501, "Not Implemented"), (502, "Bad Gateway"), (503, "Service Unavailable"),
  (504, "Gateway Timeout"), (505, "HTTP Version Not Supported"),
  (506, "Variant Also Negotiates"), (507, "Insufficient Storage"), (508, "Loop Detected"),
  (510, "Not Extended"), (511, "Network Authentication Required")]

def statusText (status : Nat) : Text :=
  Text.ofNat status ++ [' '] ++
    ((statusWords.lookup status).getD "<unknown status code>").toList

/-- The REST interface of a tracker: where it is, which journals it is asked for, and the token that
opens it. -/
structure Rest where
  url : Text
  repository : Text
  label : Text
  limit : Nat
  token : Option Text
deriving DecidableEq, Repr

namespace Rest

/-- The name that requests give for the program that sends them. -/
def agent : Text := "second-brain/0.3.0".toList

/-- The interface that a configuration names, asked for a repository. A token without a visible
character is none. -/
def ofConfig (config : Config) (repository : Text) (token : Option Text) : Rest where
  url := Text.dropEndWhile (· == '/') config.rest.url
  repository := repository
  label := config.journal.label
  limit := config.journal.limit
  token := token.filter fun token => !Text.isAllBlank token

def describe (rest : Rest) : Text := "api:".toList ++ rest.repository

def hasToken (rest : Rest) : Bool := rest.token.isSome

def headers (rest : Rest) : List (Text × Text) :=
  [("user-agent".toList, agent), ("accept".toList, "application/vnd.github+json".toList),
    ("x-github-api-version".toList, "2022-11-28".toList)] ++
    match rest.token with
    | some token => [("authorization".toList, "Bearer ".toList ++ token)]
    | none => []

/-- Whether a character can stand in the value of a header. -/
def isHeaderChar (c : Char) : Bool := c == '\t' || (0x20 ≤ c.toNat && c.toNat != 0x7F)

/-- Why no request can be sent. -/
inductive Unsent where
  /-- The address cannot be read. -/
  | address (fault : Url.Fault)
  /-- The address is not one of the web. -/
  | scheme (url : Url)
  /-- A header has a character that headers do not have. -/
  | header
  /-- The host has a character that requests do not have. -/
  | host (url : Url)
deriving DecidableEq, Repr

def about (task : String) (url : Url) : Text :=
  task.toList ++ " for url (".toList ++ url.shown.text ++ [')']

/-- The chain of causes that tells why no request can be sent. -/
def Unsent.causes : Unsent → List Text
  | .address fault => ["builder error".toList, fault.message]
  | .scheme url => [about "builder error" url, "URL scheme is not allowed".toList]
  | .header => ["builder error".toList, "failed to parse header value".toList]
  | .host url => [about "builder error" url, "Parsed Url is not a valid Uri".toList]

def isUnsentHostChar (c : Char) : Bool := ['"', '\x60', '\x7b', '\x7d'].elem c

/-- The request for an address with the fields of a query, or why there is none. -/
def request (rest : Rest) (address : Text) (fields : List (Text × Text)) :
    Except Unsent Request :=
  match Url.parse address with
  | .error fault => .error (.address fault)
  | .ok url =>
      let asked := url.withFields fields
      if !url.hasHost then .error (.scheme url)
      else if !rest.headers.all fun header => header.2.all isHeaderChar then .error .header
      else if !Url.isWeb url.scheme then .error (.scheme asked)
      else if url.host.any fun host => host.any isUnsentHostChar then .error (.host asked)
      else .ok ⟨asked, rest.headers⟩

/-- The failure of a request that is not answered. -/
def unanswered (address : Text) (causes : List Text) : Failure :=
  ⟨"GET ".toList ++ address ++ " failed".toList, causes⟩

/-- The failure of a request that is answered without success. -/
def refused (address : Text) (status : Nat) (body : Bytes) : Failure :=
  Failure.of ("GitHub API error ".toList ++ statusText status ++ " for ".toList ++ address ++
    [':', ' '] ++ Text.trim (Utf8.decodeLossy body))

/-- Sends a request and gives the body of a successful answer. -/
def get (rest : Rest) (network : Network) (address : Text) (fields : List (Text × Text)) :
    Except Failure Bytes :=
  match rest.request address fields with
  | .error unsent => .error (unanswered address unsent.causes)
  | .ok request =>
      match network request with
      | .unreachable causes =>
          .error (unanswered address (about "error sending request" request.url :: causes))
      | .answered status body =>
          if 200 ≤ status && status < 300 then .ok body else .error (refused address status body)

def indexAddress (rest : Rest) : Text :=
  rest.url ++ "/repos/".toList ++ rest.repository ++ "/issues".toList

def issueAddress (rest : Rest) (id : Int) : Text := rest.indexAddress ++ ['/'] ++ Text.ofInt id

def indexFields (rest : Rest) : List (Text × Text) :=
  [("labels".toList, rest.label), ("state".toList, "all".toList),
    ("per_page".toList, Text.ofNat rest.limit), ("sort".toList, "created".toList),
    ("direction".toList, "desc".toList)]

def journalsOf (body : Bytes) : Except Failure (List Journal) :=
  match (Utf8.decode? body).bind Issue.readList? with
  | some issues => .ok (Issue.journals issues)
  | none => .error (Failure.of "Failed to decode issue list".toList)

/-- The body of the issue that the body of an answer describes. -/
def bodyOf (id : Int) (body : Bytes) : Except Failure Text :=
  match (Utf8.decode? body).bind Issue.read? with
  | some issue => .ok (issue.body.getD [])
  | none => .error (Failure.of ("Failed to decode issue #".toList ++ Text.ofInt id))

def index (rest : Rest) (network : Network) : Except Failure (List Journal) :=
  match rest.get network rest.indexAddress rest.indexFields with
  | .ok body => journalsOf body
  | .error failure => .error failure

def body (rest : Rest) (network : Network) (id : Int) : Except Failure Text :=
  match rest.get network (rest.issueAddress id) [] with
  | .ok body => bodyOf id body
  | .error failure => .error failure

/-- The interface as the source of a sync. -/
def source (rest : Rest) (network : Network) : Sync.Source where
  name := rest.describe
  index := rest.index network
  body _ id := rest.body network id

end Rest

end ThoughtJournal.Tracker
