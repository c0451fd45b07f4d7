import Gateway.Report.Failure
import Gateway.Request.Basic
import Gateway.Text.Quoted

/-!
# Requests from environments

`Request.ofEnvironment` reads a request from its variables. The parts are read in a fixed order,
method, protocol, URI, headers, and the first defect decides what is reported. Header variables that
spell no name or hold no legal value are passed over in silence; only the length of the body has to
be a number. Variables that give more headers than a header map takes are no defect: reading them
panics.
-/

namespace Gateway

/-- A reason why variables describe no request. -/
inductive RequestDefect where
  /-- There is no method, or an empty one. -/
  | noMethod
  | badMethod (text : String)
  /-- No version of the protocol has this name. -/
  | badProtocol (text : String)
  | badUri (defect : UriDefect)
  | badLength (text : String)
  deriving DecidableEq

namespace RequestDefect

def reason : RequestDefect → String
  | noMethod => "missing REQUEST_METHOD"
  | badMethod text => "invalid REQUEST_METHOD " ++ Quoted.quote text
  | badProtocol text => "invalid SERVER_PROTOCOL " ++ Quoted.quote text
  | badUri defect => "invalid request uri: " ++ defect.message
  | badLength text => "invalid CONTENT_LENGTH " ++ Quoted.quote text

def toFault (d : RequestDefect) : Fault := .malformedRequest d.reason

end RequestDefect

/-- Why no request was read from variables. -/
inductive Unread where
  /-- They describe none. -/
  | malformed (d : RequestDefect)
  /-- They give more headers than a map takes, and reading them panics. -/
  | overflow
  deriving DecidableEq

namespace Unread

/-- The panic in which the reading ends. -/
def panic? : Unread → Option Panic
  | malformed _ => none
  | overflow => some (.text HeaderMap.overflowMessage)

def toFailure : Unread → Failure
  | malformed d => .fault d.toFault
  | overflow => .panicked (.text HeaderMap.overflowMessage)

end Unread

namespace Environment

/-! ### The method and the protocol -/

def method (e : Environment) : Except RequestDefect Method :=
  match e.getNonEmpty? "REQUEST_METHOD" with
  | none => .error .noMethod
  | some text =>
    match Method.ofString? text with
    | none => .error (.badMethod text)
    | some m => .ok m

/-- The version of the protocol: 1.1 where nothing is said. -/
def version (e : Environment) : Except RequestDefect Version :=
  match e.getNonEmpty? "SERVER_PROTOCOL" with
  | none => .ok .http11
  | some text =>
    match Version.ofProtocol? text with
    | none => .error (.badProtocol text)
    | some v => .ok v

/-! ### The URI -/

/-- Whether two texts differ at most in the case of ASCII letters. -/
def sameIgnoringCase (a b : String) : Bool :=
  a.toList.map Char.toLower = b.toList.map Char.toLower

/-- Whether the request came over an encrypted connection. -/
def isSecure (e : Environment) : Bool :=
  (match e.get? "HTTPS" with
    | none => false
    | some v => sameIgnoringCase v "on" || v = "1") ||
  (match e.get? "UWSGI_SCHEME" with
    | none => false
    | some v => sameIgnoringCase v "https")

/-- Path and query as text: the raw URI of the request where it is known; otherwise mount point and
path, a slash when both are empty, and the query string. -/
def target (e : Environment) : String :=
  match e.getNonEmpty? "REQUEST_URI" with
  | some raw => raw
  | none =>
    let path := e.getD "SCRIPT_NAME" ++ e.getD "PATH_INFO"
    (if path.isEmpty then "/" else path) ++
      (match e.getNonEmpty? "QUERY_STRING" with
        | none => ""
        | some q => "?" ++ q)

/-- Scheme and host, where the request names a host. -/
def site (e : Environment) : Option (String × String) :=
  (e.getNonEmpty? "HTTP_HOST").map fun host => (if e.isSecure then "https" else "http", host)

def uri (e : Environment) : Except RequestDefect Uri :=
  match Uri.ofParts e.site e.target with
  | .error d => .error (.badUri d)
  | .ok u => .ok u

/-! ### The headers -/

/-- What header variables begin with. -/
def headerMark : List Char := ['H', 'T', 'T', 'P', '_']

/-- A character of a variable's name as it stands in the header's name. -/
def headerChar (c : Char) : Char :=
  if c.toLower = '_' then '-' else c.toLower

/-- The header that a variable stands for, if it stands for one. -/
def headerNameFor? (name : String) : Option HeaderName :=
  if name = "CONTENT_TYPE" then some HeaderName.contentType
  else if name = "CONTENT_LENGTH" then some HeaderName.contentLength
  else
    match List.isPrefixOf? headerMark name.toList with
    | none => none
    | some rest => if rest.isEmpty then none else HeaderName.ofChars? (rest.map headerChar)

/-- The header that a variable gives a request, if it gives one: an empty media type or length
says nothing, and an illegal value is no header. -/
def headerOf? (var : String × String) : Option (HeaderName × HeaderValue) :=
  match headerNameFor? var.1 with
  | none => none
  | some name =>
    if var.2.isEmpty && (name = HeaderName.contentType || name = HeaderName.contentLength) then none
    else (HeaderValue.ofBytes? (Utf8.ofString var.2)).map fun v => (name, v)

/-- The headers that the variables give, in the order of the variables. -/
def givenHeaders (e : Environment) : List (HeaderName × HeaderValue) :=
  e.toList.filterMap headerOf?

def headerMap (e : Environment) : HeaderMap :=
  HeaderMap.ofList e.givenHeaders

/-- The given headers in a map, if it has room for them. -/
def fittedHeaders (e : Environment) : Except Unread HeaderMap :=
  if HeaderMap.overflows e.givenHeaders then .error .overflow else .ok e.headerMap

/-- The headers of the request, provided that a length is a number. -/
def headers (e : Environment) : Except Unread HeaderMap :=
  match e.getNonEmpty? "CONTENT_LENGTH" with
  | none => e.fittedHeaders
  | some text =>
    match Numeral.parse? Numeral.bound64 text.toList with
    | none => .error (.malformed (.badLength text))
    | some _ => e.fittedHeaders

/-! ### The sender -/

/-- The address of the sender, with the port where it is known. -/
def remote (e : Environment) : Option String :=
  (e.getNonEmpty? "REMOTE_ADDR").map fun addr =>
    match e.getNonEmpty? "REMOTE_PORT" with
    | none => addr
    | some port => addr ++ ":" ++ port

end Environment

/-- Reads a request from its variables. -/
def Request.ofEnvironment (e : Environment) : Except Unread Request :=
  match e.method with
  | .error d => .error (.malformed d)
  | .ok method =>
    match e.version with
    | .error d => .error (.malformed d)
    | .ok version =>
      match e.uri with
      | .error d => .error (.malformed d)
      | .ok uri =>
        match e.headers with
        | .error u => .error u
        | .ok headers => .ok ⟨method, uri, version, headers, e.remote, e⟩

end Gateway
