/-!
# Protocol versions
-/

namespace Gateway

/-- A version of the protocol. -/
inductive Version where
  | http09
  | http10
  | http11
  | http2
  | http3
  deriving DecidableEq, Inhabited

namespace Version

/-- The name under which a version is reported. -/
def name : Version → String
  | http09 => "HTTP/0.9"
  | http10 => "HTTP/1.0"
  | http11 => "HTTP/1.1"
  | http2 => "HTTP/2.0"
  | http3 => "HTTP/3.0"

/-- The version that a request line names. HTTP/2 has a short and a long name; nothing above it can
come over a request line. -/
def ofProtocol? (s : String) : Option Version :=
  if s = "HTTP/0.9" then some http09
  else if s = "HTTP/1.0" then some http10
  else if s = "HTTP/1.1" then some http11
  else if s = "HTTP/2" || s = "HTTP/2.0" then some http2
  else none

/-- The protocol that a status line announces: responses are written in HTTP/1.0 to the two oldest
versions, and in HTTP/1.1 otherwise. -/
def wireName : Version → String
  | http09 | http10 => "HTTP/1.0"
  | http11 | http2 | http3 => "HTTP/1.1"

end Version

end Gateway
