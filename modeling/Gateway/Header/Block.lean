import Gateway.Header.Map
import Gateway.Http.Status
import Gateway.Http.Version
import Gateway.Text.Numeral

/-!
# Header blocks

The head of a response as it goes on the wire: the status line, a line for each header value in the
map's order, and an empty line.
-/

namespace Gateway.HeaderBlock

def lineEnd : Bytes := [13, 10]

/-- Protocol, code and phrase. -/
def statusLine (version : Version) (status : Status) : Bytes :=
  Utf8.ofString version.wireName ++ [32] ++ Utf8.encode (Numeral.decimal status.code) ++ [32] ++
    Utf8.ofString status.reason

def headerLine (name : HeaderName) (value : HeaderValue) : Bytes :=
  Utf8.encode name.wireText ++ [58, 32] ++ HeaderValue.sanitize value

/-- The whole head. -/
def render (version : Version) (status : Status) (headers : HeaderMap) : Bytes :=
  statusLine version status ++ lineEnd ++
    (headers.toList.flatMap fun e => headerLine e.1 e.2 ++ lineEnd) ++ lineEnd

end Gateway.HeaderBlock
