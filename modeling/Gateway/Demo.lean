import Gateway.Application

/-!
# The demonstration

A small application: a start page, a greeting, an echo, and a cache of values that is read and
written over HTTP.
-/

namespace Gateway.Demo

open TurnProgram

def bannerLine : String := "uwsgi-hello: Rust handlers on uWSGI"

/-- The signal that each worker listens to. -/
def workerSignal : UInt8 := 17

/-- Answers with a text. An empty text is a status without a body. -/
def respond (s : Status) (text : String) : TurnProgram Unit := do
  setHeader HeaderName.contentType plainText
  match ← writeHeader s with
  | .error _ => return ()
  | .ok () =>
    if text.isEmpty then
      return ()
    else
      let _ ← writeBody (Utf8.ofString text)
      return ()

/-- The start page. Other paths that come here lead nowhere. -/
def index : Handler := fun r =>
  if r.path = "/" then respond Status.ok (bannerLine ++ "\n") else notFound

/-- Who is greeted: the `name` parameter, or the world. -/
def greeted (r : Request) : String :=
  match r.parameter "name" with
  | none => "World"
  | some name => if name.isEmpty then "World" else name

def greet : Handler := fun r =>
  respond Status.ok ("Hello, " ++ greeted r ++ "!\n")

/-- What is answered when the body of a request cannot be read. -/
def unreadable : TurnProgram Unit :=
  respond Status.badRequest "unreadable request body\n"

/-- Sends the body back, under the same content type if it has one. -/
def echo : Handler := fun r => do
  match ← readAll with
  | .error _ => unreadable
  | .ok body =>
    match r.headers.get? HeaderName.contentType with
    | none => let _ ← writeBody body
    | some contentType =>
      setHeader HeaderName.contentType contentType
      let _ ← writeBody body

/-! ### The cache -/

/-- What the paths of cached values begin with. -/
def cacheMark : List Char := "/cache/".toList

/-- The key that a path names; it is not decoded. -/
def cacheKey (path : String) : String :=
  match List.isPrefixOf? cacheMark path.toList with
  | none => ""
  | some key => String.ofList key

/-- For how long a value is to be kept, in seconds: the `ttl` parameter, or for good. -/
def timeToLive (r : Request) : Nat :=
  ((r.parameter "ttl").bind fun t => Numeral.parse? Numeral.bound64 t.toList).getD 0

def sendValue (v : Bytes) : TurnProgram Unit := do
  setHeader HeaderName.contentType (Utf8.ofString "application/octet-stream")
  let _ ← writeBody v

def cacheRead (key : String) : TurnProgram Unit := do
  match ← service (.cacheGet key) with
  | some v => sendValue v
  | none => respond Status.notFound "not cached\n"

/-- Stores the body of the request. -/
def cacheWrite (key : String) (ttl : Nat) : TurnProgram Unit := do
  match ← readAll with
  | .error _ => unreadable
  | .ok value =>
    if ← service (.cacheSet key value ttl Service.replaceFlags) then
      respond Status.created ""
    else
      respond Status.internalServerError "cache write failed\n"

def cacheRemove (key : String) : TurnProgram Unit := do
  if ← service (.cacheDelete key) then
    respond Status.noContent ""
  else
    respond Status.notFound "not cached\n"

/-- Answers that a cached value knows no such method. -/
def cacheRefuse : TurnProgram Unit := do
  setHeader HeaderName.allow (Utf8.ofString "GET, PUT, POST, DELETE")
  respond Status.methodNotAllowed "method not allowed\n"

/-- A cached value over HTTP: GET reads it, PUT and POST store it, DELETE removes it. -/
def cache (available : Bool) : Handler := fun r =>
  if !available then respond Status.serviceUnavailable "cache unavailable\n"
  else
    let key := cacheKey r.path
    if key.isEmpty then respond Status.badRequest "missing cache key\n"
    else if r.method = Method.get then cacheRead key
    else if r.method = Method.put || r.method = Method.post then cacheWrite key (timeToLive r)
    else if r.method = Method.delete then cacheRemove key
    else cacheRefuse

/-- The cache of the bridge that serves the process. -/
def installedCache : Handler := fun r => do
  cache (← isInstalled) r

/-! ### The application -/

def router : Router Handler :=
  (((Router.empty.handle "/" index).handle "/hello" greet).handle "/echo" echo).handle "/cache/"
    installedCache

/-- In each worker it listens to a signal, where there is a bridge to listen through. -/
def listen : HostProgram Unit := do
  if ← HostProgram.isInstalled then
    let _ ← HostProgram.service (.registerSignal workerSignal "worker" .quiet)
    return ()
  else
    return ()

/-- The demonstration. -/
def application : Application :=
  { postFork := listen, serve := router.serve }

end Gateway.Demo
