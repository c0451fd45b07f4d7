import Gateway.Proofs.Cache
import Gateway.Proofs.Demo.Expiry
import Gateway.Proofs.Demo.Reply
import Gateway.Proofs.Text.Utf8
import Mathlib.Data.List.Infix
import Mathlib.Logic.Function.Basic

/-!
# The cache over HTTP is a map

Requests to the cache, one after the other, behave like operations on a map from keys to octets: the
`effect` of a request on the map says what is answered, what the map is afterwards, and which calls
reach the cache. After every run the cache holds what the map says and nothing else has changed, and
the next request is answered as its effect says (`cache_refines_map`). Requests, bodies and writers
are arbitrary; the exchanges of the core may be different ones each time a request comes. How long a
value is kept is for the query to say (`Expires`).
-/

namespace Gateway.Demo

open TurnProgram

/-! ### Visits -/

/-- A request under `/cache/`, its body, and a writer that does not fail and has sent nothing yet. -/
structure Visit (ω : Type) [ResponseWriter ω] where
  request : Request
  /-- The key: what comes after `/cache/`. -/
  key : String
  path_eq : request.path = "/cache/" ++ key
  /-- For how long a value is to be kept. -/
  expiry : Nat
  expires : Expires request.uri.query expiry
  body : Body
  /-- The exchanges of the core when the request comes. -/
  exchanges : Table Handle Exchange
  writer : ω
  /-- It does not fail. -/
  reliable : Reliable ω
  headers : HeaderMap
  /-- It has sent nothing yet. -/
  isOpen : reliable.IsOpen writer exchanges headers

/-- What keys are mapped to. -/
abbrev Values := String → Option Bytes

/-- What comes of a request. -/
structure Effect where
  reply : Reply
  /-- What keys are mapped to afterwards. -/
  values : Values
  /-- The calls that reach the cache. -/
  calls : List Event

namespace Visit

variable {ω : Type} [ResponseWriter ω]

def turn (v : Visit ω) (host : Host) : Turn ω :=
  { writer := v.writer
    body := v.body
    host := { host with core := { host.core with exchanges := v.exchanges } } }

def run (v : Visit ω) (host : Host) : Outcome Unit × Turn ω :=
  TurnProgram.run (Demo.cache true v.request) (v.turn host)

/-- The host after requests, one after the other. -/
def runAll (visits : List (Visit ω)) (host : Host) : Host :=
  visits.foldl (fun host v => (v.run host).2.host) host

/-- What comes of a request when keys are mapped to values. -/
def effect (v : Visit ω) (values : Values) : Effect :=
  if v.key = "" then ⟨Reply.text Status.badRequest "missing cache key\n", values, []⟩
  else if v.request.method = Method.get then
    match values v.key with
    | some value => ⟨Reply.octets value, values, [.readLock, .cacheGet, .unlock]⟩
    | none =>
      ⟨Reply.text Status.notFound "not cached\n", values, [.readLock, .cacheGet, .unlock]⟩
  else if v.request.method = Method.put ∨ v.request.method = Method.post then
    match v.body.content? v.exchanges with
    | some value =>
      ⟨Reply.text Status.created "", Function.update values v.key (some value),
        [.writeLock, .cacheSet 0 v.expiry, .unlock]⟩
    | none => ⟨Reply.text Status.badRequest "unreadable request body\n", values, []⟩
  else if v.request.method = Method.delete then
    match values v.key with
    | some _ =>
      ⟨Reply.text Status.noContent "", Function.update values v.key none,
        [.writeLock, .cacheDelete, .unlock]⟩
    | none =>
      ⟨Reply.text Status.notFound "not cached\n", values, [.writeLock, .cacheDelete, .unlock]⟩
  else ⟨Reply.refusal, values, []⟩

/-! ### Keys -/

theorem cacheKey_path (v : Visit ω) : cacheKey v.request.path = v.key := by
  have hrest : List.isPrefixOf? cacheMark ("/cache/" ++ v.key).toList = some v.key.toList := by
    rw [List.isPrefixOf?_eq_some_iff_append_eq, String.toList_append]
    rfl
  rw [v.path_eq, cacheKey, hrest]
  exact String.ofList_toList

/-- A path is never too long. -/
theorem octets_path_le (u : Uri) : Utf8.octets u.path.toList ≤ Target.maxLength := by
  rw [Uri.path]
  split
  · exact u.target.length_le
  · split
    · decide
    · decide

/-- So no key is too long for the cache. -/
theorem length_key_le (v : Visit ω) : (Utf8.ofString v.key).length ≤ Host.maxKey := by
  have hpath := octets_path_le v.request.uri
  have hsplit : v.request.uri.path.toList = "/cache/".toList ++ v.key.toList := by
    rw [← String.toList_append, ← v.path_eq]
    rfl
  rw [hsplit, Utf8.octets_append] at hpath
  rw [Utf8.ofString, Utf8.length_encode]
  -- the path is at most 65534 octets long, and a key may be one longer
  have hle : Target.maxLength ≤ Host.maxKey := by decide
  omega

theorem timeToLive_request (v : Visit ω) : timeToLive v.request = v.expiry :=
  expires_iff.mp v.expires

/-! ### One request -/

/-- The host with other exchanges, with other values in the cache, and with more calls recorded. -/
def hostAfter (host : Host) (es : Table Handle Exchange) (cache : Table Bytes Bytes)
    (calls : List Event) : Host :=
  { host with
    core := { host.core with exchanges := es, cache := cache, events := host.core.events ++ calls } }

/-- A request was answered with a reply; in the core the cache changed, and calls were recorded. -/
def Answered (v : Visit ω) (host : Host) (reply : Reply) (cache : Table Bytes Bytes)
    (calls : List Event) : Prop :=
  ∃ t es, v.run host = (.done (), t) ∧
    v.reliable.HasSent t.writer t.host.core.exchanges reply.status (reply.headers v.headers)
      reply.body ∧
    t.host = hostAfter host es cache calls

variable {v : Visit ω} {host : Host}

/-- Where a request comes down to code that sends a reply, that is the answer. -/
theorem answered_of_sends (hc : host.core.Unplanned) {p : TurnProgram Unit} {reply : Reply}
    (hp : Sends p reply) {cache : Table Bytes Bytes} {calls : List Event} {body : Body}
    {es : Table Handle Exchange} (hes : Core.SameWires v.exchanges es)
    (hrun : v.run host = p.run ⟨v.writer, body, hostAfter host es cache calls⟩) :
    v.Answered host reply cache calls := by
  have hopen := v.reliable.isOpen_of_sameWires v.isOpen hes
  obtain ⟨w, es', hsend, hsent⟩ :=
    hp v.reliable ⟨v.writer, body, hostAfter host es cache calls⟩ v.headers hc hopen
  exact ⟨_, es', hrun.trans hsend, hsent, rfl⟩

/-- A request that does not come as far as the cache leaves it alone. -/
theorem answered_of_untouched (hc : host.core.Unplanned) {p : TurnProgram Unit} {reply : Reply}
    (hp : Sends p reply) (hrun : v.run host = p.run (v.turn host)) :
    v.Answered host reply host.core.cache [] := by
  have hturn : v.turn host = ⟨v.writer, v.body, hostAfter host v.exchanges host.core.cache []⟩ := by
    rw [hostAfter, List.append_nil]
    rfl
  rw [hturn] at hrun
  exact answered_of_sends hc hp (Core.SameWires.refl v.exchanges) hrun

/-- What the handler does with a key that is not empty. -/
theorem run_of_key (host : Host) (hkey : v.key ≠ "") :
    v.run host = TurnProgram.run
      (if v.request.method = Method.get then cacheRead v.key
      else if v.request.method = Method.put ∨ v.request.method = Method.post then
        cacheWrite v.key v.expiry
      else if v.request.method = Method.delete then cacheRemove v.key
      else cacheRefuse) (v.turn host) := by
  have hempty : v.key.isEmpty = false := by
    rw [Bool.eq_false_iff, ne_eq, String.isEmpty_iff]
    exact hkey
  rw [run, cache]
  simp [cacheKey_path, timeToLive_request, hempty]

theorem answered_of_no_key (hc : host.core.Unplanned) (hkey : v.key = "") :
    v.Answered host (Reply.text Status.badRequest "missing cache key\n") host.core.cache [] := by
  have hcode : Demo.cache true v.request = respond Status.badRequest "missing cache key\n" := by
    rw [cache]
    simp [cacheKey_path, hkey]
  refine answered_of_untouched hc (sends_respond _ _) ?_
  rw [run, hcode]

theorem answered_of_read (hc : host.core.Unplanned) (hon : host.core.cacheEnabled = true)
    (hrun : v.run host = (cacheRead v.key).run (v.turn host)) :
    v.Answered host
      (match host.core.cache.get? (Utf8.ofString v.key) with
        | some value => Reply.octets value
        | none => Reply.text Status.notFound "not cached\n")
      host.core.cache [.readLock, .cacheGet, .unlock] := by
  have hserve := Host.serve_cacheGet (h := (v.turn host).host) hon v.length_key_le
  rw [cacheRead, run_bind, run_service, hserve] at hrun
  dsimp only at hrun
  cases hvalue : host.core.cache.get? (Utf8.ofString v.key) with
  | none =>
    have hmissing : (v.turn host).host.core.cache.get? (Utf8.ofString v.key) = none := hvalue
    rw [hmissing] at hrun
    exact answered_of_sends hc (sends_respond _ _) (Core.SameWires.refl v.exchanges) hrun
  | some value =>
    have hmapped : (v.turn host).host.core.cache.get? (Utf8.ofString v.key) = some value := hvalue
    rw [hmapped] at hrun
    exact answered_of_sends hc (sends_sendValue value) (Core.SameWires.refl v.exchanges) hrun

theorem answered_of_write (hc : host.core.Unplanned) (hon : host.core.cacheEnabled = true)
    {value : Bytes} (hvalue : v.body.content? v.exchanges = some value)
    (hrun : v.run host = (cacheWrite v.key v.expiry).run (v.turn host)) :
    v.Answered host (Reply.text Status.created "")
      (host.core.cache.insert (Utf8.ofString v.key) value)
      [.writeLock, .cacheSet 0 v.expiry, .unlock] := by
  have hprobe : ∀ _ : Nat, 0 < Body.probe := fun _ => by decide
  have hturn : (v.turn host).host.core.Unplanned := hc
  -- the whole body is there before the cache is asked
  obtain ⟨b, es, hdrain, hes⟩ := Body.drainWith_of_content hprobe hturn hvalue
  have hread : (v.turn host).body.drain (v.turn host).host.core =
      ((none, value), b, { (v.turn host).host.core with exchanges := es }) := hdrain
  have hserve := Host.serve_cacheSet_of_stored
    (h := { (v.turn host).host with core := { (v.turn host).host.core with exchanges := es } })
    hturn hon v.length_key_le value v.expiry (Or.inl Core.onlyExisting_replaceFlags)
  rw [cacheWrite, run_bind, run_readAll, hread] at hrun
  dsimp only [Turn.took] at hrun
  rw [run_bind, run_service, hserve] at hrun
  dsimp only at hrun
  rw [if_pos rfl] at hrun
  exact answered_of_sends hc (sends_respond _ _) hes hrun

theorem answered_of_unreadable (hc : host.core.Unplanned)
    (hvalue : v.body.content? v.exchanges = none)
    (hrun : v.run host = (cacheWrite v.key v.expiry).run (v.turn host)) :
    v.Answered host (Reply.text Status.badRequest "unreadable request body\n")
      host.core.cache [] := by
  have hprobe : ∀ _ : Nat, 0 < Body.probe := fun _ => by decide
  have hturn : (v.turn host).host.core.Unplanned := hc
  have hread : (v.turn host).body.drain (v.turn host).host.core =
      ((some .bodyEnded, []), v.body, (v.turn host).host.core) :=
    Body.drainWith_of_unreadable hprobe hturn hvalue
  rw [cacheWrite, run_bind, run_readAll, hread] at hrun
  exact answered_of_untouched hc (sends_respond _ _) hrun

theorem answered_of_remove (hc : host.core.Unplanned) (hon : host.core.cacheEnabled = true)
    {value : Bytes} (hvalue : host.core.cache.get? (Utf8.ofString v.key) = some value)
    (hrun : v.run host = (cacheRemove v.key).run (v.turn host)) :
    v.Answered host (Reply.text Status.noContent "") (host.core.cache.erase (Utf8.ofString v.key))
      [.writeLock, .cacheDelete, .unlock] := by
  have hserve := Host.serve_cacheDelete_of_mapped (h := (v.turn host).host) hc hon v.length_key_le
    hvalue
  rw [cacheRemove, run_bind, run_service, hserve] at hrun
  dsimp only at hrun
  rw [if_pos rfl] at hrun
  exact answered_of_sends hc (sends_respond _ _) (Core.SameWires.refl v.exchanges) hrun

theorem answered_of_nothing_to_remove (hc : host.core.Unplanned)
    (hon : host.core.cacheEnabled = true)
    (hvalue : host.core.cache.get? (Utf8.ofString v.key) = none)
    (hrun : v.run host = (cacheRemove v.key).run (v.turn host)) :
    v.Answered host (Reply.text Status.notFound "not cached\n") host.core.cache
      [.writeLock, .cacheDelete, .unlock] := by
  have hserve := Host.serve_cacheDelete_of_missing (h := (v.turn host).host) hc hon v.length_key_le
    hvalue
  rw [cacheRemove, run_bind, run_service, hserve] at hrun
  dsimp only at hrun
  rw [if_neg Bool.false_ne_true] at hrun
  exact answered_of_sends hc (sends_respond _ _) (Core.SameWires.refl v.exchanges) hrun

/-! ### The map -/

/-- The cache of a host holds what keys are mapped to; octets that are no key have what they had in
the cache `start`. -/
structure Holds (start : Table Bytes Bytes) (host : Host) (values : Values) : Prop where
  unplanned : host.core.Unplanned
  enabled : host.core.cacheEnabled = true
  get?_eq : ∀ key, host.core.cache.get? (Utf8.ofString key) = values key
  /-- What is no key is left alone. -/
  others : ∀ b, (∀ key, Utf8.ofString key ≠ b) → host.core.cache.get? b = start.get? b

variable {start : Table Bytes Bytes} {values : Values}

/-- Every request has its effect on what the host holds. -/
theorem Holds.answered (hholds : Holds start host values) (v : Visit ω) :
    ∃ cache, v.Answered host (v.effect values).reply cache (v.effect values).calls ∧
      (∀ key, cache.get? (Utf8.ofString key) = (v.effect values).values key) ∧
      ∀ b, (∀ key, Utf8.ofString key ≠ b) → cache.get? b = start.get? b := by
  obtain ⟨hc, hon, hvalues, hothers⟩ := hholds
  by_cases hkey : v.key = ""
  · rw [effect, if_pos hkey]
    exact ⟨_, answered_of_no_key hc hkey, hvalues, hothers⟩
  have hrun := run_of_key host hkey
  rw [effect, if_neg hkey]
  by_cases hget : v.request.method = Method.get
  · rw [if_pos hget] at hrun ⊢
    have hread := answered_of_read hc hon hrun
    rw [hvalues] at hread
    refine ⟨host.core.cache, ?_, ?_, hothers⟩
    · cases hvalue : values v.key with
      | none => rwa [hvalue] at hread
      | some value => rwa [hvalue] at hread
    · cases values v.key with
      | none => exact hvalues
      | some value => exact hvalues
  rw [if_neg hget] at hrun ⊢
  by_cases hwrite : v.request.method = Method.put ∨ v.request.method = Method.post
  · rw [if_pos hwrite] at hrun ⊢
    cases hvalue : v.body.content? v.exchanges with
    | none => exact ⟨_, answered_of_unreadable hc hvalue hrun, hvalues, hothers⟩
    | some value =>
      have hcache := Table.get?_insert host.core.cache (Utf8.ofString v.key) value
      refine ⟨_, answered_of_write hc hon hvalue hrun, Core.get?_ofString_update hvalues hcache, ?_⟩
      intro b hb
      rw [hcache, if_neg (Ne.symm (hb v.key)), hothers b hb]
  rw [if_neg hwrite] at hrun ⊢
  by_cases hdelete : v.request.method = Method.delete
  · rw [if_pos hdelete] at hrun ⊢
    cases hvalue : values v.key with
    | none =>
      have hmissing := (hvalues v.key).trans hvalue
      exact ⟨_, answered_of_nothing_to_remove hc hon hmissing hrun, hvalues, hothers⟩
    | some value =>
      have hmapped := (hvalues v.key).trans hvalue
      have hcache := Table.get?_erase host.core.cache (Utf8.ofString v.key)
      refine ⟨_, answered_of_remove hc hon hmapped hrun, Core.get?_ofString_update hvalues hcache, ?_⟩
      intro b hb
      rw [hcache, if_neg (Ne.symm (hb v.key)), hothers b hb]
  · rw [if_neg hdelete] at hrun ⊢
    exact ⟨_, answered_of_untouched hc sends_cacheRefuse hrun, hvalues, hothers⟩

theorem Holds.run (hholds : Holds start host values) (v : Visit ω) :
    Holds start (v.run host).2.host (v.effect values).values := by
  obtain ⟨cache, ⟨t, es, hrun, -, hhost⟩, hvalues, hothers⟩ := hholds.answered v
  rw [hrun]
  dsimp only
  rw [hhost]
  exact ⟨hholds.unplanned, hholds.enabled, hvalues, hothers⟩

/-- After requests, one after the other, the host holds what their effects say. -/
theorem Holds.runAll (hholds : Holds start host values) (visits : List (Visit ω)) :
    Holds start (runAll visits host)
      (visits.foldl (fun values v => (v.effect values).values) values) := by
  induction visits generalizing host values with
  | nil => exact hholds
  | cons v visits ih =>
    rw [Visit.runAll, List.foldl_cons, List.foldl_cons]
    exact ih (hholds.run v)

/-- The cache over HTTP refines a map from keys to octets. Let `values` be the map after any requests
under `/cache/`, when it agreed with the cache at first. Then the cache agrees with it still, and
holds what it held under octets that are no key. The handler answers the next request without a
panic: on a writer that does not fail it sends status, headers and body of the request's effect, and
the calls of the effect are those that reach the cache. For how long a value is kept, each request
says in one way. -/
theorem cache_refines_map (host : Host) (hc : host.core.Unplanned)
    (hon : host.core.cacheEnabled = true) (visits : List (Visit ω)) (v : Visit ω) :
    let values : Values := visits.foldl (fun values v => (v.effect values).values)
      fun key => host.core.cache.get? (Utf8.ofString key)
    let before := Visit.runAll visits host
    (∀ key, before.core.cache.get? (Utf8.ofString key) = values key) ∧
    (∀ b, (∀ key, Utf8.ofString key ≠ b) →
      before.core.cache.get? b = host.core.cache.get? b) ∧
    (v.run before).1 = .done () ∧
    v.reliable.HasSent (v.run before).2.writer (v.run before).2.host.core.exchanges
      (v.effect values).reply.status ((v.effect values).reply.headers v.headers)
      (v.effect values).reply.body ∧
    (v.run before).2.host.core.events = before.core.events ++ (v.effect values).calls ∧
    ∀ r : Request, ∃! n, Expires r.uri.query n := by
  intro values before
  have hstart : Holds host.core.cache host
      fun key => host.core.cache.get? (Utf8.ofString key) :=
    ⟨hc, hon, fun _ => rfl, fun _ _ => rfl⟩
  have hholds : Holds host.core.cache before values := hstart.runAll visits
  obtain ⟨cache, ⟨t, es, hrun, hsent, hhost⟩, -, -⟩ := hholds.answered v
  rw [hrun]
  refine ⟨hholds.get?_eq, hholds.others, rfl, hsent, ?_, existsUnique_expires⟩
  rw [hhost]
  rfl

/-- What is stored under a key is what is read there afterwards, and it is stored for as long as the
first of two parameters says. -/
theorem cache_of_put_then_get :
    let uri : Uri := ⟨none, none, ⟨"/cache/k", some "x=1&t%74l=%35&ttl=7", by decide⟩⟩
    let put : Visit Recorded :=
      { request := { method := Method.put, uri := uri }, key := "k", path_eq := by decide
        expiry := 5, expires := expires_first_of_two
        body := .stored [7], exchanges := Table.empty, writer := {}, reliable := Reliable.recorded
        headers := HeaderMap.empty, isOpen := rfl }
    let get : Visit Recorded :=
      { request := { method := Method.get, uri := uri }, key := "k", path_eq := by decide
        expiry := 5, expires := expires_first_of_two
        body := .stored [], exchanges := Table.empty, writer := {}, reliable := Reliable.recorded
        headers := HeaderMap.empty, isOpen := rfl }
    (put.run {}).2.host.core.events = [.writeLock, .cacheSet 0 5, .unlock] ∧
      (get.run (runAll [put] {})).2.writer.status = some Status.ok ∧
      (get.run (runAll [put] {})).2.writer.body = [7] := by
  intro uri put get
  have hstart : runAll ([] : List (Visit Recorded)) {} = {} := rfl
  obtain ⟨-, -, -, -, hcalls, -⟩ := cache_refines_map {} (fun _ => rfl) rfl [] put
  rw [hstart] at hcalls
  obtain ⟨-, -, -, hsent, -⟩ := cache_refines_map {} (fun _ => rfl) rfl [put] get
  have hwriter : (get.run (runAll [put] {})).2.writer = _ := hsent
  refine ⟨hcalls.trans (by decide +kernel), ?_⟩
  rw [hwriter]
  exact ⟨by decide +kernel, by decide +kernel⟩

end Visit

end Gateway.Demo
