import Gateway.Proofs.Bridge
import Gateway.Proofs.Demo.Reply
import Gateway.Proofs.Demo.Routes
import Gateway.Proofs.Response.Once

/-!
# Every request is answered once

What the demonstration answers where no bridge serves the process, row by row of its table of routes
(`answered_once`): each row gives the writer one status and no other, and leaves exactly its reply in
a recorded response. With or without a bridge, every handler comes to write something whatever it is
answered, and none panics (`replies_serve`), so a dispatch sends one header block.
-/

namespace Gateway

open TurnProgram

namespace Demo

/-! ### The table -/

/-- What is sent back to a request: the body that was read of it, and the content type that it names
first. -/
def Reply.echo (r : Request) : Option Bytes → Reply
  | some body =>
    ⟨Status.ok, ((r.headers.get? HeaderName.contentType).map (HeaderName.contentType, ·)).toList,
      body⟩
  | none => text Status.badRequest "unreadable request body\n"

/-- What a request is answered with where no bridge serves the process; `body` is what can be read
of its body, unless that fails. -/
def replyTo (r : Request) (body : Option Bytes) : Reply :=
  if r.path = "/hello" then Reply.text Status.ok ("Hello, " ++ greeted r ++ "!\n")
  else if r.path = "/echo" then Reply.echo r body
  else if UnderCache r.path then Reply.text Status.serviceUnavailable "cache unavailable\n"
  else if r.path = "/" then Reply.text Status.ok (bannerLine ++ "\n")
  else Reply.nowhere

/-- What holds of the code of every route and of what it answers holds of the application and its
table. -/
theorem serve_of_routes {P : TurnProgram Unit → Reply → Prop} (r : Request) (body : Option Bytes)
    (hrespond : ∀ s text, P (respond s text) (Reply.text s text))
    (hecho : P (echo r) (Reply.echo r body))
    (hcache : P (installedCache r)
      (Reply.text Status.serviceUnavailable "cache unavailable\n"))
    (hnotFound : P notFound Reply.nowhere) : P (application.serve r) (replyTo r body) := by
  rw [serve_eq, replyTo]
  split
  · exact hrespond _ _
  split
  · exact hecho
  split
  · exact hcache
  split
  · exact hrespond _ _
  · exact hnotFound

/-- There is no cache without a bridge. -/
theorem replyTo_of_underCache {r : Request} (hcache : UnderCache r.path) (body : Option Bytes) :
    replyTo r body = Reply.text Status.serviceUnavailable "cache unavailable\n" := by
  have hhello : r.path ≠ "/hello" := fun hpath => absurd (hpath ▸ hcache) (by decide)
  have hecho : r.path ≠ "/echo" := fun hpath => absurd (hpath ▸ hcache) (by decide)
  rw [replyTo, if_neg hhello, if_neg hecho, if_pos hcache]

/-- A path that is not in the table leads nowhere. -/
theorem replyTo_of_unknown {r : Request} (hroot : r.path ≠ "/") (hhello : r.path ≠ "/hello")
    (hecho : r.path ≠ "/echo") (hcache : ∀ key, r.path ≠ "/cache/" ++ key) (body : Option Bytes) :
    replyTo r body = Reply.nowhere := by
  have hunder : ¬UnderCache r.path := fun ⟨key, hkey⟩ => hcache key hkey
  rw [replyTo, if_neg hhello, if_neg hecho, if_neg hunder, if_neg hroot]

/-- Paths that look like routes. -/
example : ∀ path ∈ ["", "*", "/cache", "/hello/x"],
    path ≠ "/" ∧ path ≠ "/hello" ∧ path ≠ "/echo" ∧ ¬UnderCache path := by
  decide

/-- What is sent back has the content type that the request names first, and no other. -/
theorem Reply.headers_echo {r : Request} {v : HeaderValue}
    (hv : r.headers.get? HeaderName.contentType = some v) (body : Bytes) (h : HeaderMap) :
    (Reply.echo r (some body)).headers h = h.insert HeaderName.contentType v ∧
      ((Reply.echo r (some body)).headers h).values HeaderName.contentType = [v] := by
  rw [echo, hv]
  exact ⟨rfl, h.values_insert_self HeaderName.contentType v⟩

theorem Reply.headers_echo_of_untyped {r : Request}
    (hv : r.headers.get? HeaderName.contentType = none) (body : Bytes) (h : HeaderMap) :
    (Reply.echo r (some body)).headers h = h := by
  rw [echo, hv]
  rfl

/-- The body of a request as a handler gets it, unless reading it fails. -/
def bodyOf {ω : Type} (t : Turn ω) : Option Bytes :=
  match (t.body.drain t.host.core).1 with
  | (none, got) => some got
  | (some _, _) => none

theorem bodyOf_eq_content? {ω : Type} {t : Turn ω} (hc : t.host.core.Unplanned) :
    bodyOf t = t.body.content? t.host.core.exchanges := by
  have hprobe : ∀ _ : Nat, 0 < Body.probe := fun _ => by decide
  cases hcontent : t.body.content? t.host.core.exchanges with
  | some v =>
    obtain ⟨b, es, hdrain, -⟩ := Body.drainWith_of_content hprobe hc hcontent
    rw [bodyOf, Body.drain, hdrain]
  | none =>
    rw [bodyOf, Body.drain, Body.drainWith_of_unreadable hprobe hc hcontent]

theorem silent_readAll : Program.AsksOnly (fun c => ¬TurnCall.Writes c) readAll := by
  refine ⟨id, ?_⟩
  rintro ⟨_ | e, got⟩
  · trivial
  · trivial

/-! ### One status on any writer -/

section

variable {ω : Type} [ResponseWriter ω] {t : Turn ω}

theorem statuses_writeBody (b : Bytes) (t : Turn ω) :
    (writeBody b >>= fun _ => pure ()).statuses t =
      if ResponseWriter.isCommitted t.writer then [] else [Status.ok] := by
  refine (statuses_call (.writeBody b) (fun _ => pure ()) t).trans ?_
  rw [TurnCall.status?]
  split <;> rfl

variable [CommittingWriter ω]

/-- A head gives its status; octets after it give none, since the head was heeded. -/
theorem statuses_writeHeader (s : Status) {f : Except Fault Unit → TurnProgram Unit}
    (herror : ∀ e (u : Turn ω), (f (.error e)).statuses u = [])
    (hok : ∀ u : Turn ω, ResponseWriter.isCommitted u.writer = true → (f (.ok ())).statuses u = [])
    (t : Turn ω) : (writeHeader s >>= f).statuses t = [s] := by
  rw [statuses_bind (run_writeHeader t s)]
  refine congrArg (s :: ·) ?_
  cases hanswer : (ResponseWriter.writeHeader s t.writer t.host.core).1 with
  | error e => exact herror e _
  | ok _ => exact hok _ (CommittingWriter.isCommitted_writeHeader hanswer)

theorem statuses_respond (s : Status) (text : String) (t : Turn ω) :
    (respond s text).statuses t = [s] := by
  rw [respond, statuses_bind (run_setHeader t _ _)]
  refine statuses_writeHeader s (fun _ _ => rfl) (fun u hu => ?_) _
  dsimp only
  split
  · rfl
  · rw [statuses_writeBody, if_pos hu]

theorem statuses_notFound (t : Turn ω) : notFound.statuses t = [Status.notFound] := by
  rw [notFound, statuses_bind (run_setHeader t _ _), statuses_bind (run_setHeader _ _ _)]
  refine statuses_writeHeader Status.notFound (fun _ _ => rfl) (fun u hu => ?_) _
  rw [statuses_writeBody, if_pos hu]

theorem statuses_echo (hopen : ResponseWriter.isCommitted t.writer = false) (r : Request) :
    (echo r).statuses t = [(Reply.echo r (bodyOf t)).status] := by
  rw [echo, statuses_bind (run_readAll t), statuses_of_silent silent_readAll, bodyOf]
  -- the writer is as it was before the body was read
  have hread : ResponseWriter.isCommitted (t.took (t.body.drain t.host.core)).2.writer = false :=
    hopen
  rcases (t.body.drain t.host.core).1 with ⟨_ | e, got⟩
  · dsimp only [List.nil_append]
    cases r.headers.get? HeaderName.contentType with
    | none =>
      dsimp only
      rw [statuses_writeBody, hread]
      rfl
    | some v =>
      dsimp only
      rw [statuses_bind (run_setHeader _ _ _), statuses_writeBody,
        CommittingWriter.isCommitted_setHeaders, hread]
      rfl
  · exact statuses_respond _ _ _

/-- Without a bridge the cache does not come into it. -/
theorem statuses_installedCache (hinstalled : t.host.installed = false) (r : Request) :
    (installedCache r).statuses t = [Status.serviceUnavailable] := by
  have hrun : isInstalled.run t = (.done false, t) := by rw [run_isInstalled, hinstalled]
  rw [installedCache, statuses_bind hrun]
  exact statuses_respond _ _ t

/-- A request is given the status of its reply and no other, on any writer, whether or not the writer
fails. -/
theorem statuses_serve (hinstalled : t.host.installed = false)
    (hopen : ResponseWriter.isCommitted t.writer = false) (r : Request) :
    (application.serve r).statuses t = [(replyTo r (bodyOf t)).status] :=
  serve_of_routes (P := fun p reply => p.statuses t = [reply.status]) r (bodyOf t)
    (fun s text => statuses_respond s text t) (statuses_echo hopen r)
    (statuses_installedCache hinstalled r) (statuses_notFound t)

end

/-! ### The reply in a recorded response -/

/-- Code ends, and leaves a reply in a recorded response. -/
def Leaves (p : TurnProgram Unit) (t : Turn Recorded) (reply : Reply) : Prop :=
  ∃ u, p.run t = (.done (), u) ∧
    u.writer =
      { headers := reply.headers t.writer.headers, status := some reply.status, body := reply.body }

section

variable {t : Turn Recorded} {h : HeaderMap}

theorem leaves_respond (ht : t.writer = { headers := h }) (s : Status) (text : String) :
    Leaves (respond s text) t (Reply.text s text) := by
  obtain ⟨w, body, host⟩ := t
  obtain rfl : w = { headers := h } := ht
  by_cases htext : text = ""
  · subst htext
    exact ⟨_, rfl, rfl⟩
  · rw [← String.isEmpty_iff, Bool.not_eq_true] at htext
    rw [respond, htext]
    exact ⟨_, rfl, rfl⟩

theorem leaves_notFound (ht : t.writer = { headers := h }) : Leaves notFound t Reply.nowhere := by
  obtain ⟨w, body, host⟩ := t
  obtain rfl : w = { headers := h } := ht
  exact ⟨_, rfl, rfl⟩

theorem leaves_echo (ht : t.writer = { headers := h }) (r : Request) :
    Leaves (echo r) t (Reply.echo r (bodyOf t)) := by
  obtain ⟨w, b, host⟩ := t
  obtain rfl : w = { headers := h } := ht
  rw [Leaves, echo, run_bind, run_readAll, bodyOf]
  dsimp only [Turn.took]
  rcases b.drain host.core with ⟨⟨_ | e, got⟩, b', c⟩
  · dsimp only
    rw [Reply.echo]
    cases r.headers.get? HeaderName.contentType with
    | none => exact ⟨_, rfl, rfl⟩
    | some v => exact ⟨_, rfl, rfl⟩
  · exact leaves_respond (t := ⟨{ headers := h }, b', { host with core := c }⟩) rfl _ _

theorem leaves_installedCache (hinstalled : t.host.installed = false)
    (ht : t.writer = { headers := h }) (r : Request) :
    Leaves (installedCache r) t
      (Reply.text Status.serviceUnavailable "cache unavailable\n") := by
  rw [Leaves, installedCache, run_bind, run_isInstalled, hinstalled]
  exact leaves_respond ht _ _

/-- A recorded response is the reply to its request. -/
theorem leaves_serve (hinstalled : t.host.installed = false) (ht : t.writer = { headers := h })
    (r : Request) : Leaves (application.serve r) t (replyTo r (bodyOf t)) :=
  serve_of_routes (P := fun p reply => Leaves p t reply) r (bodyOf t) (leaves_respond ht)
    (leaves_echo ht r) (leaves_installedCache hinstalled ht r) (leaves_notFound ht)

end

/-! ### Handlers that reply -/

/-- Code that comes to write something whatever it is answered, and does not panic. -/
structure Replies (p : TurnProgram Unit) : Prop where
  writes : Program.Reaches TurnCall.Writes p
  returns : Program.Returns p

theorem Replies.run_eq {ω : Type} [ResponseWriter ω] {p : TurnProgram Unit} (hp : Replies p)
    (t : Turn ω) : ∃ u, p.run t = (.done (), u) := by
  obtain ⟨a, u, hrun⟩ := Program.run_of_returns hp.returns t
  exact ⟨u, hrun⟩

theorem Replies.after {α : Type} {p : TurnProgram α} (hp : Program.Returns p)
    {f : α → TurnProgram Unit} (hf : ∀ a, Replies (f a)) : Replies (p >>= f) :=
  ⟨hp.reaches_bind fun a => (hf a).writes, hp.bind fun a => (hf a).returns⟩

theorem returns_ask (c : TurnCall) : Program.Returns (ask c) :=
  fun _ => trivial

theorem returns_setHeader (n : HeaderName) (v : HeaderValue) : Program.Returns (setHeader n v) :=
  fun _ _ => trivial

theorem returns_readAll : Program.Returns readAll := by
  rintro ⟨_ | e, got⟩
  · trivial
  · trivial

/-- Octets, and nothing after them. -/
theorem replies_writeBody (b : Bytes) :
    Replies (writeBody b >>= fun _ => pure ()) :=
  ⟨.inl trivial, fun _ => trivial⟩

theorem replies_respond (s : Status) (text : String) : Replies (respond s text) := by
  refine .after (returns_setHeader _ _) fun _ => ⟨.inl trivial, ?_⟩
  refine (returns_ask (.writeHeader s)).bind fun answer => ?_
  cases answer with
  | error e => trivial
  | ok _ =>
    dsimp only
    split
    · trivial
    · exact (replies_writeBody _).returns

theorem replies_notFound : Replies notFound := by
  refine .after (returns_setHeader _ _) fun _ => .after (returns_setHeader _ _) fun _ =>
    ⟨.inl trivial, ?_⟩
  refine (returns_ask (.writeHeader Status.notFound)).bind fun answer => ?_
  cases answer with
  | error e => trivial
  | ok _ => exact (replies_writeBody _).returns

theorem replies_echo (r : Request) : Replies (echo r) := by
  refine .after returns_readAll fun answer => ?_
  cases answer with
  | error e => exact replies_respond _ _
  | ok body =>
    dsimp only
    split
    · exact replies_writeBody body
    · exact .after (returns_setHeader _ _) fun _ => replies_writeBody body

theorem replies_sendValue (v : Bytes) : Replies (sendValue v) :=
  .after (returns_setHeader _ _) fun _ => replies_writeBody v

theorem replies_cacheRead (key : String) : Replies (cacheRead key) := by
  refine .after (returns_ask _) fun value => ?_
  cases value with
  | none => exact replies_respond _ _
  | some v => exact replies_sendValue v

theorem replies_cacheWrite (key : String) (ttl : Nat) : Replies (cacheWrite key ttl) := by
  refine .after returns_readAll fun answer => ?_
  cases answer with
  | error e => exact replies_respond _ _
  | ok value =>
    refine .after (returns_ask _) fun stored => ?_
    split <;> exact replies_respond _ _

theorem replies_cacheRemove (key : String) : Replies (cacheRemove key) := by
  refine .after (returns_ask _) fun removed => ?_
  split <;> exact replies_respond _ _

theorem replies_cache (available : Bool) (r : Request) : Replies (cache available r) := by
  rw [cache]
  split
  · exact replies_respond _ _
  dsimp only
  split
  · exact replies_respond _ _
  split
  · exact replies_cacheRead _
  split
  · exact replies_cacheWrite _ _
  split
  · exact replies_cacheRemove _
  · exact .after (returns_setHeader _ _) fun _ => replies_respond _ _

/-- Whatever is asked of the demonstration, something is sent. -/
theorem replies_serve (r : Request) : Replies (application.serve r) :=
  serve_of_routes (P := fun p _ => Replies p) r none replies_respond (replies_echo r)
    (.after (returns_ask _) fun available => replies_cache available r) replies_notFound

/-! ### Dispatches -/

/-- A request that is read from its environment is answered without a panic, and one header block is
added to its wire. -/
theorem block_of_dispatch {b : Bridge} (happ : b.app = application) {env h : Handle}
    {vars : Environment} (hvars : b.pending.get? env = some vars) {r : Request}
    (hr : Request.ofEnvironment vars = .ok r) {x : Exchange} (hx : b.core.Accepts h x) :
    (b.dispatch env h).1 = none ∧
      ∃ y status headers body, (b.dispatch env h).2.core.Accepts h y ∧
        y.wire = x.wire ++ HeaderBlock.render r.version status headers ++ body ∧
        y.headerWrites = x.headerWrites + 1 ∧
        (b.host.installed = false → status = (replyTo r (bodyOf (b.turn h r))).status) := by
  -- the environment is handed out before the handler runs, and the handler does not see that
  have hdispatch : b.dispatch env h = (b.taken env).answer h r := by
    rw [LifetimeStep.dispatch_of_waiting hvars, hr]
    rfl
  have hreplies := replies_serve r
  rw [← happ] at hreplies
  rw [hdispatch]
  constructor
  · obtain ⟨u, hrun⟩ := hreplies.run_eq ((b.taken env).turn h r)
    exact congrArg (fun e => e.1.panic?) hrun
  · obtain ⟨y, status, headers, body, hy, hwire, hblocks, hfirst⟩ :=
      Bridge.block_of_answer (b := b.taken env) hx hreplies.writes
    refine ⟨y, status, headers, body, hy, hwire, hblocks, fun hinstalled => ?_⟩
    have hstatuses := statuses_serve (t := b.turn h r) hinstalled rfl r
    rw [← happ] at hstatuses
    exact Option.some.inj (hfirst.symm.trans (congrArg List.head? hstatuses))

/-- The demonstration answers every request once, by its table of routes. Where no bridge serves the
process, the reply hangs on the path alone, and for an echo on the body and the content type; all
paths that are not in the table get one and the same page. A writer is given the status of the reply
and no other, whether or not it fails, and a recorded response is exactly the reply. A dispatch of a
request that was read, with no write refused, adds one header block and octets after it. -/
theorem answered_once (r : Request) :
    (∀ body : Option Bytes,
      (r.path = "/" →
        replyTo r body = Reply.text Status.ok "uwsgi-hello: Rust handlers on uWSGI\n") ∧
      (r.path = "/hello" →
        replyTo r body = Reply.text Status.ok ("Hello, " ++ greeted r ++ "!\n")) ∧
      (r.path = "/echo" →
        (body = none →
          replyTo r body = Reply.text Status.badRequest "unreadable request body\n") ∧
        ∀ got, body = some got →
          (replyTo r body).status = Status.ok ∧ (replyTo r body).body = got ∧
          (r.headers.get? HeaderName.contentType = none →
            ∀ h, (replyTo r body).headers h = h) ∧
          ∀ v, r.headers.get? HeaderName.contentType = some v →
            ∀ h, (replyTo r body).headers h = h.insert HeaderName.contentType v ∧
              ((replyTo r body).headers h).values HeaderName.contentType = [v]) ∧
      (∀ key, r.path = "/cache/" ++ key →
        replyTo r body = Reply.text Status.serviceUnavailable "cache unavailable\n") ∧
      (r.path ≠ "/" → r.path ≠ "/hello" → r.path ≠ "/echo" →
        (∀ key, r.path ≠ "/cache/" ++ key) → replyTo r body = Reply.nowhere)) ∧
    (∀ {ω : Type} (t : Turn ω), t.host.core.Unplanned →
      bodyOf t = t.body.content? t.host.core.exchanges) ∧
    (∀ {ω : Type} [ResponseWriter ω] [CommittingWriter ω] (t : Turn ω),
      t.host.installed = false → ResponseWriter.isCommitted t.writer = false →
        (application.serve r).statuses t = [(replyTo r (bodyOf t)).status]) ∧
    (∀ (h : HeaderMap) (body : Body) (host : Host), host.installed = false →
      let t : Turn Recorded := { writer := { headers := h }, body := body, host := host }
      Leaves (application.serve r) t (replyTo r (bodyOf t))) ∧
    ∀ (b : Bridge) (env h : Handle) (vars : Environment) (x : Exchange), b.app = application →
      b.pending.get? env = some vars → Request.ofEnvironment vars = .ok r → b.core.Accepts h x →
        (b.dispatch env h).1 = none ∧
        ∃ y status headers body, (b.dispatch env h).2.core.exchanges.get? h = some y ∧
          y.wire = x.wire ++ HeaderBlock.render r.version status headers ++ body ∧
          y.headerWrites = x.headerWrites + 1 ∧
          (b.host.installed = false → status = (replyTo r (bodyOf (b.turn h r))).status) := by
  refine ⟨fun body => ⟨fun hpath => ?_, fun hpath => ?_, fun hpath => ?_,
      fun key hkey => replyTo_of_underCache ⟨key, hkey⟩ body,
      fun hroot hhello hecho hcache => replyTo_of_unknown hroot hhello hecho hcache body⟩,
    fun t => bodyOf_eq_content?, fun t hinstalled hopen => statuses_serve hinstalled hopen r,
    fun h body host hinstalled => leaves_serve hinstalled rfl r, ?_⟩
  · rw [replyTo, hpath]
    rfl
  · rw [replyTo, if_pos hpath]
  · have hreply : replyTo r body = Reply.echo r body := by
      rw [replyTo, hpath]
      rfl
    rw [hreply]
    constructor
    · rintro rfl
      rfl
    · rintro got rfl
      exact ⟨rfl, rfl, fun hv => Reply.headers_echo_of_untyped hv got,
        fun v hv => Reply.headers_echo hv got⟩
  · intro b env h vars x happ hvars hr hx
    obtain ⟨hcalm, y, status, headers, octets, hy, hwire, hblocks, hstatus⟩ :=
      block_of_dispatch happ hvars hr hx
    exact ⟨hcalm, y, status, headers, octets, hy.get?_eq, hwire, hblocks, hstatus⟩

/-- Two octets that are sent back: in a recorded response, and on the wire after a dispatch. -/
theorem answered_of_echo :
    let h : Handle := ⟨4096, by decide⟩
    let vars := Environment.ofList
      [("REQUEST_METHOD", "POST"), ("REQUEST_URI", "/echo"), ("CONTENT_TYPE", "text/x")]
    let core : Core := (Core.openRequest {}).2.pushBody h [112, 105]
    let b : Bridge :=
      { app := application, settings := {}, defaultContentType := [116]
        pending := ⟨Table.empty.insert h vars⟩, host := { core := core } }
    let t : Turn Recorded := { writer := {}, body := .queued h, host := { core := core } }
    core.Accepts h { input := [[112, 105]] } ∧ ∃ r, Request.ofEnvironment vars = .ok r ∧
      (application.serve r).statuses t = [Status.ok] ∧
      ((application.serve r).run t).2.writer.body = [112, 105] ∧
      ((application.serve r).run t).2.writer.headers.values HeaderName.contentType =
        [Utf8.ofString "text/x"] ∧
      (b.dispatch h h).1 = none ∧ ∃ y, (b.dispatch h h).2.core.exchanges.get? h = some y ∧
        y.headerWrites = 1 := by
  intro h vars core b t
  have hx : core.Accepts h { input := [[112, 105]] } :=
    ⟨by decide, rfl, fun p _ code hcode => absurd hcode List.not_mem_nil⟩
  have hpath : (Request.ofEnvironment vars).toOption.map Request.path = some "/echo" := by
    decide +kernel
  have htype : ((Request.ofEnvironment vars).toOption.bind fun r =>
      r.headers.get? HeaderName.contentType) = some (Utf8.ofString "text/x") := by
    decide +kernel
  obtain ⟨r, hr⟩ := Request.exists_of_isOk (e := vars) (by decide +kernel)
  rw [hr] at hpath htype
  obtain ⟨htable, -, hstatuses, hrecorded, hdispatch⟩ := answered_once r
  obtain ⟨-, hsent, hbody, -, hheaders⟩ :=
    ((htable (some [112, 105])).2.2.1 (Option.some.inj hpath)).imp_right fun hecho => hecho _ rfl
  obtain ⟨u, hrun, hu⟩ := hrecorded HeaderMap.empty (.queued h) { core := core } rfl
  obtain ⟨hcalm, y, -, -, -, hy, -, hblocks, -⟩ := hdispatch b h h vars _ rfl rfl hr hx
  have hread : bodyOf t = some [112, 105] := by decide +kernel
  refine ⟨hx, r, hr, ?_, ?_, ?_, hcalm, y, hy, hblocks⟩
  · rw [hstatuses t rfl rfl, hread, hsent]
  · rw [hrun]
    dsimp only
    rw [hu, hread, hbody]
  · rw [hrun]
    dsimp only
    rw [hu, hread]
    exact (hheaders _ htype _).2

end Demo

end Gateway
