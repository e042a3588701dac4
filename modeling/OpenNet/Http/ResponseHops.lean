import OpenNet.Http.Config

/-!
# Redirect chains

Model of `src/module/http/response_hops.rs`, with `build_request` of
`src/module/http/http_client_inner.rs` for the first request of a chain and
`src/module/http/cookie_hooks.rs` for the Cookie header of every request.

The transport never follows a redirect itself, so a response has the URL of its request.
Everything outside the client answers through an environment.  Each header of a request remembers
who put it there.
-/

namespace OpenNet.Http

open Fallible

/-! ## Requests and responses -/

inductive Method where
  | get | head | post | put | patch | delete | options | trace | connect
  | extension (token : String)
  deriving DecidableEq, Repr

/-- Who put a header on a request. -/
inductive HeaderSource where
  | caller | provider | store | transport
  deriving DecidableEq, Repr

structure SentHeader where
  source : HeaderSource
  header : Header
  deriving DecidableEq, Repr

abbrev SentHeaders := List SentHeader

/-- A request as it is sent. -/
structure Request where
  method : Method
  url : Url
  headers : SentHeaders
  body : Option (List UInt8)
  /-- The authentication provider was applied to this request. -/
  authApplied : Bool
  deriving DecidableEq, Repr

/-- The head of a response. -/
structure Response where
  url : Url
  status : Nat
  headers : HeaderMap
  deriving DecidableEq, Repr

def fromCaller (headers : HeaderMap) : SentHeaders := headers.map (SentHeader.mk .caller)

/-! ## Providers -/

/-- What one application of the authentication provider does. -/
inductive AuthAnswer where
  /-- It sets these headers and reports the generation of its credentials. -/
  | applied (sets : List Header) (generation : Nat)
  | returnedError
  | panicked
  /-- The budget of the attempt ends while the provider is pending. -/
  | interrupted (error : NetError)

inductive StoreAnswer where
  | cookies (value : Option HeaderValue)
  | failed (error : NetError)
  | panicked

/-- `is_forbidden_header` of the authentication context. -/
def isForbiddenHeader (name : String) : Bool :=
  "proxy-".toList.isPrefixOf name.toList ||
    name ∈ ["host", "connection", "content-length", "transfer-encoding", "upgrade", "te",
      "trailer", "keep-alive", "proxy-connection", "proxy-authenticate", "proxy-authorization"]

/-- `set_header`: a forbidden name is refused. -/
def setHeader (headers : SentHeaders) (h : Header) : SentHeaders :=
  if isForbiddenHeader h.name then headers
  else headers.filter (fun e => decide (e.header.name ≠ h.name)) ++
    [⟨.provider, { h with value := { h.value with sensitive := true } }⟩]

def providerFailed : NetError := (NetError.new .providerFailed).withStage .provider

/-- Apply the provider where allowed; else keep the generation. -/
def applyAuth (allowed : Bool) (answer : AuthAnswer) (check : Option NetError)
    (headers : SentHeaders) (generation : Nat) : Except NetError (SentHeaders × Nat) :=
  if allowed then
    match answer with
    | .interrupted e => .error e
    | .applied sets generation => do
      report check
      .ok (sets.foldl setHeader headers, generation)
    | _ => do
      report check
      .error providerFailed
  else .ok (headers, generation)

/-- `check_cancelled`. -/
def checkCancelled (cancelled : Bool) (requestId : Nat) : Except NetError Unit :=
  ensure (cancelled = false)
    (((NetError.new .cancelled).withStage .dispatch).withHttpRequestId requestId)

/-- `provider_failure`. -/
def providerFailure (requestId : Nat) : NetError := providerFailed.withHttpRequestId requestId

/-- `header_limit`. -/
def headerLimit (requestId : Nat) : NetError :=
  ((NetError.new .itemTooLarge).withStage .requestBuild).withHttpRequestId requestId

def saturatingAdd (a b : Nat) : Nat := min (a + b) Checked.u64Max

/-- The joined Cookie values stay within the limit. -/
def cookieBytesWithin (limit : Nat) : Nat → Nat → List HeaderValue → Bool
  | _, _, [] => true
  | index, bytes, value :: values =>
    let joined := saturatingAdd bytes value.bytes.length
    let total := if index ≠ 0 then saturatingAdd joined 2 else joined
    if total > limit then false else cookieBytesWithin limit (index + 1) total values

/-- Mark a value as sensitive where it is a value of `name`. -/
def Header.markSensitive (name : String) (h : Header) : Header :=
  if h.name = name then { h with value := { h.value with sensitive := true } } else h

/-- `apply_cookie_header`: an explicit Cookie header wins. -/
def applyCookieHeader (config : HttpClientConfig) (requestId : Nat) (answer : StoreAnswer)
    (headers : SentHeaders) : Except NetError SentHeaders :=
  if config.cookieStore = false then .ok headers
  else
    let limit := config.cookieLimits.maxCookieHeaderBytes
    let explicit := headers.filter fun e => decide (e.header.name = "cookie")
    if explicit ≠ [] then
      if cookieBytesWithin limit 0 0 (explicit.map fun e => e.header.value) then
        .ok (headers.map fun e => { e with header := e.header.markSensitive "cookie" })
      else .error (headerLimit requestId)
    else match answer with
      | .cookies none => .ok headers
      | .cookies (some value) =>
        if value.bytes.length > limit then .error (headerLimit requestId)
        else .ok (headers ++ [⟨.store, ⟨"cookie", { value with sensitive := true }⟩⟩])
      | .failed e =>
        -- The jar's own header limit keeps its classification; nothing else of it is kept.
        if e.kind = .itemTooLarge ∧ e.context.stage = some .requestBuild then
          .error (headerLimit requestId)
        else .error (providerFailure requestId)
      | .panicked => .error (providerFailure requestId)

/-- The Set-Cookie values shown: a bounded prefix, none oversized. -/
def filterSetCookies (limits : CookieLimits) : Nat → List HeaderValue → List HeaderValue
  | _, [] => []
  | total, value :: values =>
    let total := saturatingAdd total value.bytes.length
    if total > limits.maxSetCookieBytes then []
    else if value.bytes ≠ [] ∧ value.bytes.length ≤ limits.maxCookieBytes then
      value :: filterSetCookies limits total values
    else filterSetCookies limits total values

/-- `update_response_cookies`; `store`: the store succeeds. -/
def updateResponseCookies (config : HttpClientConfig) (requestId : Nat)
    (cancelledBefore cancelledAfter : Bool) (store : Url → HeaderMap → Bool)
    (response : Response) : Except NetError Response :=
  if config.cookieStore = false then .ok response
  else do
    checkCancelled cancelledBefore requestId
    let marked := response.headers.map (·.markSensitive "set-cookie")
    let shown := HeaderMap.remove marked "set-cookie" ++
      (filterSetCookies config.cookieLimits 0 (HeaderMap.getAll marked "set-cookie")).map
        (Header.mk "set-cookie")
    checkCancelled cancelledAfter requestId
    ensure (store response.url shown) (providerFailure requestId)
    .ok { response with headers := marked }

/-! ## One hop -/

/-- `redirect_error`. -/
def redirectError (reason : HttpRedirectError) : NetError :=
  (NetError.withForeign .protocol reason.message).withStage .receive

def isRedirectStatus (status : Nat) : Bool := status ∈ [301, 302, 303, 307, 308]

/-- `redirect_method`, and whether the body is preserved. -/
def redirectMethod (status : Nat) (method : Method) : Method × Bool :=
  if (status = 301 ∨ status = 302) ∧ method = .post then (.get, false)
  else if status = 303 then (if method = .head then .head else .get, false)
  else (method, true)

/-- Names that never cross an origin, whatever their values. -/
def credentialNames : List String :=
  ["authorization", "cookie", "proxy-authorization", "www-authenticate", "host", "cookie2"]

/-- The names of the headers that `strip_sensitive_headers` removes. -/
def strippedNames (headers : HeaderMap) : List String :=
  (headers.filter fun h => h.value.sensitive).map Header.name ++ credentialNames

/-- `strip_sensitive_headers`. -/
def stripSensitiveHeaders (headers : HeaderMap) : HeaderMap :=
  headers.removeAll (strippedNames headers)

/-- What one chain is about: the fields of `ResponseHops`. -/
structure Hops where
  requestHeaders : HeaderMap
  body : List UInt8
  bodyPresent : Bool
  replayableBody : Bool
  method : Method
  requestId : Nat
  attempt : Nat
  initialGeneration : Nat

/-- The local variables of `follow` that survive a hop. -/
structure Carry where
  headers : HeaderMap
  method : Method
  bodyPresent : Bool
  authAllowed : Bool
  generation : Nat

/-- What the outside answers during one iteration of `follow`. -/
structure HopEnv where
  start : Option NetError := none
  updateCancelled : Bool × Bool := (false, false)
  storeUpdate : Url → HeaderMap → Bool := fun _ _ => true
  afterUpdate : Option NetError := none
  auth : AuthAnswer := .applied [] 0
  afterAuth : Option NetError := none
  cookieCancelled : Bool × Bool := (false, false)
  cookies : StoreAnswer := .cookies none
  beforeBuild : Option NetError := none
  build : Option NetError := none
  record : Option NetError := none
  /-- The outcome of `execute_request`: the status and the headers of the response. -/
  execute : Except NetError (Nat × HeaderMap)

/-- The body, and an explicit length of an empty one. -/
def attachBody (present : Bool) (body : List UInt8) (headers : SentHeaders) :
    SentHeaders × Option (List UInt8) :=
  if present then
    if body = [] then
      -- The value is the digit zero.
      (headers ++ [⟨.transport, ⟨"content-length", ⟨[48], false⟩⟩⟩], some body)
    else (headers, some body)
  else (headers, none)

/-- The part of a hop that decides what is kept for the next request. -/
def Carry.redirect (carry : Carry) (status : Nat) (current next : Url) : Carry :=
  let (method, preserveBody) := redirectMethod status carry.method
  let headers := if preserveBody then carry.headers
    else carry.headers.removeAll
      ["content-length", "content-type", "content-encoding", "transfer-encoding"]
  let sameOrigin := current.sameOrigin next
  { carry with
    method
    bodyPresent := carry.bodyPresent && preserveBody
    headers := if sameOrigin then headers else stripSensitiveHeaders headers
    authAllowed := carry.authAllowed && sameOrigin }

/-- Providers, Cookie header and body of a follow-up request. -/
def buildHop (config : HttpClientConfig) (hops : Hops) (env : HopEnv) (carry : Carry)
    (next : Url) : Except NetError (Request × Nat) := do
  let (headers, generation) ←
    applyAuth carry.authAllowed env.auth env.afterAuth (fromCaller carry.headers) carry.generation
  checkCancelled env.cookieCancelled.1 hops.requestId
  let applied := applyCookieHeader config hops.requestId env.cookies headers
  checkCancelled env.cookieCancelled.2 hops.requestId
  let headers ← applied
  report env.beforeBuild
  let (headers, body) := attachBody carry.bodyPresent hops.body headers
  report env.build
  report env.record
  .ok (⟨carry.method, next, headers, body, carry.authAllowed⟩, generation)

/-- What an iteration of `follow` comes to. -/
inductive Prepared where
  | final (response : Response)
  | next (carry : Carry) (request : Request)

/-- One iteration of `follow`, up to the next request. -/
def prepareHop (urls : UrlLibrary) (config : HttpClientConfig) (hops : Hops) (env : HopEnv)
    (original : Url) (followed : Nat) (carry : Carry) (received : Response) :
    Except NetError Prepared := do
  report env.start
  let response ← updateResponseCookies config hops.requestId env.updateCancelled.1
    env.updateCancelled.2 env.storeUpdate received
  report env.afterUpdate
  if config.redirectPolicy.enabled = false ∨ isRedirectStatus response.status = false then
    .ok (.final response)
  else match (HeaderMap.getAll response.headers "location").head? with
    | none => .ok (.final response)
    | some location => do
      let text ← required location.toStr (redirectError .invalidLocation)
      let joined ← required (urls.join response.url text) (redirectError .invalidLocation)
      let next := { joined with fragment := none }
      -- The complete target is authorized before a provider, a request or a connection.
      (config.redirectPolicy.checkRedirect original response.url next followed
        config.effectiveSecurity).mapError redirectError
      if (redirectMethod response.status carry.method).2 ∧ carry.bodyPresent ∧
          hops.replayableBody = false then .ok (.final response)
      else do
        let kept := carry.redirect response.status response.url next
        let (request, generation) ← buildHop config hops env kept next
        .ok (.next { kept with generation } request)

/-! ## The chain -/

/-- The last response, its credential generation and whether these may be refreshed. -/
abbrev Followed := Response × Nat × Bool

/-- The loop of `follow`, with the requests it sends. -/
def followFrom (urls : UrlLibrary) (config : HttpClientConfig) (hops : Hops) (env : Nat → HopEnv)
    (original : Url) : Nat → Nat → Carry → Response → List Request × Except NetError Followed
  | 0, _, _, _ => ([], .error (redirectError .tooManyRedirects))
  | fuel + 1, followed, carry, response =>
    match prepareHop urls config hops (env followed) original followed carry response with
    | .error e => ([], .error e)
    | .ok (.final response) => ([], .ok (response, carry.generation, carry.authAllowed))
    | .ok (.next carry request) =>
      match (env followed).execute with
      | .error e => ([request], .error e)
      | .ok (status, headers) =>
        let rest := followFrom urls config hops env original fuel (followed + 1) carry
          ⟨request.url, status, headers⟩
        (request :: rest.1, rest.2)

/-- `follow`; `fits` is the clock at the validation. -/
def follow (urls : UrlLibrary) (config : HttpClientConfig) (fits : Nat → Bool) (hops : Hops)
    (env : Nat → HopEnv) (response : Response) : List Request × Except NetError Followed :=
  match config.mergeHeaders fits hops.requestHeaders with
  | .error e => ([], .error e)
  | .ok headers =>
    followFrom urls config hops env response.url (config.redirectPolicy.maxRedirects + 1) 0
      ⟨headers, hops.method, hops.bodyPresent, config.auth, hops.initialGeneration⟩ response

/-- `follow_response_hops`: the headers budget may end before the chain or replace its result. -/
def followResponseHops (urls : UrlLibrary) (config : HttpClientConfig) (fits : Nat → Bool)
    (hops : Hops) (before after : Option NetError) (env : Nat → HopEnv) (response : Response) :
    List Request × Except NetError Followed :=
  let identify := fun e : NetError =>
    (e.withHttpRequestId hops.requestId).withHttpAttempt hops.attempt
  match before with
  | some e => ([], .error (identify e))
  | none =>
    let (sent, result) := follow urls config fits hops env response
    match after with
    | some e => (sent, .error (identify e))
    | none => (sent, result.mapError identify)

/-! ## One attempt -/

/-- What the caller asks for. -/
structure Call where
  path : String
  headers : HeaderMap
  body : List UInt8
  bodyPresent : Bool
  replayable : Bool
  method : Method
  requestId : Nat
  attempt : Nat

/-- The answers of everything outside the client during one attempt. -/
structure CallEnv where
  fits : Nat → Bool := fun _ => true
  auth : AuthAnswer := .applied [] 0
  cookieCancelled : Bool × Bool := (false, false)
  cookies : StoreAnswer := .cookies none
  build : Option NetError := none
  record : Option NetError := none
  execute : Except NetError (Nat × HeaderMap)
  followFits : Nat → Bool := fun _ => true
  beforeHops : Option NetError := none
  afterHops : Option NetError := none
  hop : Nat → HopEnv

/-- A body is attached to these methods even when it is empty. -/
def carriesBody (call : Call) : Bool :=
  call.bodyPresent || call.method ∈ [Method.post, .put, .patch]

/-- `build_request`. -/
def buildRequest (urls : UrlLibrary) (config : HttpClientConfig) (call : Call) (env : CallEnv) :
    Except NetError (Request × Nat) := do
  let url ← config.resolveRequestPath urls call.path
  let merged ← config.mergeHeaders env.fits call.headers
  let (headers, generation) ← applyAuth config.auth env.auth none (fromCaller merged) 0
  checkCancelled env.cookieCancelled.1 call.requestId
  let applied := applyCookieHeader config call.requestId env.cookies headers
  checkCancelled env.cookieCancelled.2 call.requestId
  let headers ← applied
  let (headers, body) := attachBody (carriesBody call) call.body headers
  report env.build
  .ok (⟨call.method, url, headers, body, config.auth⟩, generation)

/-- One attempt: a request and the redirects after it. -/
def sendAttempt (urls : UrlLibrary) (config : HttpClientConfig) (call : Call) (env : CallEnv) :
    List Request × Except NetError Followed :=
  match buildRequest urls config call env with
  | .error e => ([], .error e)
  | .ok (request, generation) =>
    match env.record, env.execute with
    | some e, _ => ([], .error e)
    | none, .error e => ([request], .error e)
    | none, .ok (status, headers) =>
      let hops : Hops := ⟨call.headers, call.body, carriesBody call, call.replayable, call.method,
        call.requestId, call.attempt, generation⟩
      let rest := followResponseHops urls config env.followFits hops env.beforeHops env.afterHops
        env.hop ⟨request.url, status, headers⟩
      (request :: rest.1, rest.2)

/-! ## Who put a header on a request -/

variable {generation : Nat} {config : HttpClientConfig} {env : HopEnv} {carry : Carry} {next : Url}
  {request : Request} {merged : HeaderMap}

variable {requestId : Nat} {e : SentHeader} {names : List String} {received : Response}

/-- The Cookie step adds at most a header of the store and renames nothing. -/
theorem mem_applyCookieHeader {answer : StoreAnswer} {headers headers' : SentHeaders}
    (h : applyCookieHeader config requestId answer headers = .ok headers') (he : e ∈ headers') :
    e.source = .store ∨ ∃ e₀ ∈ headers, e₀.source = e.source ∧ e₀.header.name = e.header.name := by
  simp only [applyCookieHeader] at h
  repeat' split at h
  all_goals try cases h
  · exact .inr ⟨e, he, rfl, rfl⟩
  · obtain ⟨e₀, he₀, rfl⟩ := List.mem_map.mp he
    refine .inr ⟨e₀, he₀, rfl, ?_⟩
    simp only [Header.markSensitive]
    split <;> rfl
  · exact .inr ⟨e, he, rfl, rfl⟩
  · rcases List.mem_append.mp he with he | he
    · exact .inr ⟨e, he, rfl, rfl⟩
    · rw [List.mem_singleton] at he
      exact .inl (by rw [he])

theorem mem_attachBody {present : Bool} {body : List UInt8} {headers : SentHeaders}
    (he : e ∈ (attachBody present body headers).1) : e.source = .transport ∨ e ∈ headers := by
  unfold attachBody at he
  split at he
  · split at he
    · rcases List.mem_append.mp he with he | he
      · exact .inr he
      · rw [List.mem_singleton] at he
        exact .inl (by rw [he])
    · exact .inr he
  · exact .inr he

/-- No provider was applied, and no header of a caller has these names. -/
structure Request.Stripped (names : List String) (r : Request) : Prop where
  noAuth : r.authApplied = false
  noProvider : ∀ e ∈ r.headers, e.source ≠ .provider
  noCaller : ∀ e ∈ r.headers, e.source = .caller → e.header.name ∉ names

structure Carry.Stripped (names : List String) (c : Carry) : Prop where
  noAuth : c.authAllowed = false
  noCaller : ∀ h ∈ c.headers, h.name ∉ names

theorem buildHop_url {hops : Hops}
    (h : buildHop config hops env carry next = .ok (request, generation)) : request.url = next := by
  simp only [buildHop, bind_eq_ok, Except.ok.injEq, Prod.mk.injEq] at h
  obtain ⟨_, -, _, -, _, -, _, -, _, -, _, -, _, -, hrequest, -⟩ := h
  rw [← hrequest]

theorem buildHop_stripped {hops : Hops} (hcarry : carry.Stripped names)
    (h : buildHop config hops env carry next = .ok (request, generation)) :
    request.Stripped names := by
  simp only [buildHop, bind_eq_ok, Except.ok.injEq, Prod.mk.injEq] at h
  obtain ⟨⟨authHeaders, _⟩, hauth, _, -, _, -, headers, hcookie, _, -, _, -, _, -, hrequest, -⟩ := h
  simp only [hcarry.noAuth, applyAuth, Bool.false_eq_true, if_false, Except.ok.injEq,
    Prod.mk.injEq] at hauth
  obtain ⟨rfl, -⟩ := hauth
  have hsource : ∀ e ∈ request.headers, e.source = .transport ∨ e.source = .store ∨
      (e.source = .caller ∧ ∃ h ∈ carry.headers, h.name = e.header.name) := by
    intro e he
    rw [← hrequest] at he
    rcases mem_attachBody he with ht | he
    · exact .inl ht
    rcases mem_applyCookieHeader hcookie he with hs | ⟨e₀, he₀, hsrc, hname⟩
    · exact .inr (.inl hs)
    · obtain ⟨h₀, hh₀, rfl⟩ := List.mem_map.mp he₀
      exact .inr (.inr ⟨hsrc.symm, h₀, hh₀, hname⟩)
  refine ⟨?_, ?_, ?_⟩
  · rw [← hrequest]
    exact hcarry.noAuth
  · intro e he hprovider
    rcases hsource e he with h | h | ⟨h, -⟩ <;> rw [h] at hprovider <;> cases hprovider
  · intro e he hcaller
    rcases hsource e he with h | h | ⟨-, h₀, hh₀, hname⟩
    · rw [h] at hcaller; cases hcaller
    · rw [h] at hcaller; cases hcaller
    · rw [← hname]
      exact hcarry.noCaller h₀ hh₀

/-! ## What a hop keeps -/

/-- The kept headers are the caller's of some names, with all values. -/
def Carry.KeptFrom (merged : HeaderMap) (c : Carry) : Prop :=
  ∃ keep : String → Bool, c.headers = merged.filter fun h => keep h.name

theorem keptNames_removeAll {headers : HeaderMap} (names : List String)
    (h : ∃ keep : String → Bool, headers = merged.filter fun h => keep h.name) :
    ∃ keep : String → Bool, headers.removeAll names = merged.filter fun h => keep h.name := by
  obtain ⟨keep, rfl⟩ := h
  refine ⟨fun name => decide (name ∉ names) && keep name, ?_⟩
  rw [HeaderMap.removeAll_eq_filter, List.filter_filter]

/-- Stripping what is left removes every name the full headers would lose: a name that is left still
has its sensitive values. -/
theorem stripSensitiveHeaders_names {headers : HeaderMap}
    (hkept : ∃ keep : String → Bool, headers = merged.filter fun h => keep h.name) :
    ∀ h ∈ stripSensitiveHeaders headers, h.name ∉ strippedNames merged := by
  obtain ⟨keep, rfl⟩ := hkept
  intro h hh hstripped
  rw [stripSensitiveHeaders, HeaderMap.removeAll_eq_filter, List.mem_filter] at hh
  obtain ⟨hleft, hnot⟩ := hh
  refine (of_decide_eq_true hnot) ?_
  rcases List.mem_append.mp hstripped with hs | hs
  · obtain ⟨g, hg, hname⟩ := List.mem_map.mp hs
    obtain ⟨hgm, hgs⟩ := List.mem_filter.mp hg
    have hkeep : keep g.name := by
      rw [hname]
      exact (List.mem_filter.mp hleft).2
    apply List.mem_append_left
    exact List.mem_map.mpr ⟨g, List.mem_filter.mpr ⟨List.mem_filter.mpr ⟨hgm, hkeep⟩, hgs⟩, hname⟩
  · exact List.mem_append_right _ hs

/-- The headers of a hop before the origin is looked at. -/
def Carry.bodyHeaders (carry : Carry) (status : Nat) : HeaderMap :=
  if (redirectMethod status carry.method).2 then carry.headers
  else carry.headers.removeAll
    ["content-length", "content-type", "content-encoding", "transfer-encoding"]

theorem Carry.redirect_headers (carry : Carry) (status : Nat) (current next : Url) :
    (carry.redirect status current next).headers =
      if current.sameOrigin next then carry.bodyHeaders status
      else stripSensitiveHeaders (carry.bodyHeaders status) := rfl

theorem Carry.redirect_authAllowed (carry : Carry) (status : Nat) (current next : Url) :
    (carry.redirect status current next).authAllowed =
      (carry.authAllowed && current.sameOrigin next) := rfl

theorem Carry.KeptFrom.bodyHeaders (h : carry.KeptFrom merged) (status : Nat) :
    ∃ keep : String → Bool, carry.bodyHeaders status = merged.filter fun h => keep h.name := by
  unfold Carry.bodyHeaders
  split
  · exact h
  · exact keptNames_removeAll _ h

theorem Carry.KeptFrom.redirect (h : carry.KeptFrom merged) (status : Nat) (current next : Url) :
    (carry.redirect status current next).KeptFrom merged := by
  unfold Carry.KeptFrom
  rw [Carry.redirect_headers]
  split
  · exact h.bodyHeaders status
  · exact keptNames_removeAll _ (h.bodyHeaders status)

theorem Carry.bodyHeaders_subset (carry : Carry) (status : Nat) :
    carry.bodyHeaders status ⊆ carry.headers := by
  unfold Carry.bodyHeaders
  split
  · exact List.Subset.refl _
  · rw [HeaderMap.removeAll_eq_filter]
    exact List.filter_subset_self _

theorem Carry.Stripped.redirect (h : carry.Stripped names) (status : Nat) (current next : Url) :
    (carry.redirect status current next).Stripped names := by
  constructor
  · rw [Carry.redirect_authAllowed, h.noAuth, Bool.false_and]
  · intro g hg
    apply h.noCaller
    apply carry.bodyHeaders_subset status
    rw [Carry.redirect_headers] at hg
    split at hg
    · exact hg
    · rw [stripSensitiveHeaders, HeaderMap.removeAll_eq_filter] at hg
      exact List.mem_of_mem_filter hg

theorem Carry.KeptFrom.stripped (h : carry.KeptFrom merged) (status : Nat) {current : Url}
    (hcross : current.sameOrigin next = false) :
    (carry.redirect status current next).Stripped (strippedNames merged) := by
  constructor
  · rw [Carry.redirect_authAllowed, hcross, Bool.and_false]
  · intro g hg
    rw [Carry.redirect_headers, if_neg (by simp [hcross])] at hg
    exact stripSensitiveHeaders_names (h.bodyHeaders status) g hg

theorem updateResponseCookies_url {before after : Bool} {store : Url → HeaderMap → Bool}
    {response : Response}
    (h : updateResponseCookies config requestId before after store received = .ok response) :
    response.url = received.url := by
  unfold updateResponseCookies at h
  split at h
  · cases h; rfl
  simp only [bind_eq_ok, Except.ok.injEq] at h
  obtain ⟨_, -, _, -, _, -, hresponse⟩ := h
  rw [← hresponse]

/-- **What a hop that sends a request has done**: authorized its target, decided what to keep, built
the request from that alone. -/
theorem prepareHop_next {urls : UrlLibrary} {hops : Hops} {original : Url} {followed : Nat}
    {carry' : Carry} (h : prepareHop urls config hops env original followed carry received =
      .ok (.next carry' request)) : ∃ status generation,
      config.redirectPolicy.Authorized original received.url request.url followed
        config.effectiveSecurity ∧
      carry' = { carry.redirect status received.url request.url with generation } ∧
      buildHop config hops env (carry.redirect status received.url request.url) request.url =
        .ok (request, generation) := by
  simp only [prepareHop, bind_eq_ok] at h
  obtain ⟨_, -, response, hupdate, _, -, h⟩ := h
  have hurl := updateResponseCookies_url hupdate
  split at h
  · cases h
  split at h
  · cases h
  simp only [bind_eq_ok, required_eq_ok, mapError_eq_ok,
    RedirectPolicy.checkRedirect_eq_ok] at h
  obtain ⟨_, -, joined, -, _, hauthorized, h⟩ := h
  split at h
  · cases h
  simp only [bind_eq_ok, Except.ok.injEq, Prepared.next.injEq] at h
  obtain ⟨⟨built, generation⟩, hbuild, hcarry, rfl⟩ := h
  rw [hurl] at hauthorized hbuild hcarry
  have hnext := buildHop_url hbuild
  rw [← hnext] at hauthorized hbuild hcarry
  exact ⟨response.status, generation, hauthorized, hcarry.symm, hbuild⟩

end OpenNet.Http
