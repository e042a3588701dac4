import Mathlib.Data.List.Dedup
import OpenNet.Foundation.Checked
import OpenNet.Http.Redirect

/-!
# HTTP client configuration

Model of the parts of `src/api/http/http_config.rs` that every request passes through:
validation, the merge of request headers over client-wide headers, and the resolution of a
request path against the base URL.
-/

namespace OpenNet.Http

open Fallible

/-! ## Headers -/

/-- `sensitive` keeps a value out of logs and redirects. -/
structure HeaderValue where
  bytes : List UInt8
  sensitive : Bool := false
  deriving DecidableEq, Repr

/-- `HeaderValue::to_str`: only visible ASCII and tabs are text. -/
def HeaderValue.toStr (v : HeaderValue) : Option String :=
  if v.bytes.all (fun b => (32 ≤ b.toNat && b.toNat < 127) || b.toNat == 9) then
    some (String.ofList (v.bytes.map fun b => Char.ofNat b.toNat))
  else none

structure Header where
  name : String
  value : HeaderValue
  deriving DecidableEq, Repr

/-- A multimap of headers; the values of one name keep their order. -/
abbrev HeaderMap := List Header

namespace HeaderMap

/-- `HeaderMap::remove`: drop every value of a name. -/
def remove (headers : HeaderMap) (name : String) : HeaderMap :=
  headers.filter fun h => decide (h.name ≠ name)

def getAll (headers : HeaderMap) (name : String) : List HeaderValue :=
  (headers.filter fun h => decide (h.name = name)).map Header.value

def keys (headers : HeaderMap) : List String := (headers.map Header.name).dedup

def removeAll (headers : HeaderMap) (names : List String) : HeaderMap := names.foldl remove headers

theorem removeAll_eq_filter (headers : HeaderMap) (names : List String) :
    removeAll headers names = headers.filter fun h => decide (h.name ∉ names) := by
  unfold removeAll
  induction names generalizing headers with
  | nil =>
    simp only [List.foldl_nil, List.not_mem_nil, not_false_eq_true, decide_true, List.filter_true]
  | cons name names ih =>
    rw [List.foldl_cons, ih, remove, List.filter_filter]
    apply List.filter_congr
    intro h _
    by_cases heq : h.name = name <;> simp [heq]

end HeaderMap

/-! ## Validated parts -/

/-- `invalid_config`. -/
def invalidConfig (field : String) : NetError :=
  (NetError.config field "invalid HTTP client configuration").withStage .configuration

/-- How a request sets a budget. -/
inductive TimeoutSetting where
  | inherit | after (nanos : Nat) | disabled
  deriving DecidableEq, Repr

/-- `validate_duration`; `fits`: the clock represents such a deadline. -/
def validateDuration (fits : Nat → Bool) (nanos : Nat) (field : String) (input : Bool) :
    Except NetError Unit :=
  let fail := if input then NetError.input field else NetError.config field
  if nanos = 0 then .error (fail "timeout must be nonzero")
  else if fits nanos then .ok ()
  else .error (fail "timeout exceeds the monotonic clock range")

/-- The budgets of a request, by phase. -/
structure HttpTimeouts where
  admission : TimeoutSetting := .inherit
  headers : TimeoutSetting := .inherit
  idleRead : TimeoutSetting := .inherit
  attempt : TimeoutSetting := .inherit
  total : TimeoutSetting := .inherit
  deriving DecidableEq, Repr

/-- `validate_with`, in the order of the fields. -/
def HttpTimeouts.validateWith (timeouts : HttpTimeouts) (fits : Nat → Bool) (input : Bool) :
    Except NetError Unit :=
  forEach
    (fun (field, setting) => match setting with
      | .after nanos => validateDuration fits nanos field input
      | _ => .ok ())
    [("http.timeouts.admission", timeouts.admission), ("http.timeouts.headers", timeouts.headers),
      ("http.timeouts.idle_read", timeouts.idleRead), ("http.timeouts.attempt", timeouts.attempt),
      ("http.timeouts.total", timeouts.total)]

/-- The bounds of a cookie jar. -/
structure CookieLimits where
  maxCookies : Nat := 1024
  maxCookieBytes : Nat := 16 * 1024
  maxSetCookieBytes : Nat := 64 * 1024
  maxCookieHeaderBytes : Nat := 64 * 1024
  deriving DecidableEq, Repr

/-- `validate`. -/
def CookieLimits.validate (limits : CookieLimits) : Except NetError Unit :=
  forEach
    (fun (field, value) =>
      ensure (value ≠ 0) (NetError.config field "must be greater than zero"))
    [("cookie_limits.max_cookies", limits.maxCookies),
      ("cookie_limits.max_cookie_bytes", limits.maxCookieBytes),
      ("cookie_limits.max_set_cookie_bytes", limits.maxSetCookieBytes),
      ("cookie_limits.max_cookie_header_bytes", limits.maxCookieHeaderBytes)]

/-- Which HTTP versions are offered. -/
inductive HttpVersionPolicy where
  | auto | http1Only | http2Only
  deriving DecidableEq, Repr

/-- Windows, sizes and keep-alive of HTTP/2. -/
structure Http2Config where
  initialStreamWindow : Option Nat := none
  initialConnectionWindow : Option Nat := none
  maxFrameSize : Option Nat := none
  maxHeaderListSize : Option Nat := none
  /-- Interval and timeout of the keep-alive pings. -/
  keepAlive : Option (Nat × Nat) := none
  deriving DecidableEq, Repr

def maxHttp2Window : Nat := 2 ^ 31 - 1
def minHttp2Frame : Nat := 16384
def maxHttp2Frame : Nat := 16777215

/-- `invalid_http2_config`. -/
def invalidHttp2Config (field : String) : NetError :=
  (NetError.config field "invalid HTTP/2 configuration").withStage .configuration

/-- `validate`. -/
def Http2Config.validate (config : Http2Config) : Except NetError Unit := do
  ensure (config.initialStreamWindow.all fun v => v ≠ 0 ∧ v ≤ maxHttp2Window)
    (invalidHttp2Config "http2.initial_stream_window")
  ensure (config.initialConnectionWindow.all fun v => v ≠ 0 ∧ v ≤ maxHttp2Window)
    (invalidHttp2Config "http2.initial_connection_window")
  ensure (config.maxFrameSize.all fun v => minHttp2Frame ≤ v ∧ v ≤ maxHttp2Frame)
    (invalidHttp2Config "http2.max_frame_size")
  ensure (config.maxHeaderListSize.all fun v => v ≠ 0)
    (invalidHttp2Config "http2.max_header_list_size")
  ensure (config.keepAlive.all fun v => v.1 ≠ 0 ∧ v.2 ≠ 0)
    (invalidHttp2Config "http2.keep_alive")

/-! ## The configuration -/

/-- The configuration of a client. -/
structure HttpClientConfig where
  baseUrl : Url
  commonHeaders : HeaderMap := []
  timeout : Nat
  connectTimeout : Option Nat := none
  timeouts : HttpTimeouts := {}
  redirectPolicy : RedirectPolicy := .sameOrigin
  transportSecurity : HttpTransportSecurity := .preventDowngrade
  tcpKeepalive : Option Nat := none
  maxResponseBytes : Nat
  requestQueueCapacity : Nat
  responseQueueCapacity : Nat
  callbackQueueCapacity : Nat
  /-- A Cookie store is installed. -/
  cookieStore : Bool := false
  cookieLimits : CookieLimits := {}
  /-- An authentication provider is installed. -/
  auth : Bool := false
  httpVersionPolicy : HttpVersionPolicy := .auto
  http2 : Http2Config := {}

/-- `is_hop_by_hop`: names that belong to one connection. -/
def isHopByHop (name : String) : Bool :=
  name ∈ ["connection", "keep-alive", "proxy-connection", "proxy-authenticate",
    "proxy-authorization", "te", "trailer", "transfer-encoding", "upgrade", "host",
    "content-length"]

/-- `validate_headers`. -/
def validateHeaders (headers : HeaderMap) : Except NetError Unit :=
  forEach (fun name => ensure (isHopByHop name = false) (invalidConfig "headers")) headers.keys

def maxPermits : Nat := Checked.u64Max / 8

/-- `validate_queue_capacity`. -/
def validateQueueCapacity (capacity : Nat) (field : String) : Except NetError Unit :=
  ensure (capacity ≠ 0 ∧ capacity ≤ maxPermits) (invalidConfig field)

/-- `invalid_request_path`. -/
def invalidRequestPath : NetError :=
  (NetError.input "request.path" "must be a safe relative path").withStage .requestBuild

namespace HttpClientConfig

/-- `validate`, check by check. -/
def validate (config : HttpClientConfig) (fits : Nat → Bool) : Except NetError Unit := do
  ensure (config.baseUrl.IsWeb ∧ config.baseUrl.host.isSome) (invalidConfig "base_url")
  ensure (config.baseUrl.username = "" ∧ config.baseUrl.password = none ∧
    config.baseUrl.fragment = none) (invalidConfig "base_url")
  ensure (config.transportSecurity = .httpsOnly → config.baseUrl.scheme = "https")
    (invalidConfig "http.transport_security")
  validateDuration fits config.timeout "http.timeout" false
  forEach (validateDuration fits · "http.connect_timeout" false) config.connectTimeout.toList
  config.timeouts.validateWith fits false
  ensure (config.tcpKeepalive ≠ some 0) (invalidConfig "tcp_keepalive")
  ensure (config.maxResponseBytes ≠ 0) (invalidConfig "max_response_bytes")
  validateQueueCapacity config.requestQueueCapacity "request_queue_capacity"
  validateQueueCapacity config.responseQueueCapacity "response_queue_capacity"
  validateQueueCapacity config.callbackQueueCapacity "callback_queue_capacity"
  config.cookieLimits.validate
  config.http2.validate
  ensure (config.httpVersionPolicy = .http2Only → config.baseUrl.scheme = "https")
    (invalidConfig "http_version_policy")
  validateHeaders config.commonHeaders

/-- Each name of the request replaces the common values of that name. -/
def callerHeaders (config : HttpClientConfig) (requestHeaders : HeaderMap) : HeaderMap :=
  requestHeaders.keys.foldl
    (fun merged name => merged.remove name ++ (requestHeaders.getAll name).map (Header.mk name))
    config.commonHeaders

/-- `merge_headers`. -/
def mergeHeaders (config : HttpClientConfig) (fits : Nat → Bool) (requestHeaders : HeaderMap) :
    Except NetError HeaderMap := do
  config.validate fits
  validateHeaders requestHeaders
  .ok (config.callerHeaders requestHeaders)

/-- `resolve_request_path`. -/
def resolveRequestPath (urls : UrlLibrary) (config : HttpClientConfig) (path : String) :
    Except NetError Url :=
  let chars := trim path.toList
  let base := config.baseUrl
  if chars = [] ∨ ['/', '/'].isPrefixOf chars ∨ chars.any (· ∈ ['\\', '#']) ∨
      chars.any isControl then .error invalidRequestPath
  else if ((urls.parse (String.ofList chars)).any
      fun parsed => parsed.scheme ≠ "" ∨ parsed.host.isSome) then .error invalidRequestPath
  else match urls.join base (String.ofList chars) with
    | none => .error invalidRequestPath
    | some joined =>
      if joined.scheme ≠ base.scheme ∨ joined.host ≠ base.host ∨
          joined.portOrKnownDefault ≠ base.portOrKnownDefault ∨ joined.username ≠ "" ∨
          joined.password.isSome ∨ joined.fragment.isSome then .error invalidRequestPath
      else .ok joined

/-- `follow` requires HTTPS of HTTP/2-only clients. -/
def effectiveSecurity (config : HttpClientConfig) : HttpTransportSecurity :=
  if config.httpVersionPolicy = .http2Only then .httpsOnly else config.transportSecurity

variable {config : HttpClientConfig}

/-- A valid base URL is a web URL, and an HTTPS one where HTTPS is required. -/
theorem validate_baseUrl {fits : Nat → Bool} (h : config.validate fits = .ok ()) :
    config.baseUrl.IsWeb ∧ config.baseUrl.host.isSome ∧
      (config.effectiveSecurity = .httpsOnly → config.baseUrl.scheme = "https") := by
  simp only [validate, check_bind_eq_ok, ensure_eq_ok] at h
  obtain ⟨⟨hweb, hhost⟩, -, hsecure, -, -, -, -, -, -, -, -, -, -, hversion, -⟩ := h
  refine ⟨hweb, hhost, ?_⟩
  intro heffective
  unfold effectiveSecurity at heffective
  by_cases hv : config.httpVersionPolicy = .http2Only
  · exact hversion hv
  · rw [if_neg hv] at heffective
    exact hsecure heffective

theorem mergeHeaders_eq_ok {fits : Nat → Bool} {requestHeaders merged : HeaderMap}
    (h : config.mergeHeaders fits requestHeaders = .ok merged) :
    config.validate fits = .ok () ∧ merged = config.callerHeaders requestHeaders := by
  simp only [mergeHeaders, bind_eq_ok, Except.ok.injEq] at h
  obtain ⟨_, hvalid, _, -, hmerged⟩ := h
  exact ⟨hvalid, hmerged.symm⟩

/-- A resolved URL has the scheme, the host and the effective port of the base URL. -/
theorem resolveRequestPath_eq_ok {urls : UrlLibrary} {path : String} {u : Url}
    (h : resolveRequestPath urls config path = .ok u) :
    u.scheme = config.baseUrl.scheme ∧ u.host = config.baseUrl.host ∧
      u.origin = config.baseUrl.origin := by
  simp only [resolveRequestPath] at h
  repeat' split at h
  all_goals try cases h
  rename_i hkept
  simp only [ne_eq, not_or, not_not] at hkept
  obtain ⟨hscheme, hhost, hport, -⟩ := hkept
  refine ⟨hscheme, hhost, ?_⟩
  unfold Url.origin
  rw [hscheme, hhost, hport]

end HttpClientConfig

end OpenNet.Http
