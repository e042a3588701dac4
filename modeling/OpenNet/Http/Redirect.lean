import Mathlib.Data.List.Pairwise
import OpenNet.Error
import OpenNet.Foundation.Fallible

/-!
# Redirect authorization

Model of `src/api/http/redirect.rs`: which redirect targets a client may follow, and over
which transport.  URL parsing and joining belong to the `url` crate: they are functions of
`UrlLibrary` into a record with canonical scheme, host and port.
-/

namespace OpenNet.Http

open Fallible

/-! ## URLs and origins -/

/-- A canonical URL; `port` is absent when it is the default. -/
structure Url where
  scheme : String
  username : String := ""
  password : Option String := none
  host : Option String
  port : Option Nat := none
  path : String := "/"
  query : Option String := none
  fragment : Option String := none
  deriving DecidableEq, Repr

/-- The parts of the `url` crate the client calls. -/
structure UrlLibrary where
  parse : String → Option Url
  join : Url → String → Option Url

structure Origin where
  scheme : String
  host : String
  port : Nat
  deriving DecidableEq, Repr

def knownDefaultPort (scheme : String) : Option Nat :=
  if scheme = "http" ∨ scheme = "ws" then some 80
  else if scheme = "https" ∨ scheme = "wss" then some 443
  else if scheme = "ftp" then some 21
  else none

namespace Url

def portOrKnownDefault (u : Url) : Option Nat :=
  match u.port with
  | some port => some port
  | none => knownDefaultPort u.scheme

/-- `Url::origin`; `none` is opaque and equals no origin. -/
def origin (u : Url) : Option Origin :=
  if u.scheme ∈ ["ftp", "http", "https", "ws", "wss"] then
    match u.host, u.portOrKnownDefault with
    | some host, some port => some ⟨u.scheme, host, port⟩
    | _, _ => none
  else none

/-- Equality of origins as the `url` crate decides it. -/
def sameOrigin (a b : Url) : Bool :=
  match a.origin, b.origin with
  | some x, some y => decide (x = y)
  | _, _ => false

theorem sameOrigin_iff {a b : Url} :
    a.sameOrigin b ↔ ∃ o, a.origin = some o ∧ b.origin = some o := by
  unfold sameOrigin
  cases ha : a.origin <;> cases hb : b.origin <;> simp [eq_comm]

def IsWeb (u : Url) : Prop := u.scheme = "http" ∨ u.scheme = "https"

instance (u : Url) : Decidable u.IsWeb := inferInstanceAs (Decidable (_ ∨ _))

/-- A URL that names an origin and nothing else. -/
def IsOrigin (u : Url) : Prop :=
  u.IsWeb ∧ u.host.isSome ∧ u.username = "" ∧ u.password = none ∧ u.path = "/" ∧
    u.query = none ∧ u.fragment = none

instance (u : Url) : Decidable u.IsOrigin := inferInstanceAs (Decidable (_ ∧ _))

theorem origin_isSome_of_isWeb {u : Url} (hweb : u.IsWeb) (hhost : u.host.isSome) :
    u.origin.isSome := by
  obtain ⟨host, hhost⟩ := Option.isSome_iff_exists.mp hhost
  unfold origin portOrKnownDefault
  rcases hweb with h | h <;> cases hp : u.port <;> simp [h, hhost, knownDefaultPort]

end Url

/-! ## Character classes of the standard library -/

/-- `char::is_control`: the general category Cc. -/
def isControl (c : Char) : Bool := c.toNat < 0x20 || (0x7f ≤ c.toNat && c.toNat < 0xa0)

/-- `char::is_whitespace`: the property White_Space. -/
def isWhitespace (c : Char) : Bool :=
  (0x9 ≤ c.toNat && c.toNat ≤ 0xd) || (0x2000 ≤ c.toNat && c.toNat ≤ 0x200a) ||
    c.toNat ∈ [0x20, 0x85, 0xa0, 0x1680, 0x2028, 0x2029, 0x202f, 0x205f, 0x3000]

def trim (chars : List Char) : List Char :=
  ((chars.dropWhile isWhitespace).reverse.dropWhile isWhitespace).reverse

/-- What follows the first `://`, as `str::split_once` returns it. -/
def afterScheme : List Char → Option (List Char)
  | ':' :: '/' :: '/' :: rest => some rest
  | _ :: rest => afterScheme rest
  | [] => none

/-! ## Policies -/

/-- Whether plain HTTP is allowed. -/
inductive HttpTransportSecurity where
  | preventDowngrade | httpsOnly
  deriving DecidableEq, Repr

/-- Why a redirect is refused. -/
inductive HttpRedirectError where
  | insecureTarget | originNotAllowed | tooManyRedirects | invalidLocation
  deriving DecidableEq, Repr

/-- The displayed text, which never contains the target. -/
def HttpRedirectError.message : HttpRedirectError → String
  | .insecureTarget => "HTTP redirect violates transport security"
  | .originNotAllowed => "HTTP redirect origin is not allowed"
  | .tooManyRedirects => "HTTP redirect limit exceeded"
  | .invalidLocation => "invalid HTTP redirect location"

def defaultMaxRedirects : Nat := 10
def maxRedirectsLimit : Nat := 128
def maxAllowedOrigins : Nat := 128
def maxOriginBytes : Nat := 2048

/-- `invalid_policy`. -/
def invalidPolicy (field : String) : NetError :=
  (NetError.config field "invalid HTTP redirect policy").withStage .configuration

/-- Which redirects may be followed, with its limits. -/
structure RedirectPolicy where
  enabled : Bool
  allowedOrigins : List Url
  maxRedirects : Nat
  areOrigins : ∀ u ∈ allowedOrigins, u.IsOrigin
  distinct : allowedOrigins.Pairwise fun a b => a.sameOrigin b = false
  length_le : allowedOrigins.length ≤ maxAllowedOrigins
  one_le : 1 ≤ maxRedirects
  le_limit : maxRedirects ≤ maxRedirectsLimit

/-- `parse_origin`: checked before normalization collapses a path. -/
def parseOrigin (urls : UrlLibrary) (value : String) : Except NetError Url :=
  let invalid := invalidPolicy "http.redirect.allowed_origins"
  let chars := value.toList
  if value.utf8ByteSize > maxOriginBytes ∨ trim chars ≠ chars ∨ chars.any isControl ∨
      chars.any (· ∈ ['\\', '@', '?', '#']) then .error invalid
  else match afterScheme chars with
    | none => .error invalid
    | some authorityAndPath =>
      if '/' ∈ authorityAndPath ∧ authorityAndPath.dropWhile (· ≠ '/') ≠ ['/'] then
        .error invalid
      else match urls.parse value with
        | none => .error invalid
        | some parsed => if parsed.IsOrigin then .ok parsed else .error invalid

theorem parseOrigin_isOrigin {urls : UrlLibrary} {value : String} {u : Url}
    (h : parseOrigin urls value = .ok u) : u.IsOrigin := by
  simp only [parseOrigin] at h
  repeat' split at h
  all_goals simp_all

namespace RedirectPolicy

/-- `none`. -/
def none : RedirectPolicy where
  enabled := false
  allowedOrigins := []
  maxRedirects := defaultMaxRedirects
  areOrigins := by simp
  distinct := .nil
  length_le := by decide
  one_le := by decide
  le_limit := by decide

/-- `RedirectPolicy::same_origin`, which is also the default. -/
def sameOrigin : RedirectPolicy := { none with enabled := true }

variable (policy : RedirectPolicy)

def lists (u : Url) : Bool :=
  policy.allowedOrigins.any (·.sameOrigin u)

def push (u : Url) (horigin : u.IsOrigin) (hnew : policy.lists u = false)
    (hroom : policy.allowedOrigins.length < maxAllowedOrigins) : RedirectPolicy :=
  { policy with
    allowedOrigins := policy.allowedOrigins ++ [u]
    areOrigins := by
      intro v hv
      rcases List.mem_append.mp hv with hv | hv
      · exact policy.areOrigins v hv
      · rw [List.mem_singleton] at hv
        exact hv ▸ horigin
    distinct := by
      have hfresh : ∀ a ∈ policy.allowedOrigins, a.sameOrigin u = false := by
        simpa [lists, List.any_eq_false] using hnew
      refine List.pairwise_append.mpr ⟨policy.distinct, List.pairwise_singleton _ _, ?_⟩
      intro a ha b hb
      rw [List.mem_singleton.mp hb]
      exact hfresh a ha
    length_le := by rw [List.length_append]; exact hroom }

/-- The loop of `allow_origins`: duplicates are ignored. -/
def allowOriginsFrom (urls : UrlLibrary) (policy : RedirectPolicy) :
    List String → Except NetError RedirectPolicy
  | [] => .ok policy
  | value :: values =>
    match h : parseOrigin urls value with
    | .error e => .error e
    | .ok parsed =>
      if hnew : policy.lists parsed then allowOriginsFrom urls policy values
      else if hroom : policy.allowedOrigins.length < maxAllowedOrigins then
        allowOriginsFrom urls
          (policy.push parsed (parseOrigin_isOrigin h) (by simpa using hnew) hroom) values
      else .error (invalidPolicy "http.redirect.allowed_origins")

/-- `allow_origins`. -/
def allowOrigins (urls : UrlLibrary) (origins : List String) : Except NetError RedirectPolicy :=
  allowOriginsFrom urls sameOrigin origins

/-- `with_max_redirects`. -/
def withMaxRedirects (n : Nat) : Except NetError RedirectPolicy :=
  if h : 1 ≤ n ∧ n ≤ maxRedirectsLimit then
    .ok { policy with maxRedirects := n, one_le := h.1, le_limit := h.2 }
  else .error (invalidPolicy "http.redirect.max_redirects")

/-! ## The check -/

/-- `check_redirect`. -/
def checkRedirect (original current next : Url) (followed : Nat)
    (security : HttpTransportSecurity) : Except HttpRedirectError Unit := do
  ensure (next.IsWeb ∧ next.host.isSome ∧ next.username = "" ∧ next.password.isNone)
    .invalidLocation
  ensure (¬ (next.scheme ≠ "https" ∧ (security = .httpsOnly ∨ current.scheme = "https")))
    .insecureTarget
  ensure (next.sameOrigin original ∨ policy.lists next) .originNotAllowed
  ensure (followed < policy.maxRedirects) .tooManyRedirects

/-- What a policy promises about a target it lets a client follow. -/
structure Authorized (policy : RedirectPolicy) (original current next : Url) (followed : Nat)
    (security : HttpTransportSecurity) : Prop where
  web : next.IsWeb
  host : next.host.isSome
  anonymous : next.username = "" ∧ next.password = Option.none
  /-- Plain HTTP is never reached from HTTPS, and never under an HTTPS-only requirement. -/
  secure : next.scheme = "https" ∨ security ≠ .httpsOnly ∧ current.scheme ≠ "https"
  /-- The target's origin is the original one or a listed one. -/
  confined : next.sameOrigin original ∨ policy.lists next
  bounded : followed < policy.maxRedirects

/-- **The check decides authorization.** -/
theorem checkRedirect_eq_ok {policy : RedirectPolicy} {original current next : Url}
    {followed : Nat} {security : HttpTransportSecurity} {u : Unit} :
    policy.checkRedirect original current next followed security = .ok u ↔
      policy.Authorized original current next followed security := by
  simp only [checkRedirect, check_bind_eq_ok, ensure_eq_ok]
  constructor
  · rintro ⟨⟨hweb, hhost, huser, hpass⟩, hsecure, hconfined, hbounded⟩
    refine ⟨hweb, hhost, ⟨huser, by simpa using hpass⟩, ?_, hconfined, hbounded⟩
    by_cases hscheme : next.scheme = "https"
    · exact .inl hscheme
    · exact .inr ⟨fun h => hsecure ⟨hscheme, .inl h⟩, fun h => hsecure ⟨hscheme, .inr h⟩⟩
  · rintro ⟨hweb, hhost, ⟨huser, hpass⟩, hsecure, hconfined, hbounded⟩
    refine ⟨⟨hweb, hhost, huser, by simp [hpass]⟩, ?_, hconfined, hbounded⟩
    rintro ⟨hscheme, hreason⟩
    rcases hsecure with h | ⟨h₁, h₂⟩
    · exact hscheme h
    · exact hreason.elim h₁ h₂

end RedirectPolicy

end OpenNet.Http
