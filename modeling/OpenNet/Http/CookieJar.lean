import Mathlib.Data.List.Basic
import Mathlib.Data.List.Sort
import OpenNet.Foundation.Affix
import OpenNet.Foundation.Utf8
import OpenNet.Http.ResponseHops

/-!
# The cookie jar

Model of `CookieJar` (`src/api/http/cookies.rs`): one bounded table of cookies in the order of
their creation, the admission of `Set-Cookie` headers, the selection for a request and the
validated snapshot.  `&mut Vec<StoredCookie>` is a list that is passed on, and the lock around each
operation makes an operation one step.

The crates `cookie`, `cookie_store`, `url`, `psl`, `http` and `time` are the functions of
`CookieLibrary`.  Readings of the clock are arguments: `now` for the pruning at the start of an
operation, and two per header, one inside `cookie_store` and one for the expiry test.  A failing
allocation is an answer of the environment where it can leave a response half processed; other
allocations, a poisoned lock and sums of lengths beyond `usize` are left out.
-/

namespace OpenNet.Http.CookieJar

open Affix Utf8

/-! ## What the crates answer -/

inductive SameSite where
  | strict | lax | none
  deriving DecidableEq, Repr

/-- `cookie::Cookie` as `RawCookie::parse` reads it. -/
structure RawCookie where
  name : String
  value : String
  domain : Option String := none
  path : Option String := none
  secure : Option Bool := none
  httpOnly : Option Bool := none
  sameSite : Option SameSite := none
  maxAge : Option Int := none
  expires : Option Int := none
  deriving DecidableEq, Repr

inductive CookieDomain where
  | hostOnly (domain : String)
  | suffix (domain : String)
  | notPresent | empty
  deriving DecidableEq, Repr

/-- `cookie_store::CookieExpiration`, by Unix timestamp. -/
inductive CookieExpiration where
  | atUtc (time : Int)
  | sessionEnd
  deriving DecidableEq, Repr

structure ParsedCookie where
  domain : CookieDomain
  path : String
  expires : CookieExpiration
  deriving DecidableEq, Repr

/-- `url::Host`; an address is its text. -/
inductive Host where
  | domain (name : String)
  | ipv4 (address : String)
  | ipv6 (address : String)
  deriving DecidableEq, Repr

def Host.toString : Host → String
  | .domain name => name
  | .ipv4 address => address
  | .ipv6 address => "[" ++ address ++ "]"

/-- The functions of other crates that the jar calls. -/
structure CookieLibrary where
  /-- `HeaderValue::to_str`. -/
  toStr : List UInt8 → Option String
  /-- `RawCookie::parse`. -/
  parse : String → Option RawCookie
  /-- `cookie_store::Cookie::try_from_raw_cookie` at a reading of the clock. -/
  tryFromRawCookie : RawCookie → Url → Int → Option ParsedCookie
  /-- `Host::parse`. -/
  hostParse : String → Option Host
  /-- `Url::host`, the host of a URL with its kind. -/
  host : Url → Option Host
  /-- `psl::suffix` and whether the suffix is a known one. -/
  suffixKnown : String → Option Bool
  /-- `psl::domain_str`. -/
  domainStr : String → Option String
  /-- `OffsetDateTime::from_unix_timestamp` accepts the timestamp. -/
  fromUnixTimestamp : Int → Bool
  /-- `HeaderValue::from_str` accepts the text. -/
  headerValue : String → Bool

/-! ## Entries -/

/-- A cookie of the jar. -/
structure StoredCookie where
  name : String
  value : String
  domain : String
  hostOnly : Bool
  path : String
  secure : Bool
  httpOnly : Bool
  sameSite : Option SameSite
  expiresUnix : Option Int
  deriving DecidableEq, Repr

/-- Who initiated a request, and how. -/
structure CookieRequestContext where
  site : Option Url := none
  topLevelNavigation : Bool := false
  deriving DecidableEq, Repr

/-- `snapshot_error`. -/
def snapshotError : NetError := (NetError.new .invalidInput).withStage .provider

/-- `provider_error`. -/
def providerError : NetError := (NetError.new .providerFailed).withStage .provider

/-- `resource_error`. -/
def resourceError : NetError := (NetError.new .resourceExhausted).withStage .provider

/-- `header_size_error`. -/
def headerSizeError : NetError := (NetError.new .itemTooLarge).withStage .requestBuild

/-- `http_url`. -/
def httpUrl (url : Url) : Bool :=
  (url.scheme == "http" || url.scheme == "https") && url.host.isSome

/-! ## Tests on texts -/

/-- `domain_matches`. -/
def domainMatches (host domain : String) : Bool :=
  host == domain ||
    (host.toList.dropSuffix? domain.toList).any fun front => front.getLast? == some '.'

/-- `path_matches`. -/
def pathMatches (request cookie : String) : Bool :=
  request == cookie ||
    (request.toList.dropPrefix? cookie.toList).any fun remaining =>
      cookie.toList.getLast? == some '/' || remaining.head? == some '/'

def isAsciiAlphanumeric (byte : UInt8) : Bool :=
  (0x30 ≤ byte && byte ≤ 0x39) || (0x41 ≤ byte && byte ≤ 0x5a) || (0x61 ≤ byte && byte ≤ 0x7a)

/-- `valid_pair`: name and value. -/
def validPair (name value : String) : Bool :=
  let validName := name != "" && (bytesOf name).all fun byte =>
    isAsciiAlphanumeric byte || (bytesOf "!#$%&'*+-.^_`|~").contains byte
  let value := (((bytesOf value).dropPrefix? [0x22]).bind (·.dropSuffix? [0x22])).getD
    (bytesOf value)
  validName && value.all fun byte =>
    byte == 0x21 || (0x23 ≤ byte && byte ≤ 0x2b) || (0x2d ≤ byte && byte ≤ 0x3a) ||
      (0x3c ≤ byte && byte ≤ 0x5b) || (0x5d ≤ byte && byte ≤ 0x7e)

/-- `valid_path`. -/
def validPath (path : String) : Bool :=
  path.toList.head? == some '/' && (bytesOf path).all fun byte =>
    (0x20 ≤ byte && byte ≤ 0x3a) || (0x3c ≤ byte && byte ≤ 0x7e)

/-- `valid_prefix`: `__Secure-` and `__Host-`. -/
def validPrefix (name : String) (secure hostOnly rootPath : Bool) : Bool :=
  (!"__Secure-".toList.isPrefixOf name.toList || secure) &&
    (!"__Host-".toList.isPrefixOf name.toList || (secure && hostOnly && rootPath))

/-- `bounded_fields`. -/
def boundedFields (name value domain path : String) (limit : Nat) : Bool :=
  decide (name.utf8ByteSize + value.utf8ByteSize + 1 ≤ limit) &&
    decide (domain.utf8ByteSize ≤ 253) && decide (path.utf8ByteSize ≤ limit)

/-- `valid_domain_scope`. -/
def validDomainScope (lib : CookieLibrary) (domain : String) : Bool :=
  (match lib.hostParse domain with
    | some (.domain _) => true
    | _ => false) &&
    domain.toList.getLast? != some '.' && (lib.domainStr domain).isSome

/-! ## Admission -/

/-- `parse_cookie`: an entry, or nothing. -/
def parseCookie (lib : CookieLibrary) (value : String) (url : Url) (now : Int) :
    Option StoredCookie :=
  match lib.parse value with
  | none => none
  | some raw =>
    let secure := raw.secure == some true
    if !validPair raw.name raw.value || (secure && url.scheme != "https") ||
        (raw.sameSite == some .none && !secure) ||
        !validPrefix raw.name secure raw.domain.isNone (raw.path == some "/") then none
    else
      match lib.tryFromRawCookie raw url now with
      | none => none
      | some parsed =>
        let domain := match parsed.domain with
          | .hostOnly domain => some (domain, true)
          | .suffix domain => if validDomainScope lib domain then some (domain, false) else none
          | _ => none
        match domain with
        | none => none
        | some (domain, hostOnly) =>
          if !validPath parsed.path then none
          else
            some {
              name := raw.name
              value := raw.value
              domain
              hostOnly
              path := parsed.path
              secure
              httpOnly := raw.httpOnly == some true
              sameSite := raw.sameSite
              expiresUnix := match parsed.expires with
                | .atUtc time => some time
                | .sessionEnd => none }

namespace StoredCookie

/-- `expired`. -/
def expired (entry : StoredCookie) (now : Int) : Bool :=
  entry.expiresUnix.any fun expiry => expiry ≤ now

/-- `matches`. -/
def matchesUrl (entry : StoredCookie) (url : Url) : Bool :=
  match url.host with
  | none => false
  | some host =>
    (entry.domain == host || (!entry.hostOnly && domainMatches host entry.domain)) &&
      pathMatches url.path entry.path && (!entry.secure || url.scheme == "https")

def key (entry : StoredCookie) : String × String × String :=
  (entry.name, entry.domain, entry.path)

end StoredCookie

/-- `prune_expired`. -/
def pruneExpired (now : Int) (entries : List StoredCookie) : List StoredCookie :=
  entries.filter fun entry => !entry.expired now

/-- A `Set-Cookie` header with the answers of clock and allocator. -/
structure SetCookie where
  bytes : List UInt8
  parsedAt : Int
  now : Int
  reserved : Bool := true
  deriving DecidableEq, Repr

/-- A header up to `parse_cookie`. -/
def readHeader (lib : CookieLibrary) (limits : CookieLimits) (url : Url) (header : SetCookie) :
    Option StoredCookie :=
  if header.bytes.isEmpty || limits.maxCookieBytes < header.bytes.length then none
  else
    match (lib.toStr header.bytes).bind fun value =>
        parseCookie lib value url header.parsedAt with
    | none => none
    | some entry =>
      if boundedFields entry.name entry.value entry.domain entry.path limits.maxCookieBytes then
        some entry
      else none

/-- A Secure cookie has the name of the entry and an overlapping scope. -/
def overlapsSecure (entries : List StoredCookie) (entry : StoredCookie) : Bool :=
  entries.any fun old =>
    old.secure && old.name == entry.name &&
      (domainMatches old.domain entry.domain || domainMatches entry.domain old.domain) &&
      pathMatches entry.path old.path

/-- The tests before an entry is stored. -/
def acceptable (lib : CookieLibrary) (limits : CookieLimits) (url : Url)
    (entries : List StoredCookie) (header : SetCookie) : Option StoredCookie :=
  match readHeader lib limits url header with
  | none => none
  | some entry =>
    if url.scheme != "https" && overlapsSecure entries entry then none else some entry

/-- Replace, delete or append the entry. -/
def store (limits : CookieLimits) (entries : List StoredCookie) (entry : StoredCookie)
    (now : Int) (reserved : Bool) : Except NetError (List StoredCookie) :=
  let existing := entries.findIdx? fun old =>
    old.name == entry.name && old.domain == entry.domain && old.path == entry.path
  if entry.expired now then
    match existing with
    | some index => .ok (entries.eraseIdx index)
    | none => .ok entries
  else
    match existing with
    | some index =>
      if index < entries.length then .ok (entries.set index entry) else .error providerError
    | none =>
      if entries.length < limits.maxCookies then
        if reserved then .ok (entries ++ [entry]) else .error resourceError
      else .ok entries

/-- What a response leaves behind; `accepted` records the entries that reached the table. -/
structure Received where
  entries : List StoredCookie
  accepted : List StoredCookie := []
  result : Except NetError Unit := .ok ()

/-- The loop over the headers; `total` counts the bytes seen so far. -/
def receive (lib : CookieLibrary) (limits : CookieLimits) (url : Url) :
    List SetCookie → Nat → List StoredCookie → Received
  | [], _, entries => { entries }
  | header :: rest, total, entries =>
    if limits.maxSetCookieBytes < total + header.bytes.length then { entries }
    else
      match acceptable lib limits url entries header with
      | none => receive lib limits url rest (total + header.bytes.length) entries
      | some entry =>
        match store limits entries entry header.now header.reserved with
        | .error error => { entries, accepted := [entry], result := .error error }
        | .ok changed =>
          let later := receive lib limits url rest (total + header.bytes.length) changed
          { later with accepted := entry :: later.accepted }

/-- `set_response_cookies`. -/
def setResponseCookies (lib : CookieLibrary) (limits : CookieLimits) (now : Int) (url : Url)
    (headers : List SetCookie) (entries : List StoredCookie) : Received :=
  let entries := pruneExpired now entries
  if !httpUrl url then { entries } else receive lib limits url headers 0 entries

/-! ## Selection -/

/-- How initiator and target relate. -/
inductive SiteRelation where
  | same | cross | unknown
  deriving DecidableEq, Repr

/-- `known_registrable_domain`. -/
def knownRegistrableDomain (lib : CookieLibrary) (host : String) : Option String :=
  match lib.suffixKnown host with
  | some true => lib.domainStr host
  | _ => none

/-- `schemeful_site`. -/
def schemefulSite (lib : CookieLibrary) (url : Url) : Option (String × String) :=
  if !httpUrl url then none
  else
    match lib.host url with
    | some (.domain host) => (knownRegistrableDomain lib host).map fun site => (url.scheme, site)
    | some (.ipv4 address) => some (url.scheme, address)
    | some (.ipv6 address) => some (url.scheme, address)
    | none => none

/-- `site_relation`. -/
def siteRelation (lib : CookieLibrary) (target : Url) (context : CookieRequestContext) :
    SiteRelation :=
  match context.site with
  | none => .same
  | some site =>
    match schemefulSite lib site, schemefulSite lib target with
    | some left, some right => if left = right then .same else .cross
    | _, _ => .unknown

/-- `same_site_allowed`. -/
def sameSiteAllowed (entry : StoredCookie) (relation : SiteRelation) (method : Method)
    (context : CookieRequestContext) : Bool :=
  match entry.sameSite with
  | some .strict => relation == .same
  | some .lax =>
    relation == .same ||
      (relation == .cross && context.topLevelNavigation &&
        [Method.get, .head, .options, .trace].contains method)
  | some .none => entry.secure
  | none => true

def pathOrder (a b : StoredCookie) : Prop := b.path.utf8ByteSize ≤ a.path.utf8ByteSize

instance : DecidableRel pathOrder := fun a b =>
  inferInstanceAs (Decidable (b.path.utf8ByteSize ≤ a.path.utf8ByteSize))

/-- The cookies of a request, longer paths first. -/
def selected (lib : CookieLibrary) (entries : List StoredCookie) (url : Url) (method : Method)
    (context : CookieRequestContext) : List StoredCookie :=
  (entries.filter fun entry => entry.matchesUrl url &&
    sameSiteAllowed entry (siteRelation lib url context) method context).insertionSort pathOrder

/-- The loop that joins the pairs. -/
def renderHeader (limits : CookieLimits) : List StoredCookie → String → Except NetError String
  | [], header => .ok header
  | entry :: rest, header =>
    let separator := if header = "" then "" else "; "
    let added := separator ++ entry.name ++ "=" ++ entry.value
    if limits.maxCookieHeaderBytes < header.utf8ByteSize + added.utf8ByteSize then
      .error headerSizeError
    else renderHeader limits rest (header ++ added)

/-- `cookies_for_request`. -/
def cookiesForRequest (lib : CookieLibrary) (limits : CookieLimits) (now : Int) (url : Url)
    (method : Method) (context : CookieRequestContext) (entries : List StoredCookie) :
    Except NetError (Option String) × List StoredCookie :=
  let entries := pruneExpired now entries
  if !httpUrl url then (.ok none, entries)
  else
    match renderHeader limits (selected lib entries url method context) "" with
    | .error error => (.error error, entries)
    | .ok header =>
      if header = "" then (.ok none, entries)
      else if lib.headerValue header then (.ok (some header), entries)
      else (.error providerError, entries)

/-! ## Snapshots -/

/-- `SameSite` in a snapshot. -/
inductive SnapshotSameSite where
  | strict | lax | none
  deriving DecidableEq, Repr

/-- `from`. -/
def SnapshotSameSite.ofSameSite : SameSite → SnapshotSameSite
  | .strict => .strict
  | .lax => .lax
  | .none => .none

/-- `from`. -/
def SameSite.ofSnapshot : SnapshotSameSite → SameSite
  | .strict => .strict
  | .lax => .lax
  | .none => .none

/-- A persistent cookie in a snapshot. -/
structure SnapshotRecord where
  name : String
  value : String
  domain : String
  hostOnly : Bool
  path : String
  secure : Bool
  httpOnly : Bool
  sameSite : Option SnapshotSameSite
  expiresUnix : Int
  deriving DecidableEq, Repr

/-- A versioned list of records. -/
structure CookieJarSnapshot where
  schemaVersion : Nat
  cookies : List SnapshotRecord
  deriving DecidableEq, Repr

namespace SnapshotRecord

/-- `valid`. -/
def valid (lib : CookieLibrary) (record : SnapshotRecord) (maximumBytes : Nat) : Bool :=
  let validHost := (lib.hostParse record.domain).any fun host => host.toString == record.domain
  boundedFields record.name record.value record.domain record.path maximumBytes &&
    validPair record.name record.value && validHost && record.domain != "" &&
    (record.hostOnly || validDomainScope lib record.domain) && validPath record.path &&
    (record.sameSite != some .none || record.secure) &&
    validPrefix record.name record.secure record.hostOnly (record.path == "/") &&
    lib.fromUnixTimestamp record.expiresUnix

def key (record : SnapshotRecord) : String × String × String :=
  (record.name, record.domain, record.path)

end SnapshotRecord

def StoredCookie.toRecord (entry : StoredCookie) (expiresUnix : Int) : SnapshotRecord where
  name := entry.name
  value := entry.value
  domain := entry.domain
  hostOnly := entry.hostOnly
  path := entry.path
  secure := entry.secure
  httpOnly := entry.httpOnly
  sameSite := entry.sameSite.map SnapshotSameSite.ofSameSite
  expiresUnix

def SnapshotRecord.toEntry (record : SnapshotRecord) : StoredCookie where
  name := record.name
  value := record.value
  domain := record.domain
  hostOnly := record.hostOnly
  path := record.path
  secure := record.secure
  httpOnly := record.httpOnly
  sameSite := record.sameSite.map SameSite.ofSnapshot
  expiresUnix := some record.expiresUnix

/-- `snapshot`. -/
def snapshot (now : Int) (entries : List StoredCookie) : CookieJarSnapshot × List StoredCookie :=
  let entries := pruneExpired now entries
  (⟨1, entries.filterMap fun entry => entry.expiresUnix.map entry.toRecord⟩, entries)

/-- The loop of `CookieJarSnapshot::validate`; `before` was passed. -/
def validateRecords (lib : CookieLibrary) :
    List SnapshotRecord → List SnapshotRecord → Except NetError Unit
  | _, [] => .ok ()
  | before, record :: rest =>
    if !record.valid lib ({} : CookieLimits).maxCookieBytes ||
        before.any fun other => other.name == record.name && other.domain == record.domain &&
          other.path == record.path then
      .error snapshotError
    else validateRecords lib (before ++ [record]) rest

/-- `validate`. -/
def CookieJarSnapshot.validate (lib : CookieLibrary) (snapshot : CookieJarSnapshot) :
    Except NetError Unit :=
  if snapshot.schemaVersion != 1 ||
      ({} : CookieLimits).maxCookies < snapshot.cookies.length then .error snapshotError
  else validateRecords lib [] snapshot.cookies

/-- The entries of the restored jar, which has the default limits. -/
def fromSnapshot (lib : CookieLibrary) (now : Int) (snapshot : CookieJarSnapshot) :
    Except NetError (List StoredCookie) :=
  match snapshot.validate lib with
  | .error error => .error error
  | .ok () => .ok (pruneExpired now (snapshot.cookies.map SnapshotRecord.toEntry))

/-! ## The scope tests -/

theorem domainMatches_iff {host domain : String} :
    domainMatches host domain ↔ EndsIn '.' host.toList domain.toList := by
  unfold domainMatches EndsIn
  rw [Bool.or_eq_true, beq_iff_eq, Option.any_eq_true, ← String.toList_inj]
  simp only [List.dropSuffix?_eq_some_iff, beq_iff_eq]
  constructor
  · rintro (h | ⟨front, ⟨_, h, rfl⟩, hlast⟩)
    · exact ⟨[], h, .inl rfl⟩
    · exact ⟨front, h, .inr hlast⟩
  · rintro ⟨front, h, rfl | hlast⟩
    · exact .inl h
    · exact .inr ⟨front, ⟨_, h, rfl⟩, hlast⟩

theorem pathMatches_iff {request cookie : String} :
    pathMatches request cookie ↔ Continues '/' request.toList cookie.toList := by
  unfold pathMatches Continues
  rw [Bool.or_eq_true, beq_iff_eq, Option.any_eq_true, ← String.toList_inj]
  simp only [List.dropPrefix?_eq_some_iff, beq_iff_eq, Bool.or_eq_true]
  constructor
  · rintro (h | ⟨rest, ⟨_, h, rfl⟩, hsep⟩)
    · exact ⟨[], by simpa using h, .inl rfl⟩
    · exact ⟨rest, h, .inr hsep⟩
  · rintro ⟨rest, h, rfl | hsep⟩
    · exact .inl (by simpa using h)
    · exact .inr ⟨rest, ⟨_, h, rfl⟩, hsep⟩

/-- The labels of a domain, from the left. -/
def labels (domain : String) : List (List Char) := domain.toList.splitOn '.'

/-- `request` goes on after `cookie` at the boundary of a segment. -/
def PathContinues (request cookie : String) : Prop :=
  cookie.toList <+: request.toList ∧ (cookie = request ∨ cookie.toList.getLast? = some '/' ∨
    request.toList[cookie.toList.length]? = some '/')

theorem pathMatches_iff_continues {request cookie : String} :
    pathMatches request cookie ↔ PathContinues request cookie := by
  have hfollows (part rest : List Char) : (part ++ rest)[part.length]? = rest.head? := by
    rw [List.getElem?_append_right (Nat.le_refl _), Nat.sub_self, List.head?_eq_getElem?]
  rw [pathMatches_iff]
  constructor
  · rintro ⟨rest, hrest, hsep⟩
    rw [PathContinues, ← String.toList_inj, hrest, hfollows]
    refine ⟨List.prefix_append _ _, hsep.imp_left fun hnil => ?_⟩
    rw [hnil, List.append_nil]
  · rintro ⟨⟨rest, hrest⟩, hsep⟩
    rw [← String.toList_inj, ← hrest, hfollows] at hsep
    refine ⟨rest, hrest.symm, hsep.imp_left fun heq => ?_⟩
    exact List.append_right_eq_self.mp heq.symm

/-- A preorder in which the scopes of one text are comparable. -/
structure ScopeOrder (scope : String → String → Bool) : Prop where
  refl : ∀ a, scope a a
  trans : ∀ a b c, scope a b → scope b c → scope a c
  comparable : ∀ whole a b, scope whole a → scope whole b →
    scope a b ∨ scope b a

/-- **Cookie matching**: a domain matches hosts whose labels end in its own, a path the paths that
go on after it at a segment. -/
theorem matching_relations :
    (∀ host domain, domainMatches host domain = true ↔ labels domain <:+ labels host) ∧
    (∀ request cookie, pathMatches request cookie = true ↔
      cookie.toList <+: request.toList ∧ (cookie = request ∨ cookie.toList.getLast? = some '/' ∨
        request.toList[cookie.toList.length]? = some '/')) ∧
    ScopeOrder domainMatches ∧ ScopeOrder pathMatches := by
  refine ⟨fun host domain => domainMatches_iff.trans endsIn_iff_splitOn,
    fun request cookie => pathMatches_iff_continues, ⟨?_, ?_, ?_⟩, ⟨?_, ?_, ?_⟩⟩
  all_goals simp only [domainMatches_iff, pathMatches_iff]
  · exact fun a => .refl _
  · exact fun a b c => .trans
  · intro whole a b ha hb
    exact (Nat.le_total b.toList.length a.toList.length).imp (hb.comparable ha) (ha.comparable hb)
  · exact fun a => .refl _
  · exact fun a b c => .trans
  · intro whole a b ha hb
    exact (Nat.le_total b.toList.length a.toList.length).imp (hb.comparable ha) (ha.comparable hb)

/-! ## Pruning -/

variable {entry : StoredCookie} {now : Int} {lib : CookieLibrary} {url : Url}
  {limits : CookieLimits} {entries : List StoredCookie}

theorem StoredCookie.expired_mono {later : Int} (hle : now ≤ later) (h : entry.expired now) :
    entry.expired later := by
  unfold StoredCookie.expired at *
  rw [Option.any_eq_true] at *
  obtain ⟨expiry, hexpiry, hpast⟩ := h
  exact ⟨expiry, hexpiry, by simp only [decide_eq_true_eq] at *; omega⟩

theorem filter_pruneExpired {later : Int} (hle : now ≤ later) (entries : List StoredCookie) :
    (pruneExpired now entries).filter (!·.expired later) = entries.filter (!·.expired later) := by
  unfold pruneExpired
  rw [List.filter_filter]
  refine List.filter_congr fun entry _ => ?_
  cases hnow : entry.expired now with
  | false => simp
  | true => simp [StoredCookie.expired_mono hle hnow]

/-! ## What a header is read as -/

/-- What an entry that was read from a `Set-Cookie` text satisfies. -/
structure ParsedFrom (lib : CookieLibrary) (url : Url) (now : Int) (raw : RawCookie)
    (parsed : ParsedCookie) (entry : StoredCookie) : Prop where
  crate : lib.tryFromRawCookie raw url now = some parsed
  pair : validPair entry.name entry.value
  plain : entry.secure → url.scheme = "https"
  sameSite : entry.sameSite = some .none → entry.secure
  nameRule : validPrefix entry.name entry.secure raw.domain.isNone (raw.path == some "/")
  scope : (parsed.domain = .hostOnly entry.domain ∧ entry.hostOnly) ∨
    (parsed.domain = .suffix entry.domain ∧ entry.hostOnly = false ∧
      validDomainScope lib entry.domain)
  path : entry.path = parsed.path
  pathRule : validPath entry.path
  expiry : ∀ time, entry.expiresUnix = some time → parsed.expires = .atUtc time

theorem parseCookie_some {value : String} (h : parseCookie lib value url now = some entry) :
    ∃ raw parsed, ParsedFrom lib url now raw parsed entry := by
  unfold parseCookie at h
  split at h
  · cases h
  rename_i raw hraw
  simp only [] at h
  split at h
  · cases h
  rename_i hrules
  simp only [Bool.or_eq_true, Bool.not_eq_true', not_or, Bool.not_eq_false] at hrules
  obtain ⟨⟨⟨hpair, hplain⟩, hsite⟩, hname⟩ := hrules
  split at h
  · cases h
  rename_i parsed hparsed
  split at h
  · cases h
  rename_i domain hostOnly hdomain
  split at h
  · cases h
  rename_i hpath
  obtain rfl := Option.some.inj h
  refine ⟨raw, parsed, hparsed, hpair, ?_, ?_, hname, ?_, rfl, by simpa using hpath, ?_⟩
  · intro hsecure
    have hsecure : raw.secure = some true := by simpa using hsecure
    simpa [hsecure] using hplain
  · intro hnone
    have hnone : raw.sameSite = some .none := hnone
    simpa [hnone] using hsite
  · split at hdomain
    next d hd =>
      obtain ⟨rfl, rfl⟩ : d = domain ∧ true = hostOnly := by simpa using hdomain
      exact .inl ⟨hd, rfl⟩
    next d hd =>
      split at hdomain
      next hvalid =>
        obtain ⟨rfl, rfl⟩ : d = domain ∧ false = hostOnly := by simpa using hdomain
        exact .inr ⟨hd, rfl, hvalid⟩
      next => cases hdomain
    next => cases hdomain
  · intro time htime
    dsimp only at htime
    split at htime
    next t ht => rw [ht, Option.some.inj htime]
    next => cases htime

theorem readHeader_some {header : SetCookie} (h : readHeader lib limits url header = some entry) :
    (∃ raw parsed, ParsedFrom lib url header.parsedAt raw parsed entry) ∧
      boundedFields entry.name entry.value entry.domain entry.path limits.maxCookieBytes =
        true := by
  unfold readHeader at h
  split at h
  · cases h
  split at h
  · cases h
  rename_i e he
  split at h
  next hbound =>
    obtain rfl := Option.some.inj h
    obtain ⟨value, -, hparse⟩ := Option.bind_eq_some_iff.mp he
    exact ⟨parseCookie_some hparse, hbound⟩
  next => cases h

theorem acceptable_some {header : SetCookie}
    (h : acceptable lib limits url entries header = some entry) :
    readHeader lib limits url header = some entry ∧
      (url.scheme ≠ "https" → overlapsSecure entries entry = false) := by
  unfold acceptable at h
  split at h
  · cases h
  rename_i e he
  split at h
  next => cases h
  next hfree =>
    obtain rfl := Option.some.inj h
    exact ⟨he, fun hplain => by simpa [hplain] using hfree⟩

/-! ## What a header can do to the table -/

/-- An accepted entry does nothing, deletes or replaces the cookie with its key, or joins a table
that has none and is not full. -/
inductive Stored (limits : CookieLimits) (entry : StoredCookie) :
    List StoredCookie → List StoredCookie → Prop where
  | kept (entries : List StoredCookie) : Stored limits entry entries entries
  | deleted (front back : List StoredCookie) (old : StoredCookie) (hkey : old.key = entry.key) :
    Stored limits entry (front ++ old :: back) (front ++ back)
  | replaced (front back : List StoredCookie) (old : StoredCookie) (hkey : old.key = entry.key) :
    Stored limits entry (front ++ old :: back) (front ++ entry :: back)
  | appended (entries : List StoredCookie) (hnew : entry.key ∉ entries.map StoredCookie.key)
    (hroom : entries.length < limits.maxCookies) : Stored limits entry entries (entries ++ [entry])

theorem Stored.source {changed : List StoredCookie} (h : Stored limits entry entries changed) :
    ∀ e ∈ changed, e ∈ entries ∨ e = entry := by
  intro e he
  cases h with
  | kept => exact .inl he
  | deleted front back old =>
    rcases List.mem_append.mp he with he | he
    · exact .inl (List.mem_append_left _ he)
    · exact .inl (List.mem_append_right _ (List.mem_cons_of_mem old he))
  | replaced front back old =>
    rcases List.mem_append.mp he with he | he
    · exact .inl (List.mem_append_left _ he)
    rcases List.mem_cons.mp he with rfl | he
    · exact .inr rfl
    · exact .inl (List.mem_append_right _ (List.mem_cons_of_mem old he))
  | appended => simpa using he

theorem findIdx?_split {p : StoredCookie → Bool} {index : Nat}
    (h : entries.findIdx? p = some index) :
    ∃ front old back, entries = front ++ old :: back ∧ front.length = index ∧ p old := by
  obtain ⟨hlt, hp, -⟩ := List.findIdx?_eq_some_iff_getElem.mp h
  refine ⟨entries.take index, entries[index], entries.drop (index + 1), ?_, ?_, hp⟩
  · rw [← List.drop_eq_getElem_cons hlt, List.take_append_drop]
  · exact List.length_take_of_le hlt.le

theorem sameKey_iff {old : StoredCookie} :
    (old.name == entry.name && old.domain == entry.domain && old.path == entry.path) ↔
      old.key = entry.key := by
  simp [StoredCookie.key, and_assoc]

theorem store_ok {changed : List StoredCookie} {reserved : Bool}
    (h : store limits entries entry now reserved = .ok changed) :
    Stored limits entry entries changed := by
  unfold store at h
  cases hfind : entries.findIdx? fun old =>
      old.name == entry.name && old.domain == entry.domain && old.path == entry.path with
  | some index =>
    obtain ⟨front, old, back, rfl, rfl, hsame⟩ := findIdx?_split hfind
    rw [sameKey_iff] at hsame
    simp only [hfind] at h
    split at h
    · obtain rfl : front ++ back = changed := by simpa [List.eraseIdx_append] using h
      exact .deleted front back old hsame
    · obtain rfl : front ++ entry :: back = changed := by simpa using h
      exact .replaced front back old hsame
  | none =>
    have hnew : entry.key ∉ entries.map StoredCookie.key := by
      rintro hmem
      obtain ⟨old, hold, hkey⟩ := List.mem_map.mp hmem
      have := List.findIdx?_eq_none_iff.mp hfind old hold
      rw [sameKey_iff.mpr hkey] at this
      cases this
    simp only [hfind] at h
    split at h
    · obtain rfl : entries = changed := by simpa using h
      exact .kept _
    split at h
    next hroom =>
      split at h
      · obtain rfl : entries ++ [entry] = changed := by simpa using h
        exact .appended entries hnew hroom
      · cases h
    next =>
      obtain rfl : entries = changed := by simpa using h
      exact .kept _

/-- The induction rule of the loop: what every accepted entry keeps holds in the end and whenever an
accepted entry arrived. -/
theorem receive_spec (lib : CookieLibrary) (limits : CookieLimits) (url : Url)
    {I : List StoredCookie → Prop}
    (hstep : ∀ entries header entry changed, I entries →
      acceptable lib limits url entries header = some entry →
      Stored limits entry entries changed → I changed) :
    ∀ (headers : List SetCookie) (total : Nat) {entries : List StoredCookie}, I entries →
      I (receive lib limits url headers total entries).entries ∧
        ∀ e ∈ (receive lib limits url headers total entries).accepted,
          ∃ table header, I table ∧ acceptable lib limits url table header = some e
  | [], _, _, h => ⟨h, nofun⟩
  | header :: rest, total, entries, h => by
    unfold receive
    split
    · exact ⟨h, nofun⟩
    split
    next => exact receive_spec lib limits url hstep rest _ h
    next entry hacc =>
      have here : ∃ table header, I table ∧ acceptable lib limits url table header = some entry :=
        ⟨entries, header, h, hacc⟩
      split
      next =>
        refine ⟨h, fun e he => ?_⟩
        obtain rfl := List.mem_singleton.mp he
        exact here
      next changed hstore =>
        obtain ⟨hend, hlater⟩ :=
          receive_spec lib limits url hstep rest _ (hstep _ _ _ _ h hacc (store_ok hstore))
        refine ⟨hend, fun e he => ?_⟩
        obtain rfl | he := List.mem_cons.mp he
        · exact here
        · exact hlater e he

theorem receive_source :
    ∀ (headers : List SetCookie) (total : Nat) {entries : List StoredCookie},
      ∀ e ∈ (receive lib limits url headers total entries).entries,
        e ∈ entries ∨ e ∈ (receive lib limits url headers total entries).accepted
  | [], _, _ => fun _ he => .inl he
  | header :: rest, total, entries => by
    unfold receive
    split
    · exact fun _ he => .inl he
    split
    next => exact receive_source rest _
    next entry hacc =>
      split
      next => exact fun _ he => .inl he
      next changed hstore =>
        intro e he
        obtain hmem | hmem := receive_source rest _ e he
        · rcases (store_ok hstore).source e hmem with hold | rfl
          · exact .inl hold
          · exact .inr List.mem_cons_self
        · exact .inr (List.mem_cons_of_mem _ hmem)

end OpenNet.Http.CookieJar
