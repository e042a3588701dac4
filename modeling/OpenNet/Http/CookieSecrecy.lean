import OpenNet.Http.CookieJar

/-!
# Secure cookies and plaintext responses

A response that did not arrive over TLS must not touch a Secure cookie, neither in the table nor
by putting a cookie of the same name in front of it in a later header.

A key collision with a Secure cookie always counts as an overlap.  Two cookies that match one
request have comparable domains, and comparable paths, so an entry that passes the test has a
shorter path than the Secure cookie and is sorted behind it.
-/

namespace OpenNet.Http.CookieJar

open Affix Utf8

variable {lib : CookieLibrary} {limits : CookieLimits} {url : Url}

/-! ## The table -/

variable {entries : List StoredCookie} {c entry e : StoredCookie} {method : Method}
  {context : CookieRequestContext} {request : Url}

theorem overlapsSecure_of (hc : c ∈ entries) (hsecure : c.secure)
    (hname : entry.name = c.name) (hdomain : EndsIn '.' c.domain.toList entry.domain.toList ∨
      EndsIn '.' entry.domain.toList c.domain.toList)
    (hpath : Continues '/' entry.path.toList c.path.toList) : overlapsSecure entries entry := by
  unfold overlapsSecure
  rw [List.any_eq_true]
  refine ⟨c, hc, ?_⟩
  rw [Bool.and_eq_true, Bool.and_eq_true, Bool.and_eq_true, Bool.or_eq_true]
  exact ⟨⟨⟨hsecure, by simp [hname]⟩, hdomain.imp domainMatches_iff.mpr domainMatches_iff.mpr⟩,
    pathMatches_iff.mpr hpath⟩

/-- Over plaintext an accepted entry is not Secure and takes no key of a Secure cookie. -/
theorem acceptable_plain {header : SetCookie} (hplain : url.scheme ≠ "https")
    (h : acceptable lib limits url entries header = some entry) :
    entry.secure = false ∧ overlapsSecure entries entry = false ∧
      ∀ old ∈ entries, old.key = entry.key → old.secure = false := by
  obtain ⟨hread, hfree⟩ := acceptable_some h
  obtain ⟨⟨raw, parsed, hparsed⟩, -⟩ := readHeader_some hread
  have hnot : entry.secure = false := by
    by_contra hsecure
    exact hplain (hparsed.plain (by simpa using hsecure))
  refine ⟨hnot, hfree hplain, fun old hold hkey => ?_⟩
  by_contra hsecure
  obtain ⟨hname, hdomain, hpath⟩ :
      old.name = entry.name ∧ old.domain = entry.domain ∧ old.path = entry.path := by
    simpa [StoredCookie.key] using hkey
  have hoverlap : overlapsSecure entries entry :=
    overlapsSecure_of hold (by simpa using hsecure) hname.symm
      (.inl (hdomain ▸ EndsIn.refl _)) (hpath ▸ Continues.refl _)
  rw [hfree hplain] at hoverlap
  cases hoverlap

theorem Stored.filter_secure {changed : List StoredCookie} (h : Stored limits entry entries changed)
    (hentry : entry.secure = false)
    (hold : ∀ old ∈ entries, old.key = entry.key → old.secure = false) :
    changed.filter (·.secure) = entries.filter (·.secure) := by
  cases h with
  | kept => rfl
  | deleted front back old hkey =>
    have hnot := hold old (List.mem_append_right _ List.mem_cons_self) hkey
    simp [hnot]
  | replaced front back old hkey =>
    have hnot := hold old (List.mem_append_right _ List.mem_cons_self) hkey
    simp [hnot, hentry]
  | appended => simp [hentry]

/-- The loop leaves the Secure cookies alone, and none of them overlaps with an accepted entry. -/
theorem receive_plain (hplain : url.scheme ≠ "https") (headers : List SetCookie) (total : Nat)
    (entries : List StoredCookie) :
    (receive lib limits url headers total entries).entries.filter (·.secure) =
        entries.filter (·.secure) ∧
      ∀ e ∈ (receive lib limits url headers total entries).accepted, e.secure = false ∧
        ∃ table : List StoredCookie, table.filter (·.secure) = entries.filter (·.secure) ∧
          overlapsSecure table e = false := by
  obtain ⟨hend, haccepted⟩ := receive_spec lib limits url
    (I := fun table => table.filter (·.secure) = entries.filter (·.secure))
    (fun table header entry changed hI hacc hstored => by
      obtain ⟨hnot, -, hkeys⟩ := acceptable_plain hplain hacc
      exact (hstored.filter_secure hnot hkeys).trans hI) headers total rfl
  refine ⟨hend, fun e he => ?_⟩
  obtain ⟨table, header, htable, hacc⟩ := haccepted e he
  obtain ⟨hnot, hfree, -⟩ := acceptable_plain hplain hacc
  exact ⟨hnot, table, htable, hfree⟩

def secureEntries (time : Int) (entries : List StoredCookie) : List StoredCookie :=
  entries.filter fun entry => entry.secure && !entry.expired time

theorem secureEntries_eq (time : Int) (entries : List StoredCookie) :
    secureEntries time entries = (entries.filter (·.secure)).filter (!·.expired time) := by
  rw [List.filter_filter]
  exact List.filter_congr fun entry _ => Bool.and_comm _ _

/-- **A plaintext response leaves unexpired Secure cookies as they are**, now and at every later
time. -/
theorem secure_entries_unchanged (lib : CookieLibrary) (limits : CookieLimits) (now : Int)
    (url : Url) (headers : List SetCookie) (entries : List StoredCookie)
    (hplain : url.scheme ≠ "https") (delay : Nat) : secureEntries (now + delay)
        (setResponseCookies lib limits now url headers entries).entries =
      secureEntries (now + delay) entries := by
  have hsecure : (setResponseCookies lib limits now url headers entries).entries.filter
      (·.secure) = (pruneExpired now entries).filter (·.secure) := by
    unfold setResponseCookies
    simp only []
    split
    · rfl
    · exact (receive_plain hplain headers 0 _).1
  calc secureEntries (now + delay) (setResponseCookies lib limits now url headers entries).entries
      = ((pruneExpired now entries).filter (·.secure)).filter (!·.expired (now + delay)) := by
        rw [secureEntries_eq, hsecure]
    _ = ((pruneExpired now entries).filter (!·.expired (now + delay))).filter (·.secure) :=
        List.filter_comm ..
    _ = (entries.filter (!·.expired (now + delay))).filter (·.secure) := by
        rw [filter_pruneExpired (by omega)]
    _ = secureEntries (now + delay) entries := by
        rw [secureEntries_eq]
        exact List.filter_comm ..

/-! ## The header -/

def StoredCookie.pair (entry : StoredCookie) : String := entry.name ++ "=" ++ entry.value

def headerText : List StoredCookie → String
  | [] => ""
  | entry :: rest => entry.pair ++ rest.foldr (fun e text => "; " ++ e.pair ++ text) ""

theorem StoredCookie.pair_ne_empty (entry : StoredCookie) : entry.pair ≠ "" := by
  intro h
  have := congrArg String.toList h
  simp [StoredCookie.pair] at this

theorem append_ne_empty {a b : String} (h : a ≠ "") : a ++ b ≠ "" := by
  intro hab
  have : a.toList ++ b.toList = [] := by simpa using congrArg String.toList hab
  exact h (String.toList_inj.mp (List.append_eq_nil_iff.mp this).1)

theorem renderHeader_started {rest : List StoredCookie} :
    ∀ {header : String}, header ≠ "" → header.utf8ByteSize ≤ limits.maxCookieHeaderBytes →
      let text := header ++ rest.foldr (fun e text => "; " ++ e.pair ++ text) ""
      renderHeader limits rest header =
        if limits.maxCookieHeaderBytes < text.utf8ByteSize then .error headerSizeError
        else .ok text := by
  induction rest with
  | nil =>
    intro header _ hfits
    simp [renderHeader, Nat.not_lt.mpr hfits]
  | cons entry rest ih =>
    intro header hstarted hfits text
    rw [renderHeader, if_neg hstarted]
    by_cases hlong : limits.maxCookieHeaderBytes <
        header.utf8ByteSize + ("; " ++ entry.name ++ "=" ++ entry.value).utf8ByteSize
    · rw [if_pos hlong, if_pos]
      simp only [text, StoredCookie.pair, List.foldr_cons, String.utf8ByteSize_append] at hlong ⊢
      omega
    · rw [if_neg hlong, ih (append_ne_empty hstarted)]
      · simp [text, StoredCookie.pair, String.append_assoc]
      · rw [String.utf8ByteSize_append]
        omega

/-- The header is rendered unless it is longer than the limit. -/
theorem renderHeader_eq (limits : CookieLimits) (entries : List StoredCookie) :
    renderHeader limits entries "" =
      if limits.maxCookieHeaderBytes < (headerText entries).utf8ByteSize then .error headerSizeError
      else .ok (headerText entries) := by
  cases entries with
  | nil => simp [renderHeader, headerText]
  | cons entry rest =>
    have hadded : "" ++ entry.name ++ "=" ++ entry.value = entry.pair := by
      simp [StoredCookie.pair]
    rw [renderHeader, if_pos rfl, hadded]
    by_cases hlong : limits.maxCookieHeaderBytes < entry.pair.utf8ByteSize
    · rw [if_pos (by simpa using hlong), if_pos]
      rw [headerText, String.utf8ByteSize_append]
      omega
    · rw [if_neg (by simpa using hlong), String.empty_append,
        renderHeader_started entry.pair_ne_empty (Nat.le_of_not_lt hlong)]
      rfl

theorem headerText_eq_empty {entries : List StoredCookie} :
    headerText entries = "" ↔ entries = [] := by
  cases entries with
  | nil => simp [headerText]
  | cons entry rest => simp [headerText, append_ne_empty entry.pair_ne_empty]

/-- What a jar answers to a request for an HTTP URL. -/
theorem cookiesForRequest_eq {now : Int} (hhttp : httpUrl url) :
    let shown := selected lib (pruneExpired now entries) url method context
    (cookiesForRequest lib limits now url method context entries).1 =
      if shown = [] then .ok none
      else if limits.maxCookieHeaderBytes < (headerText shown).utf8ByteSize then
        .error headerSizeError
      else if lib.headerValue (headerText shown) then .ok (some (headerText shown))
      else .error providerError := by
  intro shown
  unfold cookiesForRequest
  simp only [hhttp, Bool.not_true, Bool.false_eq_true, if_false]
  rw [renderHeader_eq]
  by_cases hempty : shown = []
  · have hnone : selected lib (pruneExpired now entries) url method context = [] := hempty
    simp [hempty, hnone, headerText]
  · have hstarted : ¬ headerText shown = "" := mt headerText_eq_empty.mp hempty
    rw [if_neg hempty]
    split
    · rename_i error herror
      split at herror
      next hlong => rw [if_pos hlong, Except.error.inj herror]
      next => cases herror
    · rename_i text htext
      split at htext
      next => cases htext
      next hfits =>
        obtain rfl := Except.ok.inj htext
        rw [if_neg hfits, if_neg hstarted]
        split <;> rfl

theorem cookiesForRequest_header {now : Int} {header : String}
    (h : (cookiesForRequest lib limits now url method context entries).1 = .ok (some header)) :
    header = headerText (selected lib (pruneExpired now entries) url method context) := by
  by_cases hhttp : httpUrl url
  · rw [cookiesForRequest_eq hhttp] at h
    split at h
    · cases h
    split at h
    · cases h
    split at h
    · simpa using h.symm
    · cases h
  · simp [cookiesForRequest, hhttp] at h

/-! ## The order of two cookies of one name -/

theorem StoredCookie.matchesUrl_scope (h : entry.matchesUrl request) :
    ∃ host, request.host = some host ∧ EndsIn '.' host.toList entry.domain.toList ∧
      Continues '/' request.path.toList entry.path.toList := by
  unfold StoredCookie.matchesUrl at h
  split at h
  · cases h
  rename_i host hhost
  simp only [Bool.and_eq_true, Bool.or_eq_true, beq_iff_eq] at h
  obtain ⟨⟨hdomain, hpath⟩, -⟩ := h
  refine ⟨host, hhost, ?_, pathMatches_iff.mp hpath⟩
  rcases hdomain with hdomain | ⟨-, hdomain⟩
  · rw [hdomain]
    exact EndsIn.refl _
  · exact domainMatches_iff.mp hdomain

/-- If a request matches a Secure cookie and an entry of its name without overlap, the entry has the
shorter path. -/
theorem shorter_path {table : List StoredCookie} (hc : c ∈ table) (hsecure : c.secure)
    (hname : e.name = c.name) (hfree : overlapsSecure table e = false)
    (hmatch : c.matchesUrl request) (hmatch' : e.matchesUrl request) :
    e.path.utf8ByteSize < c.path.utf8ByteSize := by
  obtain ⟨host, hhost, hdomain, hpath⟩ := StoredCookie.matchesUrl_scope hmatch
  obtain ⟨host', hhost', hdomain', hpath'⟩ := StoredCookie.matchesUrl_scope hmatch'
  obtain rfl : host = host' := by rw [hhost] at hhost'; exact Option.some.inj hhost'
  have hcomparable : EndsIn '.' c.domain.toList e.domain.toList ∨
      EndsIn '.' e.domain.toList c.domain.toList := by
    rcases Nat.le_total e.domain.toList.length c.domain.toList.length with hlen | hlen
    · exact .inl (hdomain'.comparable hdomain hlen)
    · exact .inr (hdomain.comparable hdomain' hlen)
  have hnot : ¬ c.path.toList.length ≤ e.path.toList.length := by
    intro hlen
    have := overlapsSecure_of hc hsecure hname hcomparable (hpath.comparable hpath' hlen)
    rw [hfree] at this
    cases this
  -- Both paths start the path of the request, so the shorter one starts the other.
  obtain ⟨rest, hrest, -⟩ := hpath'.comparable hpath (by omega)
  have hsplit : c.path = e.path ++ String.ofList rest := by
    rw [← String.toList_inj]
    simpa using hrest
  have hnonempty : (String.ofList rest).utf8ByteSize ≠ 0 := by
    rw [Ne, String.utf8ByteSize_eq_zero_iff, ← String.toList_inj]
    rintro hempty
    rw [hrest] at hnot
    simp_all
  rw [hsplit, String.utf8ByteSize_append]
  omega

instance : Std.Total pathOrder := ⟨fun a b => Nat.le_total b.path.utf8ByteSize a.path.utf8ByteSize⟩

instance : IsTrans StoredCookie pathOrder := ⟨fun _ _ _ hab hbc => Nat.le_trans hbc hab⟩

theorem mem_selected (h : e ∈ selected lib entries request method context) :
    e ∈ entries ∧ e.matchesUrl request := by
  have hfilter := List.mem_filter.mp ((List.mem_insertionSort _).mp h)
  exact ⟨hfilter.1, (Bool.and_eq_true .. ▸ hfilter.2).1⟩

def AddedOrChanged (before : List StoredCookie) (received : Received) (e : StoredCookie) : Prop :=
  e ∈ received.entries ∧ (e ∈ received.accepted ∨ e ∉ before)

/-- What a plaintext response added or changed overlaps with no Secure cookie that was there. -/
theorem setResponseCookies_plain {now : Int} {headers : List SetCookie} {before : List StoredCookie}
    (hplain : url.scheme ≠ "https")
    (hnew : AddedOrChanged before (setResponseCookies lib limits now url headers before) e) :
    ∃ table : List StoredCookie,
      table.filter (·.secure) = (pruneExpired now before).filter (·.secure) ∧
        overlapsSecure table e = false := by
  obtain ⟨hmem, hchange⟩ := hnew
  unfold setResponseCookies at hmem hchange
  simp only [] at hmem hchange
  split at hmem
  next hother =>
    -- A URL that is not an HTTP one only prunes the table.
    rw [if_pos hother] at hchange
    rcases hchange with haccepted | habsent
    · cases haccepted
    · exact absurd (List.mem_of_mem_filter hmem) habsent
  next hhttp =>
    rw [if_neg hhttp] at hchange
    have haccepted : e ∈ (receive lib limits url headers 0 (pruneExpired now before)).accepted := by
      rcases hchange with haccepted | habsent
      · exact haccepted
      rcases receive_source headers 0 e hmem with hold | haccepted
      · exact absurd (List.mem_of_mem_filter hold) habsent
      · exact haccepted
    exact ((receive_plain hplain headers 0 _).2 e haccepted).2

/-- **No plaintext response shadows a Secure cookie.** `c` is in the table when the response
arrives, `e` is a cookie of its name that the response adds or changes. In a later header, whatever
happened to the table in between, `e` does not stand before `c`. -/
theorem no_plaintext_shadowing (lib : CookieLibrary) (limits : CookieLimits) (now : Int)
    (url : Url) (headers : List SetCookie) (before : List StoredCookie)
    (hplain : url.scheme ≠ "https") (c e : StoredCookie) (hc : c ∈ before)
    (hsecure : c.secure = true) (hlive : c.expired now = false) (hname : e.name = c.name)
    (hnew : AddedOrChanged before (setResponseCookies lib limits now url headers before) e)
    (table : List StoredCookie) (later : Int) (request : Url) (method : Method)
    (context : CookieRequestContext) :
    let shown := selected lib (pruneExpired later table) request method context
    (∀ header, (cookiesForRequest lib limits later request method context table).1 =
        .ok (some header) → header = headerText shown) ∧
      ¬ [e, c].Sublist shown := by
  intro shown
  refine ⟨fun header h => cookiesForRequest_header h, fun horder => ?_⟩
  obtain ⟨-, hmatch⟩ := mem_selected (horder.subset (List.mem_cons_of_mem e List.mem_cons_self))
  obtain ⟨-, hmatch'⟩ := mem_selected (horder.subset List.mem_cons_self)
  obtain ⟨arrival, hsame, hfree⟩ := setResponseCookies_plain hplain hnew
  have hpresent : c ∈ (pruneExpired now before).filter (·.secure) :=
    List.mem_filter.mpr ⟨List.mem_filter.mpr ⟨hc, by simp [hlive]⟩, hsecure⟩
  rw [← hsame] at hpresent
  have hshort :=
    shorter_path (List.mem_of_mem_filter hpresent) hsecure hname hfree hmatch hmatch'
  have hlong := (List.pairwise_insertionSort pathOrder _).sublist horder
  simp only [pathOrder, List.pairwise_cons, List.mem_singleton, forall_eq] at hlong
  omega

/-! ## A run -/

/-- A library that knows no attribute but `Max-Age`. -/
def plainLibrary : CookieLibrary where
  toStr bytes := some (String.ofList (bytes.map fun byte => Char.ofNat byte.toNat))
  parse text :=
    let (pair, attributes) := text.toList.span (· ≠ ';')
    match pair.span (· ≠ '=') with
    | (name, _ :: value) => some {
        name := String.ofList name
        value := String.ofList value
        maxAge := (attributes.dropPrefix? "; Max-Age=".toList).map
          (·.foldl (fun seconds digit => 10 * seconds + (digit.toNat - '0'.toNat)) 0) }
    | (_, []) => none
  tryFromRawCookie raw url now :=
    match url.host with
    | some host =>
      if host = "" then none
      -- A cookie without an age ends with the session.
      else some ⟨.hostOnly host, "/", raw.maxAge.elim .sessionEnd fun age => .atUtc (now + age)⟩
    | none => none
  hostParse text := if text = "" then none else some (.domain text)
  host url := url.host.map .domain
  suffixKnown _ := some true
  domainStr := some
  fromUnixTimestamp _ := true
  headerValue _ := true

/-- A Secure session cookie for the pages below `/login`. -/
def loginCookie : StoredCookie where
  name := "id"
  value := "7"
  domain := "example.com"
  hostOnly := true
  path := "/login"
  secure := true
  httpOnly := false
  sameSite := none
  expiresUnix := none

/-- Two cookies for a minute, received at time 10. -/
def plainHeaders : List SetCookie :=
  [⟨bytesOf "id=8; Max-Age=60", 10, 10, true⟩, ⟨bytesOf "x=9; Max-Age=60", 10, 10, true⟩]

def plainOrigin : Url := { scheme := "http", host := some "example.com" }

theorem secure_entries_unchanged_run :
    (setResponseCookies plainLibrary {} 10 plainOrigin plainHeaders [loginCookie]).entries.length =
        3 ∧
      secureEntries (10 + (5 : Nat)) (setResponseCookies plainLibrary {} 10 plainOrigin plainHeaders
        [loginCookie]).entries = secureEntries (10 + (5 : Nat)) [loginCookie] :=
  ⟨by decide +kernel,
    secure_entries_unchanged plainLibrary {} 10 plainOrigin plainHeaders [loginCookie]
      (by decide) 5⟩

/-- The cookie that `plainHeaders` puts beside `loginCookie`. -/
def plainCookie : StoredCookie where
  name := "id"
  value := "8"
  domain := "example.com"
  hostOnly := true
  path := "/"
  secure := false
  httpOnly := false
  sameSite := none
  expiresUnix := some 70

theorem no_plaintext_shadowing_run :
    let table :=
      (setResponseCookies plainLibrary {} 10 plainOrigin plainHeaders [loginCookie]).entries
    let request : Url := { scheme := "https", host := some "example.com", path := "/login" }
    (cookiesForRequest plainLibrary {} 20 request .get {} table).1 = .ok (some "id=7; id=8; x=9") ∧
      ¬ [plainCookie, loginCookie].Sublist
        (selected plainLibrary (pruneExpired 20 table) request .get {}) :=
  ⟨by decide +kernel,
    (no_plaintext_shadowing plainLibrary {} 10 plainOrigin plainHeaders [loginCookie] (by decide)
      loginCookie plainCookie List.mem_cons_self rfl rfl rfl
      ⟨by decide +kernel, .inl (by decide +kernel)⟩ _ 20 _ .get {}).2⟩

end OpenNet.Http.CookieJar
