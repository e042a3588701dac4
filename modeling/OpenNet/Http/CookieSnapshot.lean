import OpenNet.Foundation.Machine
import OpenNet.Http.CookieSecrecy

/-!
# Snapshots of the cookie jar

The admission of a header and the validation of a snapshot are two separate sets of rules.  Every
cookie that the first one lets into a jar with default limits passes the second one, so a
snapshot of such a jar can always be restored.

The validator demands a canonical domain, so the canonical form of a host must be its own canonical
form; the rules for names that start with `__Host-` look at the attributes on admission and at the
parsed scope on validation, so the scope must follow the attributes.
-/

namespace OpenNet.Http.CookieJar

open Utf8

/-- What the crates are assumed to do. -/
structure CookieLibrary.Lawful (lib : CookieLibrary) : Prop where
  /-- Canonicalising a host again changes nothing. -/
  canonical_idempotent : ∀ text host, lib.hostParse text = some host →
    lib.hostParse host.toString = some host
  /-- There is no empty host. -/
  no_empty_host : lib.hostParse "" = none
  /-- The domain of a cookie, from the URL or from the attribute, is a canonical host. -/
  canonical_domain : ∀ raw url now parsed, lib.tryFromRawCookie raw url now = some parsed →
    ∀ domain, parsed.domain = .hostOnly domain ∨ parsed.domain = .suffix domain →
      ∃ text host, lib.hostParse text = some host ∧ host.toString = domain
  /-- Without a `Domain` attribute the cookie belongs to the host of the URL alone. -/
  host_only : ∀ raw url now parsed, lib.tryFromRawCookie raw url now = some parsed →
    raw.domain = none → ∃ domain, parsed.domain = .hostOnly domain
  /-- The root path is taken as it is. -/
  root_path : ∀ raw url now parsed, lib.tryFromRawCookie raw url now = some parsed →
    raw.path = some "/" → parsed.path = "/"
  /-- An expiry is a point in time that has a timestamp. -/
  timestamp : ∀ raw url now parsed, lib.tryFromRawCookie raw url now = some parsed →
    ∀ time, parsed.expires = .atUtc time → lib.fromUnixTimestamp time

variable {lib : CookieLibrary}

/-! ## What the parser admits is valid -/

theorem validPrefix_mono {name : String} {secure hostOnly hostOnly' rootPath rootPath' : Bool}
    (hhost : hostOnly → hostOnly') (hroot : rootPath → rootPath')
    (h : validPrefix name secure hostOnly rootPath) :
    validPrefix name secure hostOnly' rootPath' := by
  unfold validPrefix at *
  rw [Bool.and_eq_true, Bool.or_eq_true, Bool.or_eq_true, Bool.and_eq_true, Bool.and_eq_true] at *
  obtain ⟨hsecure, hname | ⟨⟨hs, ho⟩, hr⟩⟩ := h
  · exact ⟨hsecure, .inl hname⟩
  · exact ⟨hsecure, .inr ⟨⟨hs, hhost ho⟩, hroot hr⟩⟩

variable {url : Url} {now : Int} {entries : List StoredCookie}

variable {raw : RawCookie} {parsed : ParsedCookie} {entry : StoredCookie} {time : Int}
  {limits : CookieLimits} {method : Method} {context : CookieRequestContext}

theorem ParsedFrom.valid {limit : Nat} (hlib : lib.Lawful)
    (h : ParsedFrom lib url now raw parsed entry)
    (hbound : boundedFields entry.name entry.value entry.domain entry.path limit)
    (htime : entry.expiresUnix = some time) : (entry.toRecord time).valid lib limit := by
  have hcanonical : ∃ host, lib.hostParse entry.domain = some host ∧
      host.toString = entry.domain := by
    obtain ⟨text, host, hparse, htext⟩ := hlib.canonical_domain raw url now parsed h.crate
      entry.domain (h.scope.imp And.left And.left)
    exact ⟨host, htext ▸ hlib.canonical_idempotent text host hparse, htext⟩
  obtain ⟨host, hparse, hhost⟩ := hcanonical
  have hnonempty : entry.domain ≠ "" := by
    intro hempty
    rw [hempty, hlib.no_empty_host] at hparse
    cases hparse
  have hscope : (entry.hostOnly || validDomainScope lib entry.domain) := by
    rcases h.scope with ⟨-, honly⟩ | ⟨-, -, hvalid⟩
    · simp [honly]
    · simp [hvalid]
  have hsite : (entry.sameSite.map SnapshotSameSite.ofSameSite != some .none ||
      entry.secure) := by
    cases hsame : entry.sameSite with
    | none => rfl
    | some site =>
      cases site with
      | strict | lax => rfl
      | none => simp [h.sameSite hsame]
  have hname : validPrefix entry.name entry.secure entry.hostOnly (entry.path == "/") := by
    refine validPrefix_mono ?_ ?_ h.nameRule
    · intro hnone
      obtain ⟨domain, hdomain⟩ := hlib.host_only raw url now parsed h.crate (by simpa using hnone)
      rcases h.scope with ⟨-, honly⟩ | ⟨hsuffix, -⟩
      · exact honly
      · rw [hdomain] at hsuffix
        cases hsuffix
    · intro hroot
      rw [h.path, hlib.root_path raw url now parsed h.crate (by simpa using hroot)]
      rfl
  have hstamp := hlib.timestamp raw url now parsed h.crate time (h.expiry time htime)
  unfold SnapshotRecord.valid
  simp only [StoredCookie.toRecord, hbound, h.pair, hparse, hhost, hscope, h.pathRule, hsite, hname,
    hstamp, Option.any_some, BEq.rfl, Bool.and_true, Bool.true_and, bne_iff_ne, ne_eq, hnonempty,
    not_false_eq_true]

/-! ## Tables that can be restored -/

/-- Within the default limits, with one cookie for each key. -/
structure Tidy (entries : List StoredCookie) : Prop where
  bounded : entries.length ≤ ({} : CookieLimits).maxCookies
  distinct : (entries.map StoredCookie.key).Nodup

namespace Tidy

theorem empty : Tidy [] := ⟨Nat.zero_le _, List.nodup_nil⟩

theorem sublist {fewer : List StoredCookie} (h : Tidy entries) (hsub : fewer.Sublist entries) :
    Tidy fewer :=
  ⟨hsub.length_le.trans h.bounded, h.distinct.sublist (hsub.map _)⟩

theorem stored {changed : List StoredCookie} (h : Tidy entries)
    (hstored : Stored {} entry entries changed) : Tidy changed := by
  cases hstored with
  | kept => exact h
  | deleted front back old =>
    exact h.sublist ((List.sublist_cons_self old back).append_left front)
  | replaced front back old hkey =>
    refine ⟨?_, ?_⟩
    · simpa using h.bounded
    · have hdistinct := h.distinct
      simp only [List.map_append, List.map_cons, hkey] at hdistinct ⊢
      exact hdistinct
  | appended _ hnew hroom =>
    refine ⟨?_, ?_⟩
    · rw [List.length_append, List.length_singleton]
      exact hroom
    · rw [List.map_append, List.map_singleton, List.nodup_append]
      refine ⟨h.distinct, List.nodup_singleton _, fun key hkey other hother => ?_⟩
      rw [List.mem_singleton.mp hother]
      rintro rfl
      exact hnew hkey

end Tidy

/-- Every persistent cookie of the table has a valid record. -/
def Recordable (lib : CookieLibrary) (entries : List StoredCookie) : Prop :=
  ∀ e ∈ entries, ∀ time, e.expiresUnix = some time →
    (e.toRecord time).valid lib ({} : CookieLimits).maxCookieBytes

/-! ## The operations of a jar -/

/-- The calls on a jar. -/
inductive Operation where
  | respond (now : Int) (url : Url) (headers : List SetCookie)
  | request (now : Int) (url : Url) (method : Method) (context : CookieRequestContext)
  | snapshot (now : Int)
  | clear

/-- The table after an operation on a jar with default limits. -/
def perform (lib : CookieLibrary) (entries : List StoredCookie) : Operation → List StoredCookie
  | .respond now url headers => (setResponseCookies lib {} now url headers entries).entries
  | .request now url method context =>
    (cookiesForRequest lib {} now url method context entries).2
  | .snapshot now => (snapshot now entries).2
  | .clear => []

theorem cookiesForRequest_table : (cookiesForRequest lib limits now url method context entries).2 =
      pruneExpired now entries := by
  unfold cookiesForRequest
  simp only []
  split
  · rfl
  split
  · rfl
  split
  · rfl
  · split <;> rfl

/-- What holds of an empty table, of parts of a table and after admitted cookies holds of every jar.
-/
theorem perform_keeps {I : List StoredCookie → Prop} (hempty : I [])
    (hsublist : ∀ {entries fewer : List StoredCookie}, I entries → fewer.Sublist entries → I fewer)
    (hstored : ∀ {entries changed : List StoredCookie} {entry : StoredCookie} {url : Url}
      {header : SetCookie}, I entries → acceptable lib {} url entries header = some entry →
      Stored {} entry entries changed → I changed)
    (entries : List StoredCookie) (operation : Operation) (h : I entries) :
    I (perform lib entries operation) := by
  have hprune : ∀ now, I (pruneExpired now entries) := fun now => hsublist h List.filter_sublist
  cases operation with
  | respond now url headers =>
    show I (setResponseCookies lib {} now url headers entries).entries
    unfold setResponseCookies
    simp only []
    split
    · exact hprune now
    · exact (receive_spec lib {} url (fun table header entry changed htable hacc hchanged =>
        hstored htable hacc hchanged) headers 0 (hprune now)).1
  | request now url method context =>
    show I (cookiesForRequest lib {} now url method context entries).2
    rw [cookiesForRequest_table]
    exact hprune now
  | snapshot now => exact hprune now
  | clear => exact hempty

theorem run_tidy (lib : CookieLibrary) (operations : List Operation) :
    Tidy (Machine.run (perform lib) [] operations) :=
  Machine.run_invariant (I := Tidy)
    (perform_keeps .empty Tidy.sublist fun h _ hstored => h.stored hstored) operations .empty

theorem run_recordable (hlib : lib.Lawful) (operations : List Operation) :
    Recordable lib (Machine.run (perform lib) [] operations) := by
  refine Machine.run_invariant (I := Recordable lib) (perform_keeps nofun
    (fun h hsub e he => h e (hsub.subset he)) ?_) operations nofun
  intro entries changed entry url header h hacc hstored e he
  rcases hstored.source e he with hold | rfl
  · exact h e hold
  · obtain ⟨⟨raw, parsed, hparsed⟩, hbound⟩ := readHeader_some (acceptable_some hacc).1
    exact fun time htime => hparsed.valid hlib hbound htime

/-! ## Restoring a snapshot -/

theorem validateRecords_ok {records : List SnapshotRecord} : ∀ {before : List SnapshotRecord},
      (∀ r ∈ records, r.valid lib ({} : CookieLimits).maxCookieBytes) →
      ((before ++ records).map SnapshotRecord.key).Nodup →
      validateRecords lib before records = .ok () := by
  induction records with
  | nil => exact fun _ _ => rfl
  | cons record rest ih =>
    intro before hvalid hdistinct
    have hfresh : (before.any fun other => other.name == record.name &&
        other.domain == record.domain && other.path == record.path) = false := by
      rw [List.any_eq_false]
      intro other hother hsame
      have hkey : other.key = record.key := by
        simpa [SnapshotRecord.key, and_assoc] using hsame
      rw [List.map_append, List.nodup_append] at hdistinct
      exact hdistinct.2.2 _ (List.mem_map_of_mem hother) _
        (List.mem_map_of_mem List.mem_cons_self) hkey
    rw [validateRecords, hvalid record List.mem_cons_self, hfresh]
    refine ih (fun r hr => hvalid r (List.mem_cons_of_mem record hr)) ?_
    rwa [List.append_assoc]

theorem sameSite_round_trip (site : Option SameSite) :
    (site.map SnapshotSameSite.ofSameSite).map SameSite.ofSnapshot = site := by
  cases site with
  | none => rfl
  | some site => cases site <;> rfl

theorem StoredCookie.toRecord_toEntry (h : entry.expiresUnix = some time) :
    (entry.toRecord time).toEntry = entry := by
  cases entry
  obtain rfl := h
  simp only [StoredCookie.toRecord, SnapshotRecord.toEntry, sameSite_round_trip]

def persistent (entries : List StoredCookie) : List StoredCookie :=
  entries.filter (·.expiresUnix.isSome)

theorem snapshot_records (now : Int) (entries : List StoredCookie) :
    (snapshot now entries).1.cookies.map SnapshotRecord.toEntry =
      persistent (pruneExpired now entries) := by
  show ((pruneExpired now entries).filterMap _).map _ = _
  induction pruneExpired now entries with
  | nil => rfl
  | cons entry rest ih =>
    cases htime : entry.expiresUnix with
    | none => simpa [persistent, htime] using ih
    | some time => simpa [persistent, htime, StoredCookie.toRecord_toEntry htime] using ih

theorem mem_snapshot {record : SnapshotRecord} (h : record ∈ (snapshot now entries).1.cookies) :
    ∃ e ∈ pruneExpired now entries, ∃ time, e.expiresUnix = some time ∧
      record = e.toRecord time := by
  obtain ⟨e, he, hrecord⟩ := List.mem_filterMap.mp h
  obtain ⟨time, htime, rfl⟩ := Option.map_eq_some_iff.mp hrecord
  exact ⟨e, he, time, htime, rfl⟩

theorem snapshot_valid (h : Tidy entries) (hrecords : Recordable lib entries) (now : Int) :
    (snapshot now entries).1.validate lib = .ok () := by
  have hpruned := h.sublist (List.filter_sublist (p := (!·.expired now)))
  have hkeys : (snapshot now entries).1.cookies.map SnapshotRecord.key =
      (persistent (pruneExpired now entries)).map StoredCookie.key := by
    rw [← snapshot_records, List.map_map]
    rfl
  have hlength : (snapshot now entries).1.cookies.length ≤ ({} : CookieLimits).maxCookies := by
    exact (List.length_filterMap_le _ _).trans hpruned.bounded
  unfold CookieJarSnapshot.validate
  have hversion : (snapshot now entries).1.schemaVersion = 1 := rfl
  rw [if_neg (by simp [hversion, Nat.not_lt.mpr hlength])]
  refine validateRecords_ok (fun record hrecord => ?_) ?_
  · obtain ⟨e, he, time, htime, rfl⟩ := mem_snapshot hrecord
    exact hrecords e (List.mem_of_mem_filter he) time htime
  · rw [List.nil_append, hkeys]
    exact (hpruned.sublist List.filter_sublist).distinct

/-- **A snapshot can be restored, to the same persistent cookies**, for any jar the operations
reach: taken at `time`, restored after a `delay`, and compared after a further `wait`. -/
theorem snapshot_round_trip (lib : CookieLibrary) (hlib : lib.Lawful)
    (operations : List Operation) (time : Int) (delay : Nat) :
    let jar := Machine.run (perform lib) [] operations
    ∃ restored, fromSnapshot lib (time + delay) (snapshot time jar).1 = .ok restored ∧
      ∀ wait : Nat,
        pruneExpired (time + delay + wait) restored =
            pruneExpired (time + delay + wait) (persistent jar) ∧
          ∀ url method context,
            cookiesForRequest lib {} (time + delay + wait) url method context restored =
              cookiesForRequest lib {} (time + delay + wait) url method context
                (persistent jar) := by
  intro jar
  refine ⟨pruneExpired (time + delay) (persistent (pruneExpired time jar)), ?_, fun wait => ?_⟩
  · unfold fromSnapshot
    rw [snapshot_valid (run_tidy lib operations) (run_recordable hlib operations),
      ← snapshot_records]
  · have hsame : pruneExpired (time + delay + wait)
        (pruneExpired (time + delay) (persistent (pruneExpired time jar))) =
          pruneExpired (time + delay + wait) (persistent jar) := by
      calc pruneExpired (time + delay + wait)
            (pruneExpired (time + delay) (persistent (pruneExpired time jar)))
          = pruneExpired (time + delay + wait) (persistent (pruneExpired time jar)) :=
            filter_pruneExpired (by omega) _
        _ = persistent (pruneExpired (time + delay + wait) (pruneExpired time jar)) :=
            List.filter_comm ..
        _ = persistent (pruneExpired (time + delay + wait) jar) := by
            rw [pruneExpired, filter_pruneExpired (by omega)]
            rfl
        _ = pruneExpired (time + delay + wait) (persistent jar) := List.filter_comm ..
    refine ⟨hsame, fun url method context => ?_⟩
    unfold cookiesForRequest
    rw [hsame]

theorem plainLibrary_parsed (h : plainLibrary.tryFromRawCookie raw url now = some parsed) :
    ∃ host expires, host ≠ "" ∧ parsed = ⟨.hostOnly host, "/", expires⟩ := by
  unfold plainLibrary at h
  dsimp only at h
  split at h
  · split at h
    · cases h
    · exact ⟨_, _, by assumption, (Option.some.inj h).symm⟩
  · cases h

theorem plainLibrary_lawful : plainLibrary.Lawful where
  canonical_idempotent := by
    intro text host h
    by_cases hempty : text = ""
    · simp [plainLibrary, hempty] at h
    · obtain rfl : Host.domain text = host := by simpa [plainLibrary, hempty] using h
      simp [plainLibrary, Host.toString, hempty]
  no_empty_host := rfl
  canonical_domain := by
    intro raw url now parsed h domain hdomain
    obtain ⟨host, expires, hnonempty, rfl⟩ := plainLibrary_parsed h
    obtain rfl : host = domain := by simpa using hdomain
    exact ⟨host, .domain host, by simp [plainLibrary, hnonempty], rfl⟩
  host_only := by
    intro raw url now parsed h _
    obtain ⟨host, expires, -, rfl⟩ := plainLibrary_parsed h
    exact ⟨host, rfl⟩
  root_path := by
    intro raw url now parsed h _
    obtain ⟨host, expires, -, rfl⟩ := plainLibrary_parsed h
    rfl
  timestamp := fun _ _ _ _ _ _ _ => rfl

/-- Two persistent cookies and one that ends with the session. -/
theorem snapshot_round_trip_run :
    let jar := Machine.run (perform plainLibrary) []
      [.respond 10 plainOrigin (plainHeaders ++ [⟨bytesOf "s=1", 10, 10, true⟩])]
    (jar.length = 3 ∧ (persistent jar).length = 2) ∧ ∃ restored,
      fromSnapshot plainLibrary (20 + (5 : Nat)) (snapshot 20 jar).1 = .ok restored ∧
        pruneExpired (20 + (5 : Nat) + (1 : Nat)) restored =
          pruneExpired (20 + (5 : Nat) + (1 : Nat)) (persistent jar) := by
  intro jar
  obtain ⟨restored, hrestored, hsame⟩ := snapshot_round_trip plainLibrary plainLibrary_lawful
    [.respond 10 plainOrigin (plainHeaders ++ [⟨bytesOf "s=1", 10, 10, true⟩])] 20 5
  exact ⟨by decide +kernel, restored, hrestored, (hsame 1).1⟩

/-! ## Requests over the life of a jar -/

/-- Sorting keeps the order of entries that are equally good. -/
theorem insertionSort_filter {p : StoredCookie → Bool} (entries : List StoredCookie)
    (hp : ∀ a b, p a → p b → pathOrder a b) :
    (entries.insertionSort pathOrder).filter p = entries.filter p := by
  have hsub : (entries.filter p).Sublist (entries.insertionSort pathOrder) := by
    refine List.sublist_insertionSort (List.pairwise_filter.mpr ?_) List.filter_sublist
    exact List.pairwise_of_forall hp
  refine (List.Sublist.eq_of_length ?_ ?_).symm
  · simpa using hsub.filter p
  · exact ((List.perm_insertionSort pathOrder entries).filter p).length_eq.symm

/-- The request comes from the site of its target, or from none. -/
def FromSameSite (lib : CookieLibrary) (url : Url) (context : CookieRequestContext) : Prop :=
  context.site = none ∨ ∃ site, context.site = some site ∧ ∃ name,
    schemefulSite lib site = some name ∧ schemefulSite lib url = some name

/-- The request comes from a known site other than its target's. -/
def FromOtherSite (lib : CookieLibrary) (url : Url) (context : CookieRequestContext) : Prop :=
  ∃ site, context.site = some site ∧ ∃ name other, schemefulSite lib site = some name ∧
    schemefulSite lib url = some other ∧ name ≠ other

theorem siteRelation_iff : (siteRelation lib url context = .same ↔ FromSameSite lib url context) ∧
    (siteRelation lib url context = .cross ↔ FromOtherSite lib url context) := by
  unfold siteRelation FromSameSite FromOtherSite
  cases context.site with
  | none => simp
  | some site =>
    cases hsite : schemefulSite lib site with
    | none => simp [hsite]
    | some name =>
      cases htarget : schemefulSite lib url with
      | none => simp [hsite]
      | some other =>
        simp only [Option.some.injEq, exists_eq_left', hsite]
        by_cases heq : name = other
        · simp [heq]
        · simp [heq, Ne.symm heq]

/-- The cookie is alive, and its scope and restrictions allow it. -/
structure StoredCookie.Sent (lib : CookieLibrary) (now : Int) (url : Url) (method : Method)
    (context : CookieRequestContext) (e : StoredCookie) : Prop where
  live : ∀ time, e.expiresUnix = some time → now < time
  http : url.scheme = "http" ∨ url.scheme = "https"
  host : ∃ host, url.host = some host ∧
    (e.domain = host ∨ e.hostOnly = false ∧ labels e.domain <:+ labels host)
  path : PathContinues url.path e.path
  secure : e.secure → url.scheme = "https"
  strict : e.sameSite = some .strict → FromSameSite lib url context
  lax : e.sameSite = some .lax → FromSameSite lib url context ∨
    FromOtherSite lib url context ∧ context.topLevelNavigation ∧
      method ∈ [Method.get, .head, .options, .trace]
  unrestricted : e.sameSite = some .none → e.secure

theorem sameSiteAllowed_iff {e : StoredCookie} :
    sameSiteAllowed e (siteRelation lib url context) method context ↔
      (e.sameSite = some .strict → FromSameSite lib url context) ∧
      (e.sameSite = some .lax → FromSameSite lib url context ∨
        FromOtherSite lib url context ∧ context.topLevelNavigation ∧
          method ∈ [Method.get, .head, .options, .trace]) ∧
      (e.sameSite = some .none → e.secure) := by
  rw [← siteRelation_iff.1, ← siteRelation_iff.2]
  unfold sameSiteAllowed
  cases e.sameSite with
  | none => simp
  | some site => cases site <;> simp [and_assoc]

theorem StoredCookie.sent_iff {e : StoredCookie} (hhttp : httpUrl url) :
    e.Sent lib now url method context ↔ (!e.expired now && (e.matchesUrl url &&
      sameSiteAllowed e (siteRelation lib url context) method context)) := by
  have hlive : (!e.expired now) ↔ ∀ time, e.expiresUnix = some time → now < time := by
    cases htime : e.expiresUnix <;> simp [StoredCookie.expired, htime]
  have hmatch : e.matchesUrl url ↔
      (∃ host, url.host = some host ∧
        (e.domain = host ∨ e.hostOnly = false ∧ labels e.domain <:+ labels host)) ∧
      PathContinues url.path e.path ∧ (e.secure → url.scheme = "https") := by
    unfold StoredCookie.matchesUrl
    cases url.host with
    | none => simp
    | some host =>
      simp only [Bool.and_eq_true, Bool.or_eq_true, beq_iff_eq, Bool.not_eq_true',
        pathMatches_iff_continues, domainMatches_iff, Affix.endsIn_iff_splitOn, labels,
        Option.some.injEq, exists_eq_left', and_assoc]
      cases e.secure <;> simp
  have hscheme : url.scheme = "http" ∨ url.scheme = "https" := by
    rw [httpUrl, Bool.and_eq_true, Bool.or_eq_true, beq_iff_eq, beq_iff_eq] at hhttp
    exact hhttp.1
  rw [Bool.and_eq_true, Bool.and_eq_true, hlive, hmatch, sameSiteAllowed_iff]
  constructor
  · intro h
    exact ⟨h.live, ⟨h.host, h.path, h.secure⟩, h.strict, h.lax, h.unrestricted⟩
  · rintro ⟨hlive, ⟨hhost, hpath, hsecure⟩, hstrict, hlax, hnone⟩
    exact ⟨hlive, hscheme, hhost, hpath, hsecure, hstrict, hlax, hnone⟩

/-- **What a request is shown.** Whatever a jar has been through, it is bounded and has one cookie
per name, domain and path. A request gets exactly the cookies that belong to it, longer paths first,
then in the order of creation. Without any there is no header; one that is too long or not a valid
value is an error. -/
theorem jar_serves_requests (lib : CookieLibrary) (operations : List Operation) :
    let jar := Machine.run (perform lib) [] operations
    jar.length ≤ ({} : CookieLimits).maxCookies ∧ (jar.map StoredCookie.key).Nodup ∧
    ∀ now url method context, ∃ shown : List StoredCookie,
      (∀ e, e ∈ shown ↔ e ∈ jar ∧ e.Sent lib now url method context) ∧ shown.Nodup ∧
      (shown.Pairwise fun a b => b.path.utf8ByteSize ≤ a.path.utf8ByteSize) ∧
      (∀ size, (shown.filter (·.path.utf8ByteSize = size)).Sublist jar) ∧
      (cookiesForRequest lib {} now url method context jar).1 =
        if shown = [] then .ok none
        else if ({} : CookieLimits).maxCookieHeaderBytes < (headerText shown).utf8ByteSize then
          .error headerSizeError
        else if lib.headerValue (headerText shown) then .ok (some (headerText shown))
        else .error providerError := by
  intro jar
  have hjar : Tidy jar := run_tidy lib operations
  refine ⟨hjar.bounded, hjar.distinct, fun now url method context => ?_⟩
  by_cases hhttp : httpUrl url = true
  · refine ⟨selected lib (pruneExpired now jar) url method context, fun e => ?_, ?_,
      List.pairwise_insertionSort pathOrder _, fun size => ?_, cookiesForRequest_eq hhttp⟩
    · rw [selected, List.mem_insertionSort, List.mem_filter, pruneExpired, List.mem_filter,
        StoredCookie.sent_iff hhttp, Bool.and_eq_true (!e.expired now), and_assoc]
    · refine (List.perm_insertionSort _ _).nodup_iff.mpr ?_
      exact ((List.Nodup.of_map _ hjar.distinct).filter _).filter _
    · show ((List.insertionSort pathOrder _).filter _).Sublist jar
      rw [insertionSort_filter]
      · exact List.filter_sublist.trans (List.filter_sublist.trans List.filter_sublist)
      · intro a b ha hb
        rw [decide_eq_true_eq] at ha hb
        exact Nat.le_of_eq (hb.trans ha.symm)
  · refine ⟨[], fun e => ?_, List.nodup_nil, .nil, fun _ => List.nil_sublist _, ?_⟩
    · refine iff_of_false List.not_mem_nil fun ⟨_, hsent⟩ => hhttp ?_
      obtain ⟨host, hhost, -⟩ := hsent.host
      simpa [httpUrl, hhost] using hsent.http
    · simp [cookiesForRequest, hhttp]

end OpenNet.Http.CookieJar
