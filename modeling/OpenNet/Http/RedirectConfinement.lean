import Mathlib.Data.List.Chain
import OpenNet.Http.ResponseHops

/-!
# Confinement of redirect chains

What holds of every chain of requests that one attempt sends, whatever the servers answer:
where it may go, how long it may get and what it may carry.
-/

namespace OpenNet.Http

open Fallible

section Chain

variable {urls : UrlLibrary} {config : HttpClientConfig} {hops : Hops} {env : Nat → HopEnv}
  {original : Url}

/-! ## The loop, one hop at a time -/

/-- Induction over the hops of a chain: `P` relates the variables of the loop to what it sends
from there on. -/
theorem followFrom_induction {P : Nat → Carry → Url → List Request → Prop}
    (hnil : ∀ followed carry current, P followed carry current [])
    (hcons : ∀ followed carry received carry' request rest,
      prepareHop urls config hops (env followed) original followed carry received =
        .ok (.next carry' request) → P (followed + 1) carry' request.url rest →
      P followed carry received.url (request :: rest)) :
    ∀ (fuel followed : Nat) (carry : Carry) (response : Response), P followed carry response.url
        (followFrom urls config hops env original fuel followed carry response).1 := by
  intro fuel
  induction fuel with
  | zero => exact fun followed carry response => hnil followed carry response.url
  | succ fuel ih =>
    intro followed carry response
    rw [followFrom]
    split
    · exact hnil followed carry response.url
    · exact hnil followed carry response.url
    rename_i carry' request hprepare
    split
    · exact hcons followed carry response carry' request [] hprepare
        (hnil (followed + 1) carry' request.url)
    rename_i status headers _
    exact hcons followed carry response carry' request _ hprepare
      (ih (followed + 1) carry' ⟨request.url, status, headers⟩)

/-! ## Length -/

theorem followFrom_length_le (fuel followed : Nat) (carry : Carry) (response : Response) :
    (followFrom urls config hops env original fuel followed carry response).1.length ≤
      config.redirectPolicy.maxRedirects - followed := by
  refine followFrom_induction
    (P := fun followed _ _ sent => sent.length ≤ config.redirectPolicy.maxRedirects - followed)
    ?_ ?_ fuel followed carry response
  · intro followed carry current
    exact Nat.zero_le _
  · intro followed carry received carry' request rest hprepare hrest
    obtain ⟨_, _, hauthorized, -, -⟩ := prepareHop_next hprepare
    have hbounded := hauthorized.bounded
    rw [List.length_cons]
    omega

/-! ## Where a chain goes -/

def WithinPolicy (config : HttpClientConfig) (original u : Url) : Prop :=
  ∃ o, u.origin = some o ∧
    (original.origin = some o ∨ ∃ a ∈ config.redirectPolicy.allowedOrigins, a.origin = some o)

/-- The hops are confined, without downgrade, and secure where required. -/
structure Allowed (config : HttpClientConfig) (original current next : Url) : Prop where
  within : WithinPolicy config original next
  upgrade : current.scheme = "https" → next.scheme = "https"
  secure : config.effectiveSecurity = .httpsOnly → next.scheme = "https"

theorem allowed_of_authorized {current next : Url} {followed : Nat}
    (h : config.redirectPolicy.Authorized original current next followed
      config.effectiveSecurity) : Allowed config original current next := by
  refine ⟨?_, ?_, ?_⟩
  · rcases h.confined with hsame | hlisted
    · obtain ⟨o, hnext, horiginal⟩ := Url.sameOrigin_iff.mp hsame
      exact ⟨o, hnext, .inl horiginal⟩
    · obtain ⟨a, ha, hsame⟩ := List.any_eq_true.mp hlisted
      obtain ⟨o, hallowed, hnext⟩ := Url.sameOrigin_iff.mp hsame
      exact ⟨o, hnext, .inr ⟨a, ha, hallowed⟩⟩
  · intro hcurrent
    rcases h.secure with hs | ⟨-, hplain⟩
    · exact hs
    · exact absurd hcurrent hplain
  · intro hrequired
    rcases h.secure with hs | ⟨hlax, -⟩
    · exact hs
    · exact absurd hrequired hlax

theorem followFrom_isChain (fuel followed : Nat) (carry : Carry) (response : Response) :
    List.IsChain (Allowed config original) (response.url ::
      (followFrom urls config hops env original fuel followed carry response).1.map
        Request.url) := by
  refine followFrom_induction
    (P := fun _ _ current sent =>
      List.IsChain (Allowed config original) (current :: sent.map Request.url))
    ?_ ?_ fuel followed carry response
  · intro followed carry current
    exact List.isChain_singleton current
  · intro followed carry received carry' request rest hprepare hrest
    obtain ⟨_, _, hauthorized, -, -⟩ := prepareHop_next hprepare
    rw [List.map_cons, List.isChain_cons_cons]
    exact ⟨allowed_of_authorized hauthorized, hrest⟩

/-! ## What a chain carries -/

/-- From each change of origin on, requests are stripped. -/
def StrippedAfterCrossing (names : List String) (chain : List Request) : Prop :=
  ∀ before a b after, chain = before ++ a :: b :: after → a.url.sameOrigin b.url = false →
    ∀ r ∈ b :: after, r.Stripped names

theorem strippedAfterCrossing_singleton (names : List String) (r : Request) :
    StrippedAfterCrossing names [r] := by
  intro before a b after h
  have hlength := congrArg List.length h
  simp only [List.length_append, List.length_cons, List.length_nil] at hlength
  omega

theorem StrippedAfterCrossing.cons {names : List String} {first second : Request}
    {rest : List Request} (h : StrippedAfterCrossing names (second :: rest))
    (hfirst : first.url.sameOrigin second.url = false → ∀ r ∈ second :: rest, r.Stripped names) :
    StrippedAfterCrossing names (first :: second :: rest) := by
  intro before a b after hsplit hcross
  cases before with
  | nil =>
    obtain ⟨rfl, rfl, rfl⟩ : first = a ∧ second = b ∧ rest = after := by simpa using hsplit
    exact hfirst hcross
  | cons c before =>
    exact h before a b after (List.cons.inj hsplit).2 hcross

/-- What the requests carry, given what the loop kept. -/
structure Carries (merged : HeaderMap) (carry : Carry) (current : Url) (sent : List Request) :
    Prop where
  stripped : carry.Stripped (strippedNames merged) →
    ∀ r ∈ sent, r.Stripped (strippedNames merged)
  crossing : carry.KeptFrom merged → ∀ previous : Request, previous.url = current →
    StrippedAfterCrossing (strippedNames merged) (previous :: sent)

theorem followFrom_carries (merged : HeaderMap) (fuel followed : Nat) (carry : Carry)
    (response : Response) : Carries merged carry response.url
      (followFrom urls config hops env original fuel followed carry response).1 := by
  refine followFrom_induction (P := fun _ carry current sent => Carries merged carry current sent)
    ?_ ?_ fuel followed carry response
  · intro followed carry current
    refine ⟨?_, ?_⟩
    · intro _ r hr
      cases hr
    · intro _ previous _
      exact strippedAfterCrossing_singleton _ previous
  · intro followed carry received carry' request rest hprepare hrest
    obtain ⟨status, generation, -, rfl, hbuild⟩ := prepareHop_next hprepare
    -- Once the kept variables are stripped, so are this request and every later one.
    have hall : (carry.redirect status received.url request.url).Stripped (strippedNames merged) →
        ∀ r ∈ request :: rest, r.Stripped (strippedNames merged) := by
      intro hkept r hr
      rcases List.mem_cons.mp hr with rfl | hr
      · exact buildHop_stripped hkept hbuild
      · exact hrest.stripped ⟨hkept.noAuth, hkept.noCaller⟩ r hr
    refine ⟨?_, ?_⟩
    · intro hcarry
      exact hall (hcarry.redirect status received.url request.url)
    · intro hkept previous hprevious
      have hlater := hrest.crossing (hkept.redirect status received.url request.url) request rfl
      refine hlater.cons ?_
      intro hcross
      rw [hprevious] at hcross
      exact hall (hkept.stripped status hcross)

end Chain

/-! ## A whole attempt -/

variable {call : Call} {initial : Request} {followups : List Request}

variable {config : HttpClientConfig}

theorem buildRequest_url {urls : UrlLibrary} {env : CallEnv} {request : Request} {generation : Nat}
    (h : buildRequest urls config call env = .ok (request, generation)) :
    request.url.origin.isSome ∧
      (config.effectiveSecurity = .httpsOnly → request.url.scheme = "https") := by
  simp only [buildRequest, bind_eq_ok, Except.ok.injEq, Prod.mk.injEq] at h
  obtain ⟨url, hurl, merged, hmerged, _, -, _, -, _, -, _, -, _, -, hrequest, -⟩ := h
  obtain ⟨hscheme, -, horigin⟩ := HttpClientConfig.resolveRequestPath_eq_ok hurl
  obtain ⟨hweb, hhost, hsecure⟩ :=
    HttpClientConfig.validate_baseUrl (HttpClientConfig.mergeHeaders_eq_ok hmerged).1
  rw [← hrequest]
  refine ⟨?_, ?_⟩
  · rw [horigin]
    exact Url.origin_isSome_of_isWeb hweb hhost
  · intro hrequired
    rw [hscheme]
    exact hsecure hrequired

theorem followResponseHops_sent (urls : UrlLibrary) (config : HttpClientConfig)
    (fits : Nat → Bool) (hops : Hops) (before after : Option NetError) (env : Nat → HopEnv)
    (response : Response) :
    (followResponseHops urls config fits hops before after env response).1 = [] ∨
    (followResponseHops urls config fits hops before after env response).1 =
      (followFrom urls config hops env response.url (config.redirectPolicy.maxRedirects + 1) 0
        ⟨config.callerHeaders hops.requestHeaders, hops.method, hops.bodyPresent, config.auth,
          hops.initialGeneration⟩ response).1 := by
  unfold followResponseHops
  cases before with
  | some e => exact .inl rfl
  | none =>
    have hfollow : (follow urls config fits hops env response).1 = [] ∨
        (follow urls config fits hops env response).1 =
        (followFrom urls config hops env response.url (config.redirectPolicy.maxRedirects + 1) 0
          ⟨config.callerHeaders hops.requestHeaders, hops.method, hops.bodyPresent, config.auth,
            hops.initialGeneration⟩ response).1 := by
      unfold follow
      cases hmerged : config.mergeHeaders fits hops.requestHeaders with
      | error e => exact .inl rfl
      | ok merged =>
        obtain rfl := (HttpClientConfig.mergeHeaders_eq_ok hmerged).2
        exact .inr rfl
    cases after <;> exact hfollow

theorem sendAttempt_sent {urls : UrlLibrary} {env : CallEnv}
    (h : (sendAttempt urls config call env).1 = initial :: followups) :
    (∃ generation, buildRequest urls config call env = .ok (initial, generation)) ∧
    (followups = [] ∨ ∃ hops status headers, hops.requestHeaders = call.headers ∧ followups =
        (followFrom urls config hops env.hop initial.url (config.redirectPolicy.maxRedirects + 1) 0
          ⟨config.callerHeaders hops.requestHeaders, hops.method, hops.bodyPresent, config.auth,
            hops.initialGeneration⟩ ⟨initial.url, status, headers⟩).1) := by
  unfold sendAttempt at h
  split at h
  · cases h
  rename_i request generation hbuild
  split at h
  · cases h
  · obtain ⟨rfl, rfl⟩ := List.cons.inj h
    exact ⟨⟨generation, hbuild⟩, .inl rfl⟩
  rename_i status headers _ _
  obtain ⟨rfl, rfl⟩ := List.cons.inj h
  refine ⟨⟨generation, hbuild⟩, ?_⟩
  rcases followResponseHops_sent urls config env.followFits
    ⟨call.headers, call.body, carriesBody call, call.replayable, call.method, call.requestId,
      call.attempt, generation⟩ env.beforeHops env.afterHops env.hop
    ⟨request.url, status, headers⟩ with hnone | hloop
  · exact .inl hnone
  · exact .inr ⟨_, status, headers, rfl, hloop⟩

theorem isChain_targets {α : Type} {R : α → α → Prop} {Q : α → Prop}
    (hQ : ∀ a b, R a b → Q b) {l : List α} : ∀ {a : α}, List.IsChain R (a :: l) → ∀ b ∈ l, Q b := by
  induction l with
  | nil => intro a _ b hb; cases hb
  | cons c l ih =>
    intro a h b hb
    rw [List.isChain_cons_cons] at h
    rcases List.mem_cons.mp hb with rfl | hb
    · exact hQ a b h.1
    · exact ih h.2 b hb

/-- The chain of an attempt: every hop is allowed and the follow-ups are few. -/
theorem sendAttempt_chain {urls : UrlLibrary} {env : CallEnv}
    (h : (sendAttempt urls config call env).1 = initial :: followups) :
    List.IsChain (fun a b : Request => Allowed config initial.url a.url b.url)
        (initial :: followups) ∧ followups.length ≤ config.redirectPolicy.maxRedirects ∧
      StrippedAfterCrossing (strippedNames (config.callerHeaders call.headers))
        (initial :: followups) := by
  obtain ⟨-, hfollowups⟩ := sendAttempt_sent h
  rcases hfollowups with rfl | ⟨hops, status, headers, hheaders, rfl⟩
  · exact ⟨List.isChain_singleton _, Nat.zero_le _, strippedAfterCrossing_singleton _ _⟩
  refine ⟨?_, ?_, ?_⟩
  · rw [← List.isChain_map Request.url]
    exact followFrom_isChain _ _ _ ⟨initial.url, status, headers⟩
  · exact followFrom_length_le _ _ _ _
  · refine (followFrom_carries _ _ _ _ ⟨initial.url, status, headers⟩).crossing ?_ initial rfl
    exact ⟨fun _ => true, by rw [hheaders, List.filter_true]⟩

instance noDowngrade_trans :
    Trans (fun a b : Request => a.url.scheme = "https" → b.url.scheme = "https")
      (fun a b : Request => a.url.scheme = "https" → b.url.scheme = "https")
      (fun a b : Request => a.url.scheme = "https" → b.url.scheme = "https") where
  trans hab hbc ha := hbc (hab ha)

/-- **Redirect confinement.** Whatever the servers answer, the requests of an attempt stay on the
original origin and the listed ones, never fall back from HTTPS, use HTTPS where required, and are
at most `maxRedirects` more than the first. From the first change of origin on, none carries a
caller's header that such a change strips, and none, back on the original origin or not, is
authenticated by the provider. -/
theorem redirect_confinement (urls : UrlLibrary) (config : HttpClientConfig) (call : Call)
    (env : CallEnv) {initial : Request} {followups : List Request}
    (h : (sendAttempt urls config call env).1 = initial :: followups) :
    (∀ r ∈ initial :: followups, ∃ o, r.url.origin = some o ∧ (initial.url.origin = some o ∨
        ∃ a ∈ config.redirectPolicy.allowedOrigins, a.origin = some o)) ∧
    (initial :: followups).Pairwise (fun a b => a.url.scheme = "https" → b.url.scheme = "https") ∧
    (config.effectiveSecurity = .httpsOnly → ∀ r ∈ initial :: followups, r.url.scheme = "https") ∧
    followups.length ≤ config.redirectPolicy.maxRedirects ∧
    (∀ before a b after, initial :: followups = before ++ a :: b :: after →
      a.url.sameOrigin b.url = false →
      ∀ r ∈ b :: after, r.authApplied = false ∧ ∀ e ∈ r.headers, e.source ≠ .provider ∧
        (e.source = .caller →
          e.header.name ∉ strippedNames (config.callerHeaders call.headers))) := by
  obtain ⟨⟨generation, hbuild⟩, -⟩ := sendAttempt_sent h
  obtain ⟨horigin, hsecure⟩ := buildRequest_url hbuild
  obtain ⟨hchain, hlength, hcrossing⟩ := sendAttempt_chain h
  refine ⟨?_, ?_, ?_, hlength, ?_⟩
  · intro r hr
    rcases List.mem_cons.mp hr with rfl | hr
    · obtain ⟨o, ho⟩ := Option.isSome_iff_exists.mp horigin
      exact ⟨o, ho, .inl ho⟩
    · exact isChain_targets (fun _ _ hab => hab.within) hchain r hr
  · exact (hchain.imp fun _ _ hab => hab.upgrade).pairwise
  · intro hrequired r hr
    rcases List.mem_cons.mp hr with rfl | hr
    · exact hsecure hrequired
    · exact isChain_targets (fun _ _ hab => hab.secure hrequired) hchain r hr
  · intro before a b after hsplit hcross r hr
    have hstripped := hcrossing before a b after hsplit hcross r hr
    exact ⟨hstripped.noAuth, fun e he => ⟨hstripped.noProvider e he, hstripped.noCaller e he⟩⟩

/-! A chain that leaves the original origin for a listed one and comes back. -/

def locationHeader (reference : String) : Header :=
  ⟨"location", ⟨reference.toList.map fun c => UInt8.ofNat c.toNat, false⟩⟩

def apiUrl : Url := { scheme := "https", host := some "api.example" }

def cdnUrl : Url := { scheme := "https", host := some "cdn.example" }

/-- References that are a full origin, or a path of the base URL. -/
def twoHosts : UrlLibrary where
  parse _ := none
  join base reference :=
    if reference = "https://api.example" then some apiUrl
    else if reference = "https://cdn.example" then some cdnUrl
    else some { base with path := reference }

def apiConfig : HttpClientConfig where
  baseUrl := apiUrl
  timeout := 1
  maxResponseBytes := 1
  requestQueueCapacity := 1
  responseQueueCapacity := 1
  callbackQueueCapacity := 1
  redirectPolicy := RedirectPolicy.sameOrigin.push cdnUrl (by decide) (by decide) (by decide)
  auth := true

def authorizedCall : Call where
  path := "/start"
  headers := [⟨"authorization", ⟨[1], false⟩⟩, ⟨"x-key", ⟨[2], true⟩⟩, ⟨"accept", ⟨[3], false⟩⟩]
  body := []
  bodyPresent := false
  replayable := true
  method := .get
  requestId := 1
  attempt := 1

def leaveAndReturn : CallEnv where
  auth := .applied [⟨"x-token", ⟨[4], false⟩⟩] 1
  execute := .ok (302, [locationHeader "https://cdn.example"])
  hop followed :=
    if followed = 0 then { execute := .ok (302, [locationHeader "https://api.example"]) }
    else { execute := .ok (200, []) }

theorem redirect_confinement_leaveAndReturn : ∃ first away back,
      (sendAttempt twoHosts apiConfig authorizedCall leaveAndReturn).1 = [first, away, back] ∧
      first.authApplied = true ∧ first.url.sameOrigin back.url = true ∧
      back.headers.map (fun e => e.header.name) = ["accept"] ∧
      back.authApplied = false ∧ (∀ e ∈ back.headers, e.source ≠ .provider ∧
        (e.source = .caller → e.header.name ∉
          strippedNames (apiConfig.callerHeaders authorizedCall.headers))) := by
  refine ⟨_, _, _, rfl, by decide, by decide, by decide, ?_⟩
  exact (redirect_confinement twoHosts apiConfig authorizedCall leaveAndReturn rfl).2.2.2.2
    [] _ _ _ rfl (by decide) _ (List.mem_cons_of_mem _ (List.mem_singleton.mpr rfl))

section Body

variable {urls : UrlLibrary} {config : HttpClientConfig} {hops : Hops} {original : Url}

/-! ## The body along a chain -/

theorem redirectMethod_cases (status : Nat) (method : Method) :
    (redirectMethod status method).1 = method ∨
      (redirectMethod status method).1 = .get ∧ (redirectMethod status method).2 = false := by
  unfold redirectMethod
  split
  · exact .inr ⟨rfl, rfl⟩
  split
  · split
    · rename_i hhead
      exact .inl hhead.symm
    · exact .inr ⟨rfl, rfl⟩
  · exact .inl rfl

theorem buildHop_body {env : HopEnv} {carry : Carry} {next : Url} {request : Request}
    {generation : Nat} (h : buildHop config hops env carry next = .ok (request, generation)) :
    request.method = carry.method ∧
      request.body = if carry.bodyPresent then some hops.body else none := by
  simp only [buildHop, bind_eq_ok, Except.ok.injEq, Prod.mk.injEq] at h
  obtain ⟨_, -, _, -, _, -, _, -, _, -, _, -, _, -, hrequest, -⟩ := h
  rw [← hrequest]
  refine ⟨rfl, ?_⟩
  unfold attachBody
  split
  · split <;> rfl
  · rfl

/-- The method is the chain's or GET; only the former resends a body. -/
structure Replays (hops : Hops) (carry : Carry) (r : Request) : Prop where
  method : r.method = carry.method ∨ r.method = .get
  body : r.body = none ∨ r.body = some hops.body ∧ r.method = carry.method ∧
    carry.bodyPresent ∧ hops.replayableBody

theorem prepareHop_body {env : HopEnv} {followed : Nat} {carry carry' : Carry}
    {received : Response} {request : Request}
    (h : prepareHop urls config hops env original followed carry received =
      .ok (.next carry' request)) : (request.method = carry'.method ∧
      request.body = if carry'.bodyPresent then some hops.body else none) ∧
    (carry'.method = carry.method ∨ carry'.method = .get) ∧
    (carry'.bodyPresent → carry.bodyPresent ∧ carry'.method = carry.method ∧
      hops.replayableBody) := by
  simp only [prepareHop, bind_eq_ok] at h
  obtain ⟨_, -, response, -, _, -, h⟩ := h
  split at h
  · cases h
  split at h
  · cases h
  simp only [bind_eq_ok] at h
  obtain ⟨_, -, joined, -, _, -, h⟩ := h
  split at h
  · cases h
  rename_i hreplay
  simp only [bind_eq_ok, Except.ok.injEq, Prepared.next.injEq] at h
  obtain ⟨⟨built, generation⟩, hbuild, rfl, rfl⟩ := h
  have hcases := redirectMethod_cases response.status carry.method
  refine ⟨⟨(buildHop_body hbuild).1, (buildHop_body hbuild).2⟩, hcases.imp_right And.left, ?_⟩
  intro hpresent
  obtain ⟨hbody, hkept⟩ : carry.bodyPresent ∧
      (redirectMethod response.status carry.method).2 := Bool.and_eq_true_iff.mp hpresent
  refine ⟨hbody, hcases.resolve_right fun hget => ?_, by simpa [hkept, hbody] using hreplay⟩
  rw [hkept] at hget
  cases hget.2

/-- **A redirect resends a body only as it was sent**, with the method of the call and if the caller
allowed it; a dropped body is never taken up again. -/
theorem redirect_body_replay (urls : UrlLibrary) (config : HttpClientConfig) (hops : Hops)
    (env : Nat → HopEnv) (original : Url) (fuel followed : Nat) (carry : Carry)
    (response : Response) :
    let sent := (followFrom urls config hops env original fuel followed carry response).1
    (∀ r ∈ sent, Replays hops carry r) ∧
      sent.Pairwise fun a b => a.body = none → b.body = none := by
  refine followFrom_induction (P := fun _ carry _ sent => (∀ r ∈ sent, Replays hops carry r) ∧
    sent.Pairwise fun a b => a.body = none → b.body = none) ?_ ?_ fuel followed carry response
  · intro followed carry current
    exact ⟨by simp, .nil⟩
  · rintro followed carry received carry' request rest hprepare ⟨hrest, hpairs⟩
    obtain ⟨⟨hmethod, hbody⟩, hkind, hkept⟩ := prepareHop_body hprepare
    have hfirst : Replays hops carry' request := by
      refine ⟨.inl hmethod, ?_⟩
      cases hpresent : carry'.bodyPresent with
      | false => exact .inl (by rw [hbody, hpresent]; rfl)
      | true => exact .inr ⟨by rw [hbody, hpresent]; rfl, hmethod, rfl, (hkept hpresent).2.2⟩
    have hback : ∀ r, Replays hops carry' r → Replays hops carry r := by
      rintro r ⟨hlater, hpart⟩
      refine ⟨hlater.elim (fun h => h ▸ hkind) .inr, hpart.imp_right ?_⟩
      rintro ⟨hsome, hsame, hpresent, hreplay⟩
      obtain ⟨hcarried, hsame', -⟩ := hkept hpresent
      exact ⟨hsome, hsame.trans hsame', hcarried, hreplay⟩
    refine ⟨List.forall_mem_cons.mpr ⟨hback _ hfirst, fun r hr => hback r (hrest r hr)⟩,
      List.pairwise_cons.mpr ⟨fun r hr hnone => ?_, hpairs⟩⟩
    refine (hrest r hr).body.resolve_right fun hsent => ?_
    rw [hbody, if_pos hsent.2.2.1] at hnone
    cases hnone

end Body

end OpenNet.Http
