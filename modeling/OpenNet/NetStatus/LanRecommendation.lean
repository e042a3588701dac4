import Mathlib.Data.List.Destutter
import Mathlib.Data.List.Sort
import Mathlib.Data.Prod.Lex
import Mathlib.Data.String.Basic
import Mathlib.Order.WithBot

/-!
# The recommended LAN address

`lan_snapshot.rs` turns an inventory of IPv4 addresses into a snapshot: `select` sorts the
candidates, notes for each why the default policy excludes it, and marks the best of those that
nothing excludes.  The order of the inventory comes from the platform and means nothing.

An `Ipv4Addr` is the number its octets spell, most significant first, so that comparing octets is
comparing numbers.  Strings are compared by code points, which is how UTF-8 compares as bytes.
-/

namespace OpenNet.NetStatus.Lan

abbrev Ipv4Addr := UInt32

def Ipv4Addr.first (ip : Ipv4Addr) : UInt32 := ip >>> 24

def ipv4 (a b c d : UInt32) : Ipv4Addr := a <<< 24 ||| b <<< 16 ||| c <<< 8 ||| d

def inCidr (ip base : Ipv4Addr) (bits : UInt32) : Bool :=
  if bits = 0 then true else
    let mask : UInt32 := 0xffffffff <<< (32 - bits)
    ip &&& mask == base &&& mask

def Ipv4Addr.isPrivate (ip : Ipv4Addr) : Bool :=
  inCidr ip (ipv4 10 0 0 0) 8 || inCidr ip (ipv4 172 16 0 0) 12 || inCidr ip (ipv4 192 168 0 0) 16

/-- The kind of an interface. -/
inductive LanInterfaceKind
  | wifi | ethernet | bridge | tunnel | virtual | loopback | unknown
  deriving DecidableEq

/-- Why an address is excluded. -/
inductive LanIpv4Exclusion
  | interfaceDown | interfaceStateUnknown | pointToPoint | pointToPointStateUnknown
  | virtualInterfaceNameHint | platformVirtualOrTunnel | linkInactive | loopback | linkLocal
  | unspecified | broadcast | multicast | thisNetwork | reserved | sharedAddressSpace
  | benchmarkRange
  deriving DecidableEq

/-- What speaks for an address. -/
inductive LanIpv4RecommendationReason
  | activeLanDefaultRoute | activeWifiOrEthernet | activeBridge | lanLinkUnknown
  | metadataUnknown | bridgeLinkUnknown
  deriving DecidableEq

/-- An address of an interface. -/
structure LanIpv4Candidate where
  interfaceId : String
  interfaceName : String
  interfaceIndex : Option Nat
  address : Ipv4Addr
  netmask : Ipv4Addr
  prefixLen : Nat
  interfaceKind : LanInterfaceKind
  operUp : Option Bool
  pointToPoint : Option Bool
  linkActive : Option Bool
  defaultRoute : Option Bool
  exclusions : List LanIpv4Exclusion
  recommendation : Option LanIpv4RecommendationReason
  deriving DecidableEq

/-- Whether the query saw every interface. -/
inductive LanIpv4Completeness
  | complete | incomplete
  deriving DecidableEq

/-- The candidates of one query. -/
structure LanIpv4Snapshot where
  candidates : List LanIpv4Candidate
  completeness : LanIpv4Completeness
  diagnostics : List String
  queryStartedAt : Nat
  observedAt : Nat
  deriving DecidableEq

def virtualIfaceNameHints : List String :=
  ["clash", "wintun", "tun", "tap", "utun", "vpn", "wireguard", "wg", "tailscale", "zerotier",
    "hyper-v", "vethernet", "vmware", "virtualbox", "vbox", "loopback", "wsl", "docker"]

/-- `linux` is the target; container networks count there only. -/
def looksLikeVirtualIface (linux : Bool) (name : String) : Bool :=
  let lower := name.toList.map Char.toLower
  (linux && ["veth", "virbr", "br-", "cni", "flannel"].any (·.toList.isPrefixOf lower)) ||
    virtualIfaceNameHints.any fun hint => lower.tails.any hint.toList.isPrefixOf

variable (linux : Bool)

variable (c : LanIpv4Candidate)

/-- `exclusions`. -/
def exclusions : List LanIpv4Exclusion :=
  let ip := c.address
  (match c.operUp with
    | some false => [.interfaceDown]
    | none => [.interfaceStateUnknown]
    | some true => []) ++
  (match c.pointToPoint with
    | some true => [.pointToPoint]
    | none => [.pointToPointStateUnknown]
    | some false => []) ++
  (if looksLikeVirtualIface linux c.interfaceName then [.virtualInterfaceNameHint] else []) ++
  (if c.interfaceKind = .tunnel ∨ c.interfaceKind = .virtual then [.platformVirtualOrTunnel]
    else []) ++
  (if c.linkActive = some false then [.linkInactive] else []) ++
  (if ip.first = 127 ∨ c.interfaceKind = .loopback then [.loopback] else []) ++
  (if inCidr ip (ipv4 169 254 0 0) 16 then [.linkLocal] else []) ++
  (if ip = 0 then [.unspecified] else if ip.first = 0 then [.thisNetwork] else []) ++
  (if ip = 0xffffffff then [.broadcast] else if ip.first ≥ 240 then [.reserved] else []) ++
  (if 224 ≤ ip.first ∧ ip.first ≤ 239 then [.multicast] else []) ++
  (if inCidr ip (ipv4 100 64 0 0) 10 then [.sharedAddressSpace] else []) ++
  (if inCidr ip (ipv4 198 18 0 0) 15 then [.benchmarkRange] else [])

/-- `evidence`. -/
def evidence : Nat × LanIpv4RecommendationReason :=
  let lan := c.interfaceKind = .wifi ∨ c.interfaceKind = .ethernet
  let bridge := c.interfaceKind = .bridge
  let active := c.linkActive = some true
  if (lan ∨ bridge) ∧ active ∧ c.defaultRoute = some true then (5, .activeLanDefaultRoute)
  else if lan ∧ active then (4, .activeWifiOrEthernet)
  else if bridge ∧ active then (3, .activeBridge)
  else if lan then (2, .lanLinkUnknown)
  else if bridge then (0, .bridgeLinkUnknown)
  else (1, .metadataUnknown)

/-- Compared as tuples: evidence first, then private addresses. -/
def rank : ℕ ×ₗ Bool :=
  toLex ((evidence c).1, c.address.isPrivate)

/-- What candidates are sorted by; a missing index is least. -/
def LanIpv4Candidate.key : String ×ₗ ℕ ×ₗ WithBot ℕ ×ₗ String ×ₗ ℕ :=
  toLex (c.interfaceId, toLex (c.address.toNat, toLex (c.interfaceIndex,
    toLex (c.interfaceName, c.netmask.toNat))))

def refresh : LanIpv4Candidate :=
  { c with recommendation := none, exclusions := exclusions linux c }

def recommend : LanIpv4Candidate :=
  { c with recommendation := some (evidence c).2 }

/-- One round of the loop of `select`. -/
def consider (best : Option (ℕ × ℕ ×ₗ Bool)) :
    LanIpv4Candidate × ℕ → Option (ℕ × ℕ ×ₗ Bool)
  | (c, index) =>
    if c.exclusions ≠ [] then best
    else if best.all (fun b => b.2 < rank c) then some (index, rank c)
    else best

variable (cs : List LanIpv4Candidate)

def best : Option (ℕ × ℕ ×ₗ Bool) := cs.zipIdx.foldl consider none

def sorted : List LanIpv4Candidate :=
  cs.insertionSort fun a b => a.key ≤ b.key

/-- `observed` is the clock at the end of the call. -/
def select (diagnostics : List String) (started observed : ℕ) : LanIpv4Snapshot :=
  let cs := (sorted cs).map (refresh linux)
  let diagnostics := (diagnostics.insertionSort (· ≤ ·)).destutter (· ≠ ·)
  { candidates := match best cs with
      | some (index, _) => cs.modify index recommend
      | none => cs
    completeness := if diagnostics = [] then .complete else .incomplete
    diagnostics
    queryStartedAt := started
    observedAt := observed }

/-- `recommended`. -/
def LanIpv4Snapshot.recommended (snapshot : LanIpv4Snapshot) : List LanIpv4Candidate :=
  snapshot.candidates.filter (·.recommendation.isSome)

/-! ## The loop -/

def Best : Option (ℕ × ℕ ×ₗ Bool) → Prop
  | none => ∀ c ∈ cs, c.exclusions ≠ []
  | some (index, r) => ∃ c, cs[index]? = some c ∧ c.exclusions = [] ∧ r = rank c ∧
      ∀ d ∈ cs, d.exclusions = [] → rank d ≤ r

theorem Best.skip {cs : List LanIpv4Candidate} {b : Option (ℕ × ℕ ×ₗ Bool)}
    {c : LanIpv4Candidate} (h : Best cs b)
    (hc : c.exclusions = [] → ∃ i r, b = some (i, r) ∧ rank c ≤ r) : Best (cs ++ [c]) b := by
  rcases b with _ | ⟨i, r⟩
  · intro d hd
    obtain hd | rfl : d ∈ cs ∨ d = c := by simpa using hd
    · exact h d hd
    · intro hex
      obtain ⟨_, _, ⟨⟩, _⟩ := hc hex
  · obtain ⟨a, ha, hex, hr, hmax⟩ := h
    refine ⟨a, ?_, hex, hr, fun d hd hdex => ?_⟩
    · rw [List.getElem?_append_left (List.getElem?_eq_some_iff.mp ha).1]
      exact ha
    · obtain hd | rfl : d ∈ cs ∨ d = c := by simpa using hd
      · exact hmax d hd hdex
      · obtain ⟨_, _, ⟨⟩, hle⟩ := hc hdex
        exact hle

theorem best_spec : Best cs (best cs) := by
  induction cs using List.reverseRecOn with
  | nil => intro c hc; cases hc
  | append_singleton cs c ih =>
    have hbest : best (cs ++ [c]) = consider (best cs) (c, cs.length) := by
      simp [best, List.zipIdx_append]
    rw [hbest]
    dsimp only [consider]
    split_ifs with hex hgt
    · exact ih.skip fun h => absurd h hex
    · -- a strictly greater rank: the new candidate is at the end and beats whatever was held
      refine ⟨c, by simp, not_not.mp hex, rfl, fun d hd hdex => ?_⟩
      obtain hd | rfl : d ∈ cs ∨ d = c := by simpa using hd
      · rcases hb : best cs with _ | ⟨i, r⟩
        · rw [hb] at ih
          exact absurd hdex (ih d hd)
        · rw [hb] at ih hgt
          obtain ⟨_, _, _, _, hmax⟩ := ih
          exact (hmax d hd hdex).trans (le_of_lt (by simpa using hgt))
      · exact le_rfl
    · refine ih.skip fun _ => ?_
      rcases hb : best cs with _ | ⟨i, r⟩
      · simp [hb] at hgt
      · rw [hb] at hgt
        exact ⟨i, r, rfl, not_lt.mp (by simpa using hgt)⟩

/-! ## The snapshot -/

theorem sorted_perm {cs cs' : List LanIpv4Candidate} (hdistinct : (cs.map (·.key)).Nodup)
    (hperm : cs'.Perm cs) : sorted cs' = sorted cs := by
  have hsorted (l : List LanIpv4Candidate) : (sorted l).Pairwise fun a b => a.key ≤ b.key := by
    have : Std.Total fun a b : LanIpv4Candidate => a.key ≤ b.key := ⟨fun a b => le_total _ _⟩
    have : IsTrans _ fun a b : LanIpv4Candidate => a.key ≤ b.key := ⟨fun _ _ _ => le_trans⟩
    exact List.pairwise_insertionSort _ l
  have hback : (sorted cs).Perm cs := List.perm_insertionSort _ cs
  have hsame : (sorted cs').Perm (sorted cs) :=
    ((List.perm_insertionSort _ cs').trans hperm).trans hback.symm
  refine List.Perm.eq_of_pairwise (fun a b ha hb hab hba => ?_) (hsorted cs') (hsorted cs) hsame
  exact List.inj_on_of_nodup_map hdistinct (hback.mem_iff.mp (hsame.mem_iff.mp ha))
    (hback.mem_iff.mp hb) (le_antisymm hab hba)

theorem filter_modify {cs : List LanIpv4Candidate} {i : ℕ} {c : LanIpv4Candidate}
    (hnone : ∀ d ∈ cs, d.recommendation = none) (hc : cs[i]? = some c) :
    (cs.modify i recommend).filter (·.recommendation.isSome) = [recommend c] := by
  induction cs generalizing i with
  | nil => simp at hc
  | cons a cs ih =>
    have hrest : cs.filter (·.recommendation.isSome) = [] := by
      refine List.filter_eq_nil_iff.mpr fun d hd => ?_
      simp [hnone d (by simp [hd])]
    cases i with
    | zero =>
      obtain rfl : a = c := by simpa using hc
      simp [recommend, hrest]
    | succ i =>
      have ha : a.recommendation = none := hnone a (by simp)
      simpa [ha] using ih (fun d hd => hnone d (by simp [hd])) (by simpa using hc)

/-- Either everything is excluded and nothing is recommended, or exactly one candidate is. -/
theorem recommendation_select (cs : List LanIpv4Candidate) (diagnostics : List String)
    (started observed : ℕ) (hdistinct : (cs.map (·.key)).Nodup) :
    (∀ cs', cs'.Perm cs → select linux cs' diagnostics started observed =
      select linux cs diagnostics started observed) ∧ ((∀ c ∈ cs, exclusions linux c ≠ []) ∧
        (select linux cs diagnostics started observed).recommended = [] ∨
      ∃ c ∈ cs, exclusions linux c = [] ∧ (∀ d ∈ cs, exclusions linux d = [] → rank d ≤ rank c) ∧
        (select linux cs diagnostics started observed).recommended =
          [recommend (refresh linux c)]) := by
  refine ⟨fun cs' hperm => by unfold select; rw [sorted_perm hdistinct hperm], ?_⟩
  have hmem {c : LanIpv4Candidate} (hc : c ∈ cs) :
      refresh linux c ∈ (sorted cs).map (refresh linux) :=
    List.mem_map_of_mem ((List.perm_insertionSort _ cs).mem_iff.mpr hc)
  have hnone : ∀ d ∈ (sorted cs).map (refresh linux), d.recommendation = none := by
    intro d hd
    obtain ⟨c, _, rfl⟩ := List.mem_map.mp hd
    rfl
  have hspec := best_spec ((sorted cs).map (refresh linux))
  dsimp only [LanIpv4Snapshot.recommended, select]
  rcases hb : best ((sorted cs).map (refresh linux)) with _ | ⟨i, r⟩
  · rw [hb] at hspec
    refine .inl ⟨fun c hc => hspec _ (hmem hc), ?_⟩
    exact List.filter_eq_nil_iff.mpr fun d hd => by simp [hnone d hd]
  · rw [hb] at hspec
    obtain ⟨a, ha, hex, rfl, hmax⟩ := hspec
    obtain ⟨c, hc, rfl⟩ := List.mem_map.mp (List.mem_of_getElem? ha)
    have hc : c ∈ cs := (List.perm_insertionSort _ cs).mem_iff.mp hc
    -- neither the evidence nor the address depends on the two fields `refresh` writes
    exact .inr ⟨c, hc, hex, fun d hd hdex => hmax (refresh linux d) (hmem hd) hdex,
      filter_modify hnone ha⟩

def ethernet (name : String) (host : UInt32) (up : Bool) : LanIpv4Candidate where
  interfaceId := name
  interfaceName := name
  interfaceIndex := none
  address := ipv4 192 168 0 host
  netmask := ipv4 255 255 255 0
  prefixLen := 24
  interfaceKind := .ethernet
  operUp := some up
  pointToPoint := some false
  linkActive := some true
  defaultRoute := none
  exclusions := []
  recommendation := none

theorem recommendation_select_ethernet :
    let cs := [ethernet "eth0" 3 false, ethernet "eth1" 2 true]
    select true cs.reverse [] 0 1 = select true cs [] 0 1 ∧
      (select true cs [] 0 1).recommended =
        [recommend (refresh true (ethernet "eth1" 2 true))] := by
  have h := recommendation_select true
    [ethernet "eth0" 3 false, ethernet "eth1" 2 true] [] 0 1 (by decide)
  exact ⟨h.1 _ (List.reverse_perm _), by decide +kernel⟩

end OpenNet.NetStatus.Lan
