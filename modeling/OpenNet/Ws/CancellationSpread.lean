import OpenNet.Ws.CancellationTree

/-!
# How cancellation spreads

A walk is complete although domains are dropped while it goes on: a domain that is alive is
linked to its parent, and a live child of a cancelled domain is cancelled or still to be
visited.
-/

namespace OpenNet.Ws.CancellationTree

variable {t t' : CancellationTree}

structure Links (t : CancellationTree) : Prop where
  fresh : ∀ c, t.size ≤ c → (t.domain c).parent = none
  older : ∀ c p, (t.domain c).parent = some p → p < c
  linked : ∀ c p, c < t.size → t.Alive c → (t.domain c).parent = some p →
    c ∈ (t.domain p).children ∧ (t.domain c).keepsParent
  kin : ∀ p c, p < t.size → c ∈ (t.domain p).children → c < t.size ∧ (t.domain c).parent = some p

theorem Links.parents (h : Links t) (c p : DomainId) (hp : (t.domain c).parent = some p) :
    p < t.size := by
  refine Nat.lt_of_lt_of_le (h.older c p hp) (Nat.le_of_not_lt fun hc => ?_)
  rw [h.fresh c (Nat.le_of_lt hc)] at hp
  cases hp

/-- How far a call of `cancel` has come. -/
structure CallOk (t : CancellationTree) (k : CallId) : Prop where
  pending : ∀ x ∈ (t.call k).stage.pending, x < t.size ∧ t.Below (t.call k).domain x
  target : (t.call k).domain < t.size
  begun : (t.call k).stage ≠ .waiting → (t.call k).domain ∈ (t.call k).stage.pending ∨
    (t.domain (t.call k).domain).cancelled
  complete : (t.call k).stage.left → ∀ x, x < t.size → t.Below (t.call k).domain x →
    t.Alive x → (t.domain x).cancelled

structure TreeInv (t : CancellationTree) : Prop extends Links t where
  gate : ∀ k, t.gate = .walk k ↔
    k < t.started ∧ (t.call k).stage ≠ .waiting ∧ (t.call k).stage.left = false
  calls : ∀ k, k < t.started → CallOk t k
  /-- A live child of a cancelled domain is cancelled, or the walk has still to visit it. -/
  spread : ∀ c p, c < t.size → t.Alive c → (t.domain c).parent = some p →
    (t.domain p).cancelled → (t.domain c).cancelled ∨
      ∃ k, t.gate = .walk k ∧ c ∈ (t.call k).stage.pending
  caused : ∀ x, x < t.size → (t.domain x).cancelled → ∃ k, k < t.started ∧
    (t.call k).stage ≠ .waiting ∧ t.Below (t.call k).domain x
  admission : ∀ d, t.gate = .admission d → (t.domain d).cancelled = false

theorem treeInv_new : TreeInv ({} : CancellationTree) where
  fresh _ _ := rfl
  older _ _ h := by cases h
  linked _ _ _ _ h := by cases h
  kin _ _ _ h := by cases h
  gate k := by simp
  calls _ h := by cases h
  spread _ _ _ _ h := by cases h
  caused _ _ h := by cases h
  admission _ h := by cases h

namespace TreeInv

theorem spread_settled (h : TreeInv t)
    (hgate : ∀ k, t.gate = .walk k → (t.call k).stage.pending = [])
    {c p : DomainId} (hc : c < t.size) (halive : t.Alive c) (hp : (t.domain c).parent = some p)
    (hcancelled : (t.domain p).cancelled) : (t.domain c).cancelled := by
  rcases h.spread c p hc halive hp hcancelled with hdone | ⟨k, hk, hpending⟩
  · exact hdone
  · rw [hgate k hk] at hpending
    cases hpending

end TreeInv

/-! ## Steps that leave the tree -/

variable {k : CallId}

/-- The live tree is as before; no first reference came. -/
structure Shaped (t t' : CancellationTree) : Prop where
  size : t'.size = t.size := by rfl
  parent : ∀ d, (t'.domain d).parent = (t.domain d).parent := by exact fun _ => rfl
  kin : ∀ p c, c ∈ (t'.domain p).children → c ∈ (t.domain p).children := by exact fun _ _ h => h
  linked : ∀ p c, t.Alive c → c ∈ (t.domain p).children → c ∈ (t'.domain p).children := by
    exact fun _ _ _ h => h
  keeps : ∀ c, t.Alive c → (t.domain c).keepsParent →
    (t'.domain c).keepsParent := by exact fun _ _ h => h
  alive : ∀ d, t'.Alive d → t.Alive d := by exact fun _ h => h

theorem Shaped.below (m : Shaped t t') {d x : DomainId} : t'.Below d x ↔ t.Below d x :=
  ⟨fun h => h.of_parents fun c _ hp => (m.parent c).symm.trans hp,
    fun h => h.of_parents fun c _ hp => (m.parent c).trans hp⟩

theorem Shaped.links (m : Shaped t t') (h : Links t) : Links t' where
  fresh c hc := (m.parent c).trans (h.fresh c (m.size ▸ hc))
  older c p hp := h.older c p ((m.parent c).symm.trans hp)
  linked c p hc halive hp := by
    have hold := m.alive c halive
    obtain ⟨hlink, hkeeps⟩ := h.linked c p (m.size ▸ hc) hold ((m.parent c).symm.trans hp)
    exact ⟨m.linked p c hold hlink, m.keeps c hold hkeeps⟩
  kin p c hp hc := by
    rw [m.size, m.parent]
    exact h.kin p c (m.size ▸ hp) (m.kin p c hc)

theorem pending_of_left {s : CancelStage} (hs : s.left) : s.pending = [] := by
  obtain _ | _ | _ | _ := s <;> first | rfl | cases hs

def Follows (s s' : CancelStage) : Prop := s' = s ∨ s.left ∧ s'.left

theorem Follows.eqs {s s' : CancelStage} (h : Follows s s') :
    s'.pending = s.pending ∧ (s' = .waiting ↔ s = .waiting) ∧ s'.left = s.left := by
  obtain rfl | ⟨hs, hs'⟩ := h
  · exact ⟨rfl, .rfl, rfl⟩
  refine ⟨by rw [pending_of_left hs, pending_of_left hs'], ⟨?_, ?_⟩, hs'.trans hs.symm⟩
  · rintro rfl
    cases hs'
  · rintro rfl
    cases hs

namespace CallOk

theorem of_waiting (h : (t.call k).stage = .waiting) (hd : (t.call k).domain < t.size) :
    CallOk t k := by
  constructor <;> simp [h, hd, CancelStage.pending, CancelStage.left]

theorem follows (h : CallOk t k) (m : Shaped t t')
    (hcancelled : ∀ d, (t.domain d).cancelled → (t'.domain d).cancelled)
    (hdomain : (t'.call k).domain = (t.call k).domain)
    (hstage : Follows (t.call k).stage (t'.call k).stage) : CallOk t' k := by
  obtain ⟨hpending, hwaiting, hleft⟩ := hstage.eqs
  constructor
  case pending =>
    rw [hpending, m.size, hdomain]
    exact fun x hx => (h.pending x hx).imp_right m.below.mpr
  case target =>
    rw [m.size, hdomain]
    exact h.target
  case begun =>
    rw [hpending, hdomain]
    exact fun hw => (h.begun (mt hwaiting.mpr hw)).imp_right (hcancelled _)
  case complete =>
    rw [hleft, m.size, hdomain]
    exact fun hl x hx hb hlive =>
      hcancelled x (h.complete hl x hx (m.below.mp hb) (m.alive x hlive))

end CallOk

/-- The walk is as before too. -/
structure Frame (t t' : CancellationTree) : Prop extends Shaped t t' where
  cancelled : ∀ d, (t'.domain d).cancelled = (t.domain d).cancelled := by exact fun _ => rfl
  gate : ∀ k, t'.gate = .walk k ↔ t.gate = .walk k := by exact fun _ => .rfl
  started : t.started ≤ t'.started := by exact Nat.le_refl _
  call : ∀ k, k < t.started → (t'.call k).domain = (t.call k).domain ∧
    Follows (t.call k).stage (t'.call k).stage := by exact fun _ _ => ⟨rfl, .inl rfl⟩
  new : ∀ k, t.started ≤ k → k < t'.started →
    (t'.call k).stage = .waiting ∧ (t'.call k).domain < t.size := by
      exact fun _ hk hk' => absurd hk' (Nat.not_lt.mpr hk)
  admission : ∀ d, t'.gate = .admission d →
    t.gate = .admission d ∨ (t.domain d).cancelled = false := by exact fun _ => .inl

namespace Frame

theorem old (f : Frame t t') (hk : k < t'.started)
    (hstage : (t'.call k).stage ≠ .waiting) : k < t.started := by
  by_contra hnew
  exact hstage (f.new k (Nat.le_of_not_lt hnew) hk).1

theorem treeInv (f : Frame t t') (h : TreeInv t) : TreeInv t' where
  toLinks := f.links h.toLinks
  gate k := by
    rw [f.gate, h.gate]
    constructor
    · rintro ⟨hk, hwaiting, hleft⟩
      obtain ⟨-, hw, hl⟩ := (f.call k hk).2.eqs
      exact ⟨Nat.lt_of_lt_of_le hk f.started, mt hw.mp hwaiting, hl.trans hleft⟩
    · rintro ⟨hk, hwaiting, hleft⟩
      have hold := f.old hk hwaiting
      obtain ⟨-, hw, hl⟩ := (f.call k hold).2.eqs
      exact ⟨hold, mt hw.mpr hwaiting, hl.symm.trans hleft⟩
  calls k hk := by
    by_cases hold : k < t.started
    · exact (h.calls k hold).follows f.toShaped (fun d hd => (f.cancelled d).trans hd)
        (f.call k hold).1 (f.call k hold).2
    · obtain ⟨hwaiting, hsize⟩ := f.new k (Nat.le_of_not_lt hold) hk
      exact .of_waiting hwaiting (f.size ▸ hsize)
  spread c p hc halive hp hcancelled := by
    rw [f.cancelled] at hcancelled ⊢
    refine (h.spread c p (f.size ▸ hc) (f.alive c halive) ((f.parent c).symm.trans hp)
      hcancelled).imp_right ?_
    rintro ⟨k, hgate, hpending⟩
    refine ⟨k, (f.gate k).mpr hgate, ?_⟩
    rw [(f.call k ((h.gate k).mp hgate).1).2.eqs.1]
    exact hpending
  caused x hx hcancelled := by
    rw [f.cancelled] at hcancelled
    obtain ⟨k, hk, hwaiting, hbelow⟩ := h.caused x (f.size ▸ hx) hcancelled
    obtain ⟨hdomain, hstage⟩ := f.call k hk
    refine ⟨k, Nat.lt_of_lt_of_le hk f.started, mt hstage.eqs.2.1.mp hwaiting, ?_⟩
    rw [f.below, hdomain]
    exact hbelow
  admission d hd := by
    rw [f.cancelled]
    exact (f.admission d hd).elim (h.admission d) id

end Frame

variable {e x : DomainId} {state : CancellationState} {stage : CancelStage}

variable {d : DomainId}

theorem frame_setDomain (hparent : state.parent = (t.domain d).parent)
    (hcancelled : state.cancelled = (t.domain d).cancelled)
    (hkin : ∀ c, c ∈ state.children → c ∈ (t.domain d).children)
    (hlinked : ∀ c, t.Alive c → c ∈ (t.domain d).children → c ∈ state.children)
    (hkeeps : t.Alive d → (t.domain d).keepsParent → state.keepsParent)
    (hkept : state.keepsParent → (t.domain d).keepsParent)
    (hhandles : 0 < state.handles → 0 < (t.domain d).handles) : Frame t (t.setDomain d state) := by
  refine {
    parent := setDomain_field _ hparent
    kin := fun p c hc => ?_
    linked := fun p c hlive hc => ?_
    keeps := fun c hlive hc => ?_
    cancelled := setDomain_field _ hcancelled
    alive := fun e he => ?_ }
  · rw [setDomain_apply] at hc
    split at hc
    · rename_i hp
      exact hp ▸ hkin c hc
    · exact hc
  · rw [setDomain_apply]
    split
    · rename_i hp
      exact hlinked c hlive (hp ▸ hc)
    · exact hc
  · rw [setDomain_apply]
    split
    · rename_i hd
      exact hkeeps (hd ▸ hlive) (hd ▸ hc)
    · exact hc
  refine he.of (fun hh => ?_) (fun c hc hp hk => ?_) (fun g hg ho hs => alive_guard hg ho hs)
    (fun c hc hr => alive_call hc hr)
  · rw [setDomain_apply] at hh
    split at hh
    · rename_i hed
      exact alive_handle (hed ▸ hhandles hh)
    · exact alive_handle hh
  · rw [setDomain_field (·.parent) hparent] at hp
    refine alive_parent hc hp ?_
    rw [setDomain_apply] at hk
    split at hk
    · rename_i hcd
      exact hcd ▸ hkept hk
    · exact hk

theorem Frame.guards (f : Frame t t') {guard bound place}
    (hguard : ∀ e g, g < bound → (guard g).owner = e → (guard g).stage ≠ .gone → t.Alive e) :
    Frame t { t' with guard, bound, place } :=
  { f with
    alive := fun e he => he.of (fun hh => f.alive e (alive_handle hh))
      (fun _ hc hp hk => f.alive e (alive_parent hc hp hk)) (hguard e)
      (fun _ hc hr => f.alive e (alive_call hc hr)) }

theorem frame_handles (d : DomainId) (n : Nat) (h : 0 < n → 0 < (t.domain d).handles) :
    Frame t (t.setDomain d { t.domain d with handles := n }) :=
  frame_setDomain rfl rfl (fun _ hc => hc) (fun _ _ hc => hc) (fun _ hk => hk) id h

theorem frame_unlink {d p : DomainId} (hdead : ¬ t.Alive d) :
    Frame t (t.setDomain p { t.domain p with children := (t.domain p).children.erase d }) := by
  refine frame_setDomain rfl rfl (fun _ hc => List.mem_of_mem_erase hc) (fun c hlive hc => ?_)
    (fun _ hk => hk) id id
  have hne : c ≠ d := fun heq => hdead (heq ▸ hlive)
  exact (List.mem_erase_of_ne hne).mpr hc

theorem frame_releaseParent (hdead : ¬ t.Alive d) :
    Frame t (t.setDomain d { t.domain d with keepsParent := false }) :=
  frame_setDomain rfl rfl (fun _ hc => hc) (fun _ _ hc => hc) (fun hlive _ => absurd hlive hdead)
    nofun id

theorem frame_hooks (d : DomainId) (hooks : List HookId) :
    Frame t (t.setDomain d { t.domain d with hooks }) :=
  frame_setDomain rfl rfl (fun _ hc => hc) (fun _ _ hc => hc) (fun _ hk => hk) id id

theorem frame_bindHook (hd : 0 < (t.domain d).handles) : Frame t (t.bindHook d) := by
  refine (frame_hooks d _).guards fun e g hg ho hs => ?_
  by_cases hnew : g = t.bound
  · -- The guard that is made now refers to a domain of which there is a handle.
    have howner : d = e := by simpa [hnew] using ho
    exact howner ▸ alive_handle hd
  · rw [Function.update_of_ne hnew] at ho hs
    exact alive_guard (Nat.lt_of_le_of_ne (Nat.le_of_lt_succ hg) hnew) ho hs

theorem frame_unregisterHook {h : HookId} (hh : (t.guard h).stage = .held) :
    Frame t (t.unregisterHook h) := by
  refine (frame_hooks (t.guard h).owner _).guards fun e g hg ho hs => ?_
  by_cases hg' : g = h
  · have howner : (t.guard h).owner = e := by simpa [hg'] using ho
    exact alive_guard hg (hg' ▸ howner) (by rw [hg', hh]; decide)
  rw [Function.update_of_ne hg'] at ho hs
  exact alive_guard hg ho hs

theorem frame_forgetHook (h : HookId) : Frame t (t.forgetHook h) := by
  refine Frame.guards (t := t) {} fun e g hg ho hs => ?_
  by_cases hg' : g = h
  · exact absurd (by simp [hg']) hs
  rw [Function.update_of_ne hg'] at ho hs
  exact alive_guard hg ho hs

theorem frame_gate {gate : Gate} (hold : ∀ k, t.gate ≠ .walk k) (hnew : ∀ k, gate ≠ .walk k)
    (hactive : ∀ d, gate = .admission d → (t.domain d).cancelled = false) :
    Frame t { t with gate } :=
  { gate := fun k => ⟨fun h => absurd h (hnew k), fun h => absurd h (hold k)⟩
    admission := fun d hd => .inr (hactive d hd) }

theorem startCancel_old (hk : k < t.started) : (t.startCancel d).call k = t.call k := by
  have hne : k ≠ t.started := Nat.ne_of_lt hk
  simp [startCancel, hne]

theorem frame_startCancel (hd : d < t.size) (hhandles : 0 < (t.domain d).handles) :
    Frame t (t.startCancel d) := by
  refine {
    alive := fun e he => ?_
    started := Nat.le_succ _
    call := fun k hk => by
      rw [startCancel_old hk]
      exact ⟨rfl, .inl rfl⟩
    new := fun k hk hk' => ?_ }
  · refine he.of (fun hh => alive_handle hh) (fun c hc hp hk => alive_parent hc hp hk)
      (fun g hg ho hs => alive_guard hg ho hs) (fun c hc hr => ?_)
    by_cases hold : c < t.started
    · rw [startCancel_old hold] at hr
      exact alive_call hold hr
    have hlt : c < t.started + 1 := hc
    have hnew : c = t.started := by omega
    have htarget : d = e := by
      simpa [startCancel, hnew, CancelCall.refers, CancelStage.pending, CancelStage.visited]
        using hr
    exact htarget ▸ alive_handle hhandles
  · have hlt : k < t.started + 1 := hk'
    have hnew : k = t.started := by omega
    simp [startCancel, hnew, hd]

theorem alive_of_setStage {c : CallId} (h : (t.setStage c stage).Alive e)
    (hrefers : c < t.started → ({ t.call c with stage } : CancelCall).refers e → t.Alive e) :
    t.Alive e := by
  refine h.of (fun hh => alive_handle hh) (fun x hx hp hk => alive_parent hx hp hk)
    (fun g hg ho hs => alive_guard hg ho hs) (fun k hk hr => ?_)
  by_cases hkc : k = c
  · subst hkc
    rw [setStage_same] at hr
    exact hrefers hk hr
  · rw [setStage_other hkc] at hr
    exact alive_call hk hr

theorem frame_setStage {c : CallId} (hold : (t.call c).stage.left) (hnew : stage.left)
    (hvisited : stage ≠ .returned → (t.call c).stage ≠ .returned ∧
      ∀ d, d ∈ stage.visited → d ∈ (t.call c).stage.visited) : Frame t (t.setStage c stage) := by
  refine { alive := fun e he => ?_, call := fun k _ => ⟨setStage_domain c k stage, ?_⟩ }
  · refine alive_of_setStage he fun hc hr => ?_
    obtain ⟨hstage, href⟩ := hr
    obtain ⟨hreturned, hsub⟩ := hvisited hstage
    refine alive_call hc ⟨hreturned, ?_⟩
    rcases href with htarget | hp | hv
    · exact .inl htarget
    · rw [pending_of_left hnew] at hp
      cases hp
    · exact .inr (.inr (hsub e hv))
  · by_cases hkc : k = c
    · rw [hkc, setStage_same]
      exact .inr ⟨hold, hnew⟩
    · rw [setStage_other hkc]
      exact .inl rfl

/-! ## A new child -/

section Child

variable {d : DomainId}

theorem addChild_new : (t.addChild d).domain t.size =
    { parent := some d, cancelled := (t.domain d).cancelled,
      notified := (t.domain d).cancelled } := by
  simp [addChild, setDomain]

theorem addChild_old (he : e ≠ t.size) : (t.addChild d).domain e =
    { t.domain e with
      children := if e = d then (t.domain e).children ++ [t.size] else (t.domain e).children } := by
  have hother : (t.addChild d).domain e =
      (t.setDomain d { t.domain d with children := (t.domain d).children ++ [t.size] }).domain e :=
    by simp [addChild, setDomain, he]
  rw [hother, setDomain_apply]
  split
  · rename_i heq
    rw [heq]
  · rfl

theorem addChild_parent (he : e ≠ t.size) :
    ((t.addChild d).domain e).parent = (t.domain e).parent := by
  rw [addChild_old he]

/-- The new child is the only reference that is made, and there is a handle to its parent. -/
theorem alive_of_addChild (hhandles : 0 < (t.domain d).handles) (he : e < t.size)
    (h : (t.addChild d).Alive e) : t.Alive e := by
  have hne : e ≠ t.size := Nat.ne_of_lt he
  refine h.of (fun hh => ?_) (fun c hc hp hk => ?_) (fun g hg ho hs => alive_guard hg ho hs)
    (fun c hc hr => alive_call hc hr)
  · rw [addChild_old hne] at hh
    exact alive_handle hh
  · by_cases hnew : c = t.size
    · rw [hnew, addChild_new] at hp
      exact Option.some.inj hp ▸ alive_handle hhandles
    · rw [addChild_parent hnew] at hp
      rw [addChild_old hnew] at hk
      exact alive_parent (Nat.lt_of_le_of_ne (Nat.le_of_lt_succ hc) hnew) hp hk

theorem TreeInv.below_addChild (h : TreeInv t) (hb : t.Below e x) : (t.addChild d).Below e x := by
  refine hb.of_parents fun c p hp => ?_
  by_cases hnew : c = t.size
  · rw [hnew, h.fresh _ (Nat.le_refl _)] at hp
    cases hp
  · exact (addChild_parent hnew).trans hp

/-- The chain from an old domain up to its ancestors has no new domain in it. -/
theorem TreeInv.below_of_addChild (h : TreeInv t) (hx : x < t.size)
    (hb : (t.addChild d).Below e x) : t.Below e x := by
  induction hb with
  | refl => exact .refl e
  | tail hlower hp ih =>
    have hold := hp
    rw [addChild_parent (Nat.ne_of_lt hx)] at hold
    exact (ih (h.parents _ _ hold)).child hold

theorem lt_of_addChild {c : DomainId} (hc : c < t.size + 1) (hnew : c ≠ t.size) : c < t.size :=
  Nat.lt_of_le_of_ne (Nat.le_of_lt_succ hc) hnew

section

variable (hd : d < t.size) (hhandles : 0 < (t.domain d).handles)
include hd hhandles

theorem Links.addChild (h : Links t) : Links (t.addChild d) := by
  constructor
  case fresh =>
    intro c hc
    have hne : c ≠ t.size := Nat.ne_of_gt hc
    rw [addChild_parent hne]
    exact h.fresh c (Nat.le_of_succ_le hc)
  case older =>
    intro c p hp
    by_cases hnew : c = t.size
    · rw [hnew, addChild_new] at hp
      rw [hnew, ← Option.some.inj hp]
      exact hd
    · rw [addChild_parent hnew] at hp
      exact h.older c p hp
  case linked =>
    intro c p hc halive hp
    by_cases hnew : c = t.size
    · rw [hnew, addChild_new] at hp ⊢
      have hpd : d = p := Option.some.inj hp
      rw [← hpd, addChild_old (Nat.ne_of_lt hd)]
      simp only [if_true]
      exact ⟨List.mem_append_right _ (List.mem_singleton_self _), trivial⟩
    · rw [addChild_parent hnew] at hp
      have hp' := h.parents c p hp
      obtain ⟨hlink, hkeeps⟩ :=
        h.linked c p (lt_of_addChild hc hnew)
          (alive_of_addChild hhandles (lt_of_addChild hc hnew) halive) hp
      rw [addChild_old hnew, addChild_old (Nat.ne_of_lt hp')]
      refine ⟨?_, hkeeps⟩
      split
      · exact List.mem_append_left _ hlink
      · exact hlink
  case kin =>
    intro p c hp hc
    by_cases hnew : p = t.size
    · rw [hnew, addChild_new] at hc
      cases hc
    have hp' := lt_of_addChild hp hnew
    rw [addChild_old hnew] at hc
    have hcases : c ∈ (t.domain p).children ∨ (c = t.size ∧ p = d) := by
      split at hc
      · rename_i hpd
        rcases List.mem_append.mp hc with hold | hadded
        · exact .inl hold
        · exact .inr ⟨List.mem_singleton.mp hadded, hpd⟩
      · exact .inl hc
    rcases hcases with hold | ⟨hadded, hpd⟩
    · obtain ⟨hcs, hcp⟩ := h.kin p c hp' hold
      exact ⟨Nat.lt_succ_of_lt hcs, (addChild_parent (Nat.ne_of_lt hcs)).trans hcp⟩
    · rw [hadded, addChild_new, hpd]
      exact ⟨Nat.lt_succ_self _, rfl⟩

theorem TreeInv.addChild (h : TreeInv t) (hgate : t.gate = .free) : TreeInv (t.addChild d) := by
  have hnowalk : ∀ k, t.gate = .walk k → (t.call k).stage.pending = [] := by
    intro k hk
    rw [hgate] at hk
    cases hk
  constructor
  case toLinks => exact h.toLinks.addChild hd hhandles
  case gate => exact h.gate
  case calls =>
    intro k hk
    have hcall := h.calls k hk
    have htarget := Nat.ne_of_lt hcall.target
    constructor
    case pending =>
      intro x hx
      obtain ⟨hsize, hbelow⟩ := hcall.pending x hx
      exact ⟨Nat.lt_succ_of_lt hsize, h.below_addChild hbelow⟩
    case target => exact Nat.lt_succ_of_lt hcall.target
    case begun =>
      refine fun hw => (hcall.begun hw).imp_right fun hx => ?_
      change ((t.addChild d).domain (t.call k).domain).cancelled
      rw [addChild_old htarget]
      exact hx
    case complete =>
      intro hleft x hx hbelow halive
      by_cases hnew : x = t.size
      · rw [hnew] at hbelow ⊢
        rcases hbelow.cases with heq | ⟨p, hlower, hp⟩
        · exact absurd heq.symm htarget
        rw [addChild_new] at hp ⊢
        obtain rfl : d = p := Option.some.inj hp
        exact hcall.complete hleft d hd (h.below_of_addChild hd hlower) (alive_handle hhandles)
      · rw [addChild_old hnew]
        exact hcall.complete hleft x (lt_of_addChild hx hnew)
          (h.below_of_addChild (lt_of_addChild hx hnew) hbelow)
          (alive_of_addChild hhandles (lt_of_addChild hx hnew) halive)
  case spread =>
    intro c p hc halive hp hcancelled
    refine .inl ?_
    by_cases hnew : c = t.size
    · -- The child of a cancelled domain starts cancelled.
      rw [hnew, addChild_new] at hp ⊢
      rw [← Option.some.inj hp, addChild_old (Nat.ne_of_lt hd)] at hcancelled
      exact hcancelled
    · rw [addChild_parent hnew] at hp
      rw [addChild_old (Nat.ne_of_lt (h.parents c p hp))] at hcancelled
      rw [addChild_old hnew]
      exact h.spread_settled hnowalk (lt_of_addChild hc hnew)
        (alive_of_addChild hhandles (lt_of_addChild hc hnew) halive) hp hcancelled
  case caused =>
    intro x hx hcancelled
    by_cases hnew : x = t.size
    · rw [hnew, addChild_new] at hcancelled
      obtain ⟨k, hk, hw, hbelow⟩ := h.caused d hd hcancelled
      refine ⟨k, hk, hw, (h.below_addChild hbelow).child ?_⟩
      rw [hnew, addChild_new]
    · rw [addChild_old hnew] at hcancelled
      obtain ⟨k, hk, hw, hbelow⟩ := h.caused x (lt_of_addChild hx hnew) hcancelled
      exact ⟨k, hk, hw, h.below_addChild hbelow⟩
  case admission =>
    intro e he
    have hgate' : t.gate = .admission e := he
    rw [hgate] at hgate'
    cases hgate'

end

/-! ## The walk -/

section Walk

variable {c : CallId} {d : DomainId} {pending cancelled : List DomainId} {taken : List HookId}

/-- The call that has the gate takes a step of its walk: its stage changes, and domains below its
target are cancelled. -/
theorem TreeInv.walk (h : TreeInv t) (m : Shaped t t') (hstarted : t'.started = t.started)
    (hcall : t'.call = (t.setStage c stage).call)
    (hgate : t'.gate = if stage.left then .free else .walk c)
    (hc : c < t.started) (hwaiting : stage ≠ .waiting) (honly : ∀ k, t.gate = .walk k → k = c)
    (hpending : ∀ x ∈ stage.pending, x < t.size ∧ t.Below (t.call c).domain x)
    (htarget : (t.call c).domain ∈ stage.pending ∨ (t'.domain (t.call c).domain).cancelled)
    (hkept : ∀ e, (t.domain e).cancelled → (t'.domain e).cancelled)
    (hspread : ∀ x p, x < t.size → t.Alive x → (t.domain x).parent = some p →
      (t'.domain p).cancelled → (t'.domain x).cancelled ∨ x ∈ stage.pending)
    (hcaused : ∀ x, (t'.domain x).cancelled → (t.domain x).cancelled ∨ t.Below (t.call c).domain x)
    (hdone : stage.left → ∀ x, x < t.size → t.Alive x → t.Below (t.call c).domain x →
      (t'.domain x).cancelled) : TreeInv t' := by
  have hsame : t'.call c = { t.call c with stage } := by rw [hcall, setStage_same]
  have hother : ∀ {k}, k ≠ c → t'.call k = t.call k := fun hk => by rw [hcall, setStage_other hk]
  have hwalks : ∀ x ∈ stage.pending, t'.gate = .walk c := fun x hx => by
    rw [hgate, if_neg]
    rintro hleft
    rw [pending_of_left hleft] at hx
    cases hx
  constructor
  case toLinks => exact m.links h.toLinks
  case gate =>
    intro k
    rw [hgate, hstarted]
    by_cases hk : k = c
    · subst hk
      rw [hsame]
      cases hleft : stage.left with
      | false => exact ⟨fun _ => ⟨hc, hwaiting, rfl⟩, fun _ => rfl⟩
      | true => exact ⟨fun hw => (by cases hw), fun hw => by cases hw.2.2⟩
    · rw [hother hk]
      refine ⟨fun hw => ?_, fun ⟨hlt, hwait, hleft⟩ => ?_⟩
      · split at hw
        · cases hw
        · exact absurd (Gate.walk.inj hw).symm hk
      · exact absurd (honly k ((h.gate k).mpr ⟨hlt, hwait, hleft⟩)) hk
  case calls =>
    intro k hk
    by_cases hkc : k = c
    · subst hkc
      constructor <;> rw [hsame]
      · exact fun x hx => m.size ▸ (hpending x hx).imp_right m.below.mpr
      · exact m.size ▸ (h.calls k hc).target
      · exact fun _ => htarget
      · exact fun hleft x hx hb hlive =>
          hdone hleft x (m.size ▸ hx) (m.alive x hlive) (m.below.mp hb)
    · exact (h.calls k (hstarted ▸ hk)).follows m hkept (by rw [hother hkc])
        (.inl (by rw [hother hkc]))
  case spread =>
    intro x p hx hlive hp hcancelled
    refine (hspread x p (m.size ▸ hx) (m.alive x hlive) ((m.parent x).symm.trans hp)
      hcancelled).imp_right fun hx => ⟨c, hwalks x hx, ?_⟩
    rw [hsame]
    exact hx
  case caused =>
    intro x hx hcancelled
    rw [hstarted]
    have hown : t'.Below (t'.call c).domain x ↔ t.Below (t.call c).domain x := by
      rw [hsame, m.below]
    obtain hold | hnew := hcaused x hcancelled
    · obtain ⟨k, hk, hw, hb⟩ := h.caused x (m.size ▸ hx) hold
      by_cases hkc : k = c
      · exact ⟨c, hc, by rw [hsame]; exact hwaiting, hown.mpr (hkc ▸ hb)⟩
      · exact ⟨k, hk, by rw [hother hkc]; exact hw, by rw [hother hkc, m.below]; exact hb⟩
    · exact ⟨c, hc, by rw [hsame]; exact hwaiting, hown.mpr hnew⟩
  case admission =>
    intro e he
    rw [hgate] at he
    split at he <;> cases he

theorem TreeInv.enterWalk (h : TreeInv t) (hfree : t.gate = .free) (hc : c < t.started)
    (hstage : (t.call c).stage = .waiting) : TreeInv (t.enterWalk c) := by
  have hnowalk : ∀ k, t.gate ≠ .walk k := fun k hk => by cases hfree.symm.trans hk
  refine h.walk (c := c) { alive := fun e he => ?_ } rfl rfl rfl hc nofun
    (fun k hk => absurd hk (hnowalk k)) (fun x hx => ?_) (.inl List.mem_cons_self) (fun _ => id)
    (fun x p hx hlive hp hcancelled => ?_) (fun _ => .inl) nofun
  · refine alive_of_setStage he fun _ hr => alive_call hc ⟨by rw [hstage]; decide, .inl ?_⟩
    rcases hr.2 with htarget | hp | hv
    · exact htarget
    · exact (List.mem_singleton.mp hp).symm
    · cases hv
  · rw [List.mem_singleton.mp hx]
    exact ⟨(h.calls c hc).target, .refl _⟩
  · exact .inl (h.spread_settled (fun k hk => absurd hk (hnowalk k)) hx hlive hp hcancelled)

/-- Everything alive below the domain that was cancelled has been visited. -/
theorem TreeInv.walked (h : TreeInv t) (hgate : t.gate = .walk c)
    (hdone : (t.call c).stage.pending = []) (hx : x < t.size) (hlive : t.Alive x)
    (hbelow : t.Below (t.call c).domain x) : (t.domain x).cancelled := by
  obtain ⟨hc, hwaiting, -⟩ := (h.gate c).mp hgate
  induction hbelow with
  | refl =>
    rcases (h.calls c hc).begun hwaiting with hpending | hcancelled
    · rw [hdone] at hpending
      cases hpending
    · exact hcancelled
  | tail _ hp ih =>
    -- The parent is alive because its child is, so the walk has come through it.
    have hparent := ih (h.parents _ _ hp) (alive_parent hx hp (h.linked _ _ hx hlive hp).2)
    refine h.spread_settled (fun k hk => ?_) hx hlive hp hparent
    rw [hgate] at hk
    rw [← Gate.walk.inj hk]
    exact hdone

theorem TreeInv.leaveWalk (h : TreeInv t) (hgate : t.gate = .walk c)
    (hstage : (t.call c).stage = .walking [] cancelled taken) :
    TreeInv (t.leaveWalk c cancelled taken) := by
  obtain ⟨hc, hwaiting, -⟩ := (h.gate c).mp hgate
  have hdone : (t.call c).stage.pending = [] := by rw [hstage]; rfl
  refine h.walk (c := c) { alive := fun e he => ?_ } rfl rfl rfl hc nofun
    (fun k hk => (Gate.walk.inj (hgate.symm.trans hk)).symm) nofun (.inr ?_)
    (fun _ => id) (fun x p hx hlive hp hcancelled => .inl ?_) (fun _ => .inl)
    fun _ x hx hlive hb => h.walked hgate hdone hx hlive hb
  · refine alive_of_setStage he fun _ hr => alive_call hc ⟨by rw [hstage]; simp, ?_⟩
    rw [hstage]
    exact hr.2
  · exact h.walked hgate hdone (h.calls c hc).target
      (alive_call hc ⟨by rw [hstage]; simp, .inl rfl⟩)
      (.refl _)
  · refine h.spread_settled (fun k hk => ?_) hx hlive hp hcancelled
    rw [hgate] at hk
    rw [← Gate.walk.inj hk]
    exact hdone

/-! ### One turn of the walk -/

variable {children : List DomainId} {hooks : List HookId}

theorem visitDomain_same : (t.visitDomain c d pending cancelled taken children hooks).call c =
    { t.call c with stage := .walking (children ++ pending) (cancelled ++ [d]) (taken ++ hooks) } :=
  setStage_same c _

theorem visitDomain_other (hk : k ≠ c) :
    (t.visitDomain c d pending cancelled taken children hooks).call k = t.call k :=
  setStage_other hk _

theorem visitDomain_domain (e : DomainId) :
    (t.visitDomain c d pending cancelled taken children hooks).domain e =
      if e = d then { t.domain d with cancelled := true, hooks := [] } else t.domain e :=
  setDomain_apply d e _

theorem visitDomain_field {α : Type} (field : CancellationState → α)
    (hfield : field { t.domain d with cancelled := true, hooks := [] } = field (t.domain d))
    (e : DomainId) :
    field ((t.visitDomain c d pending cancelled taken children hooks).domain e) =
      field (t.domain e) :=
  setDomain_field field hfield e

theorem visitDomain_cancelled (e : DomainId) :
    ((t.visitDomain c d pending cancelled taken children hooks).domain e).cancelled ↔
      e = d ∨ (t.domain e).cancelled := by
  rw [visitDomain_domain]
  split
  · rename_i he
    simp [he]
  · rename_i he
    simp [he]

theorem visitDomain_below :
    (t.visitDomain c d pending cancelled taken children hooks).Below e x ↔ t.Below e x :=
  ⟨fun h => h.of_parents fun y _ hp => (visitDomain_field (·.parent) rfl y).symm.trans hp,
    fun h => h.of_parents fun y _ hp => (visitDomain_field (·.parent) rfl y).trans hp⟩

theorem TreeInv.visitDomain (h : TreeInv t) (hgate : t.gate = .walk c)
    (hstage : (t.call c).stage = .walking (d :: pending) cancelled taken)
    (hchildren : children.Perm (t.liveChildren d)) :
    TreeInv (t.visitDomain c d pending cancelled taken children hooks) := by
  obtain ⟨hc, hwaiting, -⟩ := (h.gate c).mp hgate
  have hpending : (t.call c).stage.pending = d :: pending := by rw [hstage]; rfl
  obtain ⟨hd, hbelowd⟩ := (h.calls c hc).pending d (hpending ▸ List.mem_cons_self)
  have hchild : ∀ x, x ∈ children ↔ x ∈ (t.domain d).children ∧ t.Alive x :=
    fun x => hchildren.mem_iff.trans (by simp [liveChildren])
  have halive : ∀ e, (t.visitDomain c d pending cancelled taken children hooks).Alive e →
      t.Alive e := by
    intro e he
    have hrefers : (t.call c).domain = e ∨ e ∈ d :: pending ∨ e ∈ cancelled → t.Alive e :=
      fun hr => alive_call hc ⟨by rw [hstage]; simp, by rwa [hstage]⟩
    refine he.of (fun hh => ?_) (fun y hy hp hk => ?_) (fun g hg ho hs => alive_guard hg ho hs)
      (fun k hk hr => ?_)
    · rw [visitDomain_field (·.handles) rfl] at hh
      exact alive_handle hh
    · rw [visitDomain_field (·.parent) rfl] at hp
      rw [visitDomain_field (·.keepsParent) rfl] at hk
      exact alive_parent hy hp hk
    · by_cases hkc : k = c
      · rw [hkc, visitDomain_same] at hr
        rcases hr.2 with htarget | hp | hv
        · exact hrefers (.inl htarget)
        · rcases List.mem_append.mp hp with hnew | hrest
          · exact ((hchild e).mp hnew).2
          · exact hrefers (.inr (.inl (List.mem_cons_of_mem _ hrest)))
        · rcases List.mem_append.mp hv with hvisited | hlast
          · exact hrefers (.inr (.inr hvisited))
          · exact hrefers (.inr (.inl (List.mem_singleton.mp hlast ▸ List.mem_cons_self)))
      · rw [visitDomain_other hkc] at hr
        exact alive_call hk hr
  have hshaped : Shaped t (t.visitDomain c d pending cancelled taken children hooks) :=
    { parent := visitDomain_field (·.parent) rfl
      kin := fun p x hx => visitDomain_field (·.children) rfl p ▸ hx
      linked := fun p x _ hx => (visitDomain_field (·.children) rfl p).symm ▸ hx
      keeps := fun x _ hx => (visitDomain_field (·.keepsParent) rfl x).trans hx
      alive := halive }
  refine h.walk (c := c) hshaped rfl rfl hgate hc nofun
    (fun k hk => (Gate.walk.inj (hgate.symm.trans hk)).symm) (fun x hx => ?_) ?_
    (fun e he => visitDomain_cancelled e |>.mpr (.inr he)) (fun x p hx hlive hp hcancelled => ?_)
    (fun x hx => ?_) nofun
  · rcases List.mem_append.mp hx with hnew | hrest
    · obtain ⟨hsize, hparent⟩ := h.kin d x hd ((hchild x).mp hnew).1
      exact ⟨hsize, hbelowd.child hparent⟩
    · exact (h.calls c hc).pending x (hpending ▸ List.mem_cons_of_mem _ hrest)
  · rw [visitDomain_cancelled]
    rcases (h.calls c hc).begun hwaiting with hp | hx
    · rcases List.mem_cons.mp (hpending ▸ hp) with heq | hrest
      · exact .inr (.inl heq)
      · exact .inl (List.mem_append_right _ hrest)
    · exact .inr (.inr hx)
  · rw [visitDomain_cancelled] at hcancelled ⊢
    rcases hcancelled with hpd | hold
    · -- A live child of the domain is in the map, so its reference is upgraded.
      subst hpd
      exact .inr (List.mem_append_left _ ((hchild x).mpr ⟨(h.linked x p hx hlive hp).1, hlive⟩))
    · rcases h.spread x p hx hlive hp hold with hdone | ⟨k, hk, hrest⟩
      · exact .inl (.inr hdone)
      · rw [hgate] at hk
        rw [← Gate.walk.inj hk, hpending] at hrest
        rcases List.mem_cons.mp hrest with heq | hlater
        · exact .inl (.inl heq)
        · exact .inr (List.mem_append_right _ hlater)
  · rcases (visitDomain_cancelled x).mp hx with heq | hold
    · exact .inr (heq ▸ hbelowd)
    · exact .inl hold

end Walk

/-! ## After the walk -/

theorem TreeInv.wakeNext (h : TreeInv t) (c : CallId) : TreeInv (t.wakeNext c) := by
  unfold CancellationTree.wakeNext
  split
  · rename_i d cancelled hooks hstage
    have hnotify : Frame t (t.setDomain d { t.domain d with notified := true }) :=
      frame_setDomain rfl rfl (fun _ hc => hc) (fun _ _ hc => hc) (fun _ hk => hk) id id
    refine (frame_setStage (c := c) ?_ rfl fun _ => ⟨?_, fun e he => ?_⟩).treeInv
      (hnotify.treeInv h)
    · exact (congrArg CancelStage.left hstage).trans rfl
    · exact fun hr => by cases hstage.symm.trans hr
    · exact (congrArg CancelStage.visited hstage) ▸ List.mem_cons_of_mem d he
  · rename_i g hooks hstage
    have hrun : Frame t (t.setStage c (.waking [] hooks)) :=
      frame_setStage (by rw [hstage]; rfl) rfl fun _ => ⟨by rw [hstage]; simp, nofun⟩
    exact Frame.treeInv { hrun with } h
  · rename_i hstage
    exact (frame_setStage (by rw [hstage]; rfl) rfl fun hr => absurd rfl hr).treeInv h
  · exact h

end Child

end OpenNet.Ws.CancellationTree
