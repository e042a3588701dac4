import Mathlib.Data.List.Count
import Mathlib.Data.List.Nodup
import OpenNet.Ws.CancellationSpread

/-!
# Cancellation hooks, and what a tree guarantees

A hook is in one place, and there once: registered, taken by a call, run or dropped.
-/

namespace OpenNet.Ws

/-- The actions of call `k` after its start. -/
def TreeAction.OfCall (k : CallId) : TreeAction → Prop
  | .enter c | .visit c _ _ | .leave c | .wake c => c = k
  | _ => False

namespace CancellationTree

variable {t t' : CancellationTree}

/-- Where a hook is: in one place, and there once. -/
structure HookAt (t : CancellationTree) (h : HookId) : Prop where
  owner : h < t.bound → (t.guard h).owner < t.size
  known : t.bound ≤ h → t.place h = .registered
  hooks : ∀ d, (t.domain d).hooks.count h =
    if h < t.bound ∧ t.place h = .registered ∧ (t.guard h).owner = d then 1 else 0
  taken : ∀ k, (t.call k).stage.hooks.count h = if t.place h = .taken k then 1 else 0
  ran : t.ran.count h = if t.place h = .ran then 1 else 0
  held : h < t.bound → t.place h = .registered → (t.guard h).stage = .held
  dropped : t.place h = .dropped → (t.guard h).stage ≠ .held
  cancelled : h < t.bound → t.place h ≠ .dropped →
    ((t.domain (t.guard h).owner).cancelled ↔ t.place h ≠ .registered)
  above : ∀ k, t.place h = .taken k → t.Below (t.call k).domain (t.guard h).owner

structure HookInv (t : CancellationTree) : Prop where
  idle : ∀ k, t.started ≤ k → (t.call k).stage = .waiting
  hook : ∀ h, HookAt t h

theorem hookInv_new : HookInv ({} : CancellationTree) where
  idle _ _ := rfl
  hook _ :=
    { owner := nofun
      known := fun _ => rfl
      hooks := by simp
      taken := by simp [CancelStage.hooks]
      ran := by simp
      held := nofun
      dropped := nofun
      cancelled := nofun
      above := nofun }

variable {d : DomainId} {c k : CallId} {g : HookId} {state : CancellationState}

theorem HookAt.mem_hooks (h : HookAt t g) : g ∈ (t.domain d).hooks ↔
    g < t.bound ∧ t.place g = .registered ∧ (t.guard g).owner = d := by
  rw [← List.count_pos_iff, h.hooks]
  split <;> simp [*]

theorem HookAt.mem_taken (h : HookAt t g) : g ∈ (t.call k).stage.hooks ↔ t.place g = .taken k := by
  rw [← List.count_pos_iff, h.taken]
  split <;> simp [*]

theorem HookAt.started_of_taken (h : HookAt t g) (hg : t.place g = .taken k) :
    (t.call k).stage ≠ .waiting := by
  intro hwaiting
  have hmem := h.mem_taken.mpr hg
  rw [hwaiting] at hmem
  cases hmem

theorem HookInv.hooks_fresh (h : HookInv t) (hd : t.size ≤ d) : (t.domain d).hooks = [] := by
  refine List.eq_nil_iff_forall_not_mem.mpr fun g hg => ?_
  obtain ⟨hbound, -, howner⟩ := (h.hook g).mem_hooks.mp hg
  exact absurd (howner ▸ (h.hook g).owner hbound) (Nat.not_lt.mpr hd)

theorem HookInv.started (h : HookInv t) (hstage : (t.call c).stage ≠ .waiting) : c < t.started := by
  by_contra hnot
  exact hstage (h.idle c (Nat.le_of_not_lt hnot))

/-! ## Steps that leave a hook -/

/-- Hook, guard and the calls that took it are as before. -/
structure HookFrame (t t' : CancellationTree) (h : HookId) : Prop where
  size : t.size ≤ t'.size := by exact Nat.le_refl _
  bound : h < t'.bound ↔ h < t.bound := by rfl
  owner : (t'.guard h).owner = (t.guard h).owner := by rfl
  held : (t'.guard h).stage = .held ↔ (t.guard h).stage = .held := by rfl
  place : t'.place h = t.place h := by rfl
  ran : t'.ran.count h = t.ran.count h := by rfl
  hooks : ∀ d, (t'.domain d).hooks.count h = (t.domain d).hooks.count h := by intro _; rfl
  cancelled : h < t.bound → t.place h ≠ .dropped →
    ((t'.domain (t.guard h).owner).cancelled ↔
      (t.domain (t.guard h).owner).cancelled) := by intro _ _; rfl
  below : ∀ e x, t.Below e x → t'.Below e x := by exact fun _ _ hb => hb
  taken : ∀ k, (t'.call k).stage.hooks.count h = (t.call k).stage.hooks.count h := by intro _; rfl
  target : ∀ k, (t.call k).stage ≠ .waiting → (t'.call k).domain = (t.call k).domain := by
    intro _ _; rfl

theorem HookFrame.hookAt (f : HookFrame t t' g) (h : HookAt t g) : HookAt t' g where
  owner hg := by
    rw [f.owner]
    exact Nat.lt_of_lt_of_le (h.owner (f.bound.mp hg)) f.size
  known hg := by
    rw [f.place]
    exact h.known (Nat.le_of_not_lt fun hlt => Nat.not_lt.mpr hg (f.bound.mpr hlt))
  hooks d := by
    rw [f.hooks, f.place, f.owner]
    simp only [f.bound]
    exact h.hooks d
  taken k := by
    rw [f.taken, f.place]
    exact h.taken k
  ran := by
    rw [f.ran, f.place]
    exact h.ran
  held hg hplace := by
    rw [f.place] at hplace
    rw [f.held]
    exact h.held (f.bound.mp hg) hplace
  dropped hg := by
    rw [f.place] at hg
    rw [Ne, f.held]
    exact h.dropped hg
  cancelled hg hdrop := by
    rw [f.bound] at hg
    rw [f.place] at hdrop ⊢
    rw [f.owner, f.cancelled hg hdrop]
    exact h.cancelled hg hdrop
  above k hg := by
    rw [f.place] at hg
    rw [f.owner, f.target k (h.started_of_taken hg)]
    exact f.below _ _ (h.above k hg)

namespace HookInv

variable (h : HookInv t)
include h

theorem gate (gate : Gate) : HookInv { t with gate } :=
  ⟨h.idle, fun g => HookFrame.hookAt {} (h.hook g)⟩

theorem setDomain (hparent : state.parent = (t.domain d).parent)
    (hhooks : state.hooks = (t.domain d).hooks)
    (hcancelled : state.cancelled = (t.domain d).cancelled) : HookInv (t.setDomain d state) := by
  refine ⟨h.idle, fun g => HookFrame.hookAt ?_ (h.hook g)⟩
  exact
    { hooks := setDomain_field (·.hooks.count g) (by rw [hhooks])
      cancelled := fun _ _ => by rw [setDomain_field (·.cancelled) hcancelled]
      below := fun _ _ hb => hb.of_parents fun c _ hp =>
        (setDomain_field (·.parent) hparent c).trans hp }

theorem setStage_idle (hc : c < t.started) (stage : CancelStage) (hk : t.started ≤ k) :
    ((t.setStage c stage).call k).stage = .waiting := by
  have hne : k ≠ c := fun heq => Nat.not_lt.mpr hk (heq ▸ hc)
  rw [setStage_other hne]
  exact h.idle k hk

theorem setStage {stage : CancelStage} (hc : c < t.started)
    (hhooks : stage.hooks = (t.call c).stage.hooks) : HookInv (t.setStage c stage) := by
  refine ⟨fun k => h.setStage_idle hc stage, fun g => HookFrame.hookAt ?_ (h.hook g)⟩
  refine { taken := fun k => ?_, target := fun k _ => setStage_domain c k stage }
  by_cases hkc : k = c
  · rw [hkc, setStage_same]
    exact congrArg _ hhooks
  · rw [setStage_other hkc]

theorem startCancel (d : DomainId) : HookInv (t.startCancel d) := by
  have hsame : ∀ k, k ≠ t.started → (t.startCancel d).call k = t.call k := by
    intro k hk
    simp [CancellationTree.startCancel, hk]
  refine ⟨fun k hk => ?_, fun g => HookFrame.hookAt ?_ (h.hook g)⟩
  · rw [hsame k (Nat.ne_of_gt hk)]
    exact h.idle k (Nat.le_of_succ_le hk)
  refine { taken := fun k => ?_, target := fun k hk => ?_ }
  · by_cases hnew : k = t.started
    · rw [hnew, h.idle _ (Nat.le_refl _)]
      simp [CancellationTree.startCancel]
    · rw [hsame k hnew]
  · rw [hsame k fun heq => hk (heq ▸ h.idle _ (Nat.le_refl _))]

theorem forgetHook (hg : (t.guard g).stage = .unregistered) : HookInv (t.forgetHook g) := by
  refine ⟨h.idle, fun k => HookFrame.hookAt ?_ (h.hook k)⟩
  by_cases hk : k = g
  · subst hk
    exact { owner := by simp [CancellationTree.forgetHook]
            held := by simp [CancellationTree.forgetHook, hg] }
  · have hguard : (t.forgetHook g).guard k = t.guard k := Function.update_of_ne hk ..
    exact { owner := by rw [hguard], held := by rw [hguard] }

theorem addChild (htree : TreeInv t) (d : DomainId) : HookInv (t.addChild d) := by
  refine ⟨h.idle, fun g => HookFrame.hookAt ?_ (h.hook g)⟩
  refine
    { size := Nat.le_succ _
      hooks := fun e => ?_
      cancelled := fun hg _ => ?_
      below := fun _ _ hb => htree.below_addChild hb }
  · by_cases hnew : e = t.size
    · rw [hnew, addChild_new, h.hooks_fresh (Nat.le_refl _)]
    · rw [addChild_old hnew]
  · rw [addChild_old (Nat.ne_of_lt ((h.hook g).owner hg))]

end HookInv

/-! ## Binding and dropping -/

theorem HookInv.bindHook (h : HookInv t) (hd : d < t.size)
    (hactive : (t.domain d).cancelled = false) : HookInv (t.bindHook d) := by
  have hhooks (e : DomainId) : ((t.bindHook d).domain e).hooks =
      if e = d then (t.domain d).hooks ++ [t.bound] else (t.domain e).hooks :=
    (congrArg CancellationState.hooks (setDomain_apply d e _)).trans (apply_ite ..)
  have hcancelled (e : DomainId) :
      ((t.bindHook d).domain e).cancelled = (t.domain e).cancelled :=
    setDomain_field (·.cancelled) (by rfl) e
  refine ⟨h.idle, fun g => ?_⟩
  have hg := h.hook g
  by_cases hnew : g = t.bound
  · subst hnew
    have hreg := hg.known (Nat.le_refl _)
    have hguard : (t.bindHook d).guard t.bound = { owner := d } := Function.update_self ..
    have hplace : (t.bindHook d).place t.bound = .registered := Function.update_self ..
    have hbound : t.bound < (t.bindHook d).bound := Nat.lt_succ_self _
    constructor
    case owner => exact fun _ => by rw [hguard]; exact hd
    case hooks =>
      intro e
      have hzero : (t.domain e).hooks.count t.bound = 0 := by simp [hg.hooks]
      rw [hhooks, hguard, hplace]
      by_cases he : e = d
      · subst he
        simp [hbound, hzero]
      · simp [he, Ne.symm he, hzero]
    case taken => exact fun k => (hg.taken k).trans (by simp [hplace, hreg])
    case ran => exact hg.ran.trans (by simp [hplace, hreg])
    case cancelled => simp [hguard, hplace, hcancelled, hactive]
    all_goals simp [hguard, hplace]
  · have hguard : (t.bindHook d).guard g = t.guard g := Function.update_of_ne hnew ..
    refine HookFrame.hookAt ?_ hg
    refine
      { bound := ⟨fun hlt => Nat.lt_of_le_of_ne (Nat.le_of_lt_succ hlt) hnew, Nat.lt_succ_of_lt⟩
        owner := by rw [hguard]
        held := by rw [hguard]
        place := Function.update_of_ne hnew ..
        hooks := fun e => ?_
        cancelled := fun _ _ => by rw [hcancelled]
        below := fun _ _ hb => hb.of_parents fun x _ hp =>
          (setDomain_field (·.parent) (by rfl) x).trans hp }
    rw [hhooks]
    split
    · rename_i he
      simp [he, Ne.symm hnew]
    · rfl

theorem HookInv.unregisterHook (h : HookInv t) (hg : g < t.bound) :
    HookInv (t.unregisterHook g) := by
  have hhooks (e : DomainId) : ((t.unregisterHook g).domain e).hooks =
      if e = (t.guard g).owner then (t.domain (t.guard g).owner).hooks.erase g
      else (t.domain e).hooks :=
    (congrArg CancellationState.hooks (setDomain_apply _ e _)).trans (apply_ite ..)
  have hcancelled (e : DomainId) :
      ((t.unregisterHook g).domain e).cancelled = (t.domain e).cancelled :=
    setDomain_field (·.cancelled) (by rfl) e
  have hbelow (e x : DomainId) (hb : t.Below e x) : (t.unregisterHook g).Below e x :=
    hb.of_parents fun y _ hp => (setDomain_field (·.parent) (by rfl) y).trans hp
  refine ⟨h.idle, fun k => ?_⟩
  have hk := h.hook k
  by_cases hkg : k = g
  · subst hkg
    have hguard : (t.unregisterHook k).guard k =
        { owner := (t.guard k).owner, stage := .unregistered } := Function.update_self ..
    -- Only a hook that is still registered is dropped by its guard.
    have hplace : (t.unregisterHook k).place k =
        if t.place k = .registered then .dropped else t.place k := by
      have hlisted : k ∈ (t.domain (t.guard k).owner).hooks ↔ t.place k = .registered := by
        simp [hk.mem_hooks, hg]
      simp only [CancellationTree.unregisterHook, hlisted]
      split <;> simp
    have hcount (e : DomainId) : ((t.unregisterHook k).domain e).hooks.count k = 0 := by
      rw [hhooks]
      split
      · rw [List.count_erase_self, hk.hooks]
        split <;> rfl
      · rename_i he
        rw [hk.hooks, if_neg fun hand => he hand.2.2.symm]
    by_cases hreg : t.place k = .registered
    · rw [if_pos hreg] at hplace
      constructor
      case owner => exact fun _ => by rw [hguard]; exact hk.owner hg
      case known => exact fun hle => absurd hg (Nat.not_lt.mpr hle)
      case taken => exact fun c => (hk.taken c).trans (by simp [hplace, hreg])
      case ran => exact hk.ran.trans (by simp [hplace, hreg])
      all_goals simp [hguard, hplace, hcount]
    · rw [if_neg hreg] at hplace
      constructor
      case owner => exact fun _ => by rw [hguard]; exact hk.owner hg
      case known => exact fun hle => absurd hg (Nat.not_lt.mpr hle)
      case hooks => simp [hcount, hplace, hreg]
      case taken => rw [hplace]; exact hk.taken
      case ran => rw [hplace]; exact hk.ran
      case cancelled => rw [hplace, hguard, hcancelled]; exact hk.cancelled
      case above => exact fun c hc => by rw [hguard]; exact hbelow _ _ (hk.above c (hplace ▸ hc))
      all_goals simp [hguard, hplace, hreg]
  · have hguard : (t.unregisterHook g).guard k = t.guard k := Function.update_of_ne hkg ..
    refine HookFrame.hookAt ?_ hk
    refine
      { owner := by rw [hguard]
        held := by rw [hguard]
        place := ?_
        hooks := fun e => ?_
        cancelled := fun _ _ => by rw [hcancelled]
        below := hbelow }
    · simp only [CancellationTree.unregisterHook]
      split <;> simp [hkg]
    · rw [hhooks]
      split
      · rename_i he
        rw [List.count_erase_of_ne hkg, he]
      · rfl

/-! ## Taking and running -/

section Calls

variable {pending cancelled children : List DomainId} {taken hooks : List HookId}

theorem HookInv.visitDomain (h : HookInv t) (htree : TreeInv t) (hgate : t.gate = .walk c)
    (hstage : (t.call c).stage = .walking (d :: pending) cancelled taken)
    (hhooks : hooks.Perm (t.liveHooks d)) :
    HookInv (t.visitDomain c d pending cancelled taken children hooks) := by
  have hc := ((htree.gate c).mp hgate).1
  have hlive : t.liveHooks d = (t.domain d).hooks := by
    refine List.filter_eq_self.mpr fun g hg => ?_
    obtain ⟨hbound, hreg, -⟩ := (h.hook g).mem_hooks.mp hg
    simp [(h.hook g).held hbound hreg]
  rw [hlive] at hhooks
  refine ⟨fun k => h.setStage_idle hc _, fun g => ?_⟩
  have hg := h.hook g
  have hmem : g ∈ hooks ↔ g < t.bound ∧ t.place g = .registered ∧ (t.guard g).owner = d :=
    hhooks.mem_iff.trans hg.mem_hooks
  have htaken (k : CallId) : ((t.visitDomain c d pending cancelled taken children hooks).call
      k).stage.hooks.count g = (t.call k).stage.hooks.count g +
        if k = c then hooks.count g else 0 := by
    split
    · rename_i hkc
      rw [hkc, visitDomain_same, hstage]
      exact List.count_append
    · rw [visitDomain_other ‹_›]
      rfl
  have htarget (k : CallId) : ((t.visitDomain c d pending cancelled taken children hooks).call
      k).domain = (t.call k).domain := setStage_domain c k _
  by_cases hin : g ∈ hooks
  · obtain ⟨hbound, hreg, howner⟩ := hmem.mp hin
    have hplace : (t.visitDomain c d pending cancelled taken children hooks).place g = .taken c :=
      if_pos hin
    have hcount : hooks.count g = 1 := by
      rw [hhooks.count_eq, hg.hooks, if_pos ⟨hbound, hreg, howner⟩]
    constructor
    case owner => exact hg.owner
    case known => exact fun hle => absurd hbound (Nat.not_lt.mpr hle)
    case hooks =>
      intro e
      rw [hplace, visitDomain_domain]
      by_cases he : e = d
      · simp [he]
      · simp [he, hg.hooks, howner, Ne.symm he]
    case taken =>
      intro k
      rw [hplace, htaken, hg.taken, hreg, hcount]
      by_cases hkc : k = c
      · simp [hkc]
      · simp [hkc, Ne.symm hkc]
    case ran => exact hg.ran.trans (by simp [hplace, hreg])
    case cancelled =>
      intro _ _
      rw [hplace, visitDomain_cancelled]
      exact ⟨nofun, fun _ => .inl howner⟩
    case above =>
      intro k hk
      rw [hplace] at hk
      rw [visitDomain_below, htarget, ← HookPlace.taken.inj hk]
      change t.Below _ (t.guard g).owner
      rw [howner]
      exact ((htree.calls c hc).pending d (by rw [hstage]; exact List.mem_cons_self)).2
    all_goals simp [hplace]
  · refine HookFrame.hookAt ?_ hg
    refine
      { place := if_neg hin
        hooks := fun e => ?_
        cancelled := fun hbound hdrop => ?_
        below := fun _ _ => visitDomain_below.mpr
        taken := fun k => by rw [htaken, List.count_eq_zero_of_not_mem hin, ite_self]; rfl
        target := fun k _ => htarget k }
    · rw [visitDomain_domain]
      split
      · rename_i he
        rw [he, ← hhooks.count_eq, List.count_eq_zero_of_not_mem hin]
        rfl
      · rfl
    · -- A hook of the domain that is not taken now was taken when the domain was cancelled.
      rw [visitDomain_cancelled]
      refine ⟨fun hnow => hnow.elim (fun howner => ?_) id, .inr⟩
      exact (hg.cancelled hbound hdrop).mpr fun hreg => hin (hmem.mpr ⟨hbound, hreg, howner⟩)

theorem HookInv.runHook (h : HookInv t) (hc : c < t.started)
    (hstage : (t.call c).stage = .waking [] (g :: hooks)) : HookInv (t.runHook c g hooks) := by
  refine ⟨fun k => h.setStage_idle hc _, fun m => ?_⟩
  have hm := h.hook m
  have htaken (k : CallId) : ((t.runHook c g hooks).call k).stage.hooks.count m =
      (t.call k).stage.hooks.count m - if k = c ∧ m = g then 1 else 0 := by
    by_cases hkc : k = c
    · subst hkc
      have hsame : (t.runHook k g hooks).call k = _ := setStage_same k _
      rw [hsame, hstage]
      change hooks.count m = (g :: hooks).count m - _
      by_cases hmg : m = g
      · simp [hmg]
      · simp [hmg, Ne.symm hmg]
    · have hother : (t.runHook c g hooks).call k = t.call k := setStage_other hkc _
      simp [hother, hkc]
  by_cases hmg : m = g
  · subst hmg
    have hg : t.place m = .taken c := hm.mem_taken.mp (by rw [hstage]; exact List.mem_cons_self)
    have hplace : (t.runHook c m hooks).place m = .ran := Function.update_self ..
    constructor
    case owner => exact hm.owner
    case known => exact fun hle => by cases (hm.known hle).symm.trans hg
    case hooks => exact fun e => (hm.hooks e).trans (by simp [hplace, hg])
    case taken =>
      intro k
      rw [htaken, hm.taken, hg, hplace]
      by_cases hkc : k = c
      · simp [hkc]
      · simp [hkc, Ne.symm hkc]
    case ran =>
      change (t.ran ++ [m]).count m = _
      rw [hplace, List.count_append, hm.ran, hg]
      simp
    case cancelled =>
      intro hbound _
      rw [hplace]
      exact (hm.cancelled hbound (by simp [hg])).trans (by simp [hg])
    all_goals simp [hplace]
  · refine HookFrame.hookAt ?_ hm
    exact
      { place := Function.update_of_ne hmg ..
        ran := by
          change (t.ran ++ [g]).count m = _
          simp [Ne.symm hmg]
        taken := fun k => by simp [htaken, hmg]
        target := fun k _ => setStage_domain c k _ }

theorem HookInv.wakeNext (h : HookInv t) (c : CallId) : HookInv (t.wakeNext c) := by
  fun_cases CancellationTree.wakeNext t c with
  | case1 d cancelled hooks hstage =>
    have hnotify : HookInv (t.setDomain d { t.domain d with notified := true }) :=
      h.setDomain rfl rfl rfl
    exact hnotify.setStage (h.started (by rw [hstage]; simp))
      (congrArg CancelStage.hooks hstage).symm
  | case2 g hooks hstage => exact h.runHook (h.started (by rw [hstage]; simp)) hstage
  | case3 hstage =>
    exact h.setStage (h.started (by rw [hstage]; simp)) (congrArg CancelStage.hooks hstage).symm
  | case4 => exact h

end Calls

/-! ## Every step -/

theorem step_inv (htree : TreeInv t) (h : HookInv t) (a : TreeAction) :
    TreeInv (t.step a) ∧ HookInv (t.step a) := by
  have hstay : TreeInv t ∧ HookInv t := ⟨htree, h⟩
  have guarded {p : Prop} [Decidable p] {t' : CancellationTree} :
      (p → TreeInv t' ∧ HookInv t') →
        TreeInv (if p then t' else t) ∧ HookInv (if p then t' else t) :=
    Machine.guarded (I := fun t => TreeInv t ∧ HookInv t) hstay
  cases a with
  | child d =>
    exact guarded fun hcan => ⟨htree.addChild hcan.2.1 hcan.2.2 hcan.1, h.addChild htree d⟩
  | clone d =>
    exact guarded fun hcan =>
      ⟨(frame_handles d _ fun _ => hcan.2).treeInv htree, h.setDomain rfl rfl rfl⟩
  | release d =>
    exact guarded fun _ =>
      ⟨(frame_handles d _ fun hn => by omega).treeInv htree, h.setDomain rfl rfl rfl⟩
  | unlink d =>
    simp only [step]
    split
    · exact hstay
    exact guarded fun hcan => ⟨(frame_unlink hcan.2).treeInv htree, h.setDomain rfl rfl rfl⟩
  | releaseParent d =>
    simp only [step]
    split
    · exact hstay
    exact guarded fun hcan =>
      ⟨(frame_releaseParent hcan.2.1).treeInv htree, h.setDomain rfl rfl rfl⟩
  | bindCancelHook d reserved =>
    exact guarded fun hcan =>
      ⟨(frame_bindHook hcan.2.2.1).treeInv htree, h.bindHook hcan.2.1 hcan.2.2.2.2⟩
  | unregister g =>
    exact guarded fun hcan =>
      ⟨(frame_unregisterHook hcan.2).treeInv htree, h.unregisterHook hcan.1⟩
  | forget g =>
    exact guarded fun hcan => ⟨(frame_forgetHook g).treeInv htree, h.forgetHook hcan⟩
  | lockIfActive d =>
    refine guarded fun hcan =>
      ⟨(frame_gate (fun k hk => ?_) (fun k hk => by cases hk) fun e he => ?_).treeInv htree,
        h.gate _⟩
    · cases hcan.1.symm.trans hk
    · rw [← Gate.admission.inj he]
      exact hcan.2.2.2
  | unlock =>
    simp only [step]
    split
    · rename_i d hgate
      refine ⟨(frame_gate (fun k hk => ?_) (fun k hk => by cases hk)
        fun e he => by cases he).treeInv
        htree, h.gate _⟩
      cases hgate.symm.trans hk
    · exact hstay
  | cancel d =>
    exact guarded fun hcan =>
      ⟨(frame_startCancel hcan.1 hcan.2).treeInv htree, h.startCancel d⟩
  | enter c =>
    exact guarded fun hcan => ⟨htree.enterWalk hcan.1 hcan.2.1 hcan.2.2,
      (h.setStage hcan.2.1 (by rw [hcan.2.2]; rfl)).gate _⟩
  | visit c children hooks =>
    simp only [step]
    split
    · rename_i hstage
      exact guarded fun hcan =>
        ⟨htree.visitDomain hcan.1 hstage (List.isPerm_iff.mp hcan.2.1),
          h.visitDomain htree hcan.1 hstage (List.isPerm_iff.mp hcan.2.2)⟩
    · exact hstay
  | leave c =>
    simp only [step]
    split
    · rename_i cancelled hooks hstage
      exact guarded fun hgate => ⟨htree.leaveWalk hgate hstage,
        (h.setStage ((htree.gate c).mp hgate).1 (by rw [hstage]; rfl)).gate _⟩
    · exact hstay
  | wake c => exact ⟨htree.wakeNext c, h.wakeNext c⟩

theorem run_inv (acts : List TreeAction) : TreeInv (run {} acts) ∧ HookInv (run {} acts) :=
  Machine.run_invariant (I := fun t => TreeInv t ∧ HookInv t)
    (fun _ a h => step_inv h.1 h.2 a) acts ⟨treeInv_new, hookInv_new⟩

/-! ## Where a hook goes -/

/-- The hook is where it was, unless it was registered or is run. -/
def Moves (t : CancellationTree) (g : HookId) (t' : CancellationTree) : Prop :=
  t'.place g = t.place g ∨ t.place g = .registered ∨
    (∃ k, t.place g = .taken k) ∧ t'.place g = .ran

theorem HookInv.step_place (h : HookInv t) (a : TreeAction) (g : HookId) :
    t.Moves g (t.step a) := by
  have guarded {p : Prop} [Decidable p] {t' : CancellationTree} :
      (p → t.Moves g t') → t.Moves g (if p then t' else t) := Machine.guarded (.inl rfl)
  cases a with
  | bindCancelHook d reserved =>
    refine guarded fun _ => ?_
    by_cases hg : g = t.bound
    · exact .inr (.inl ((h.hook g).known (Nat.le_of_eq hg.symm)))
    · exact .inl (Function.update_of_ne hg ..)
  | unregister m =>
    refine guarded fun _ => ?_
    by_cases hlisted : m ∈ (t.domain (t.guard m).owner).hooks
    · by_cases hg : g = m
      · exact .inr (.inl (hg ▸ ((h.hook m).mem_hooks.mp hlisted).2.1))
      · exact .inl ((congrFun (if_pos hlisted) g).trans (Function.update_of_ne hg ..))
    · exact .inl (congrFun (if_neg hlisted) g)
  | visit c children hooks =>
    simp only [step]
    split
    · refine guarded fun hcan => ?_
      by_cases hin : g ∈ hooks
      · have hlive := (List.isPerm_iff.mp hcan.2.2).mem_iff.mp hin
        exact .inr (.inl ((h.hook g).mem_hooks.mp (List.mem_of_mem_filter hlive)).2.1)
      · exact .inl (if_neg hin)
    · exact .inl rfl
  | wake c =>
    rw [step_wake]
    fun_cases CancellationTree.wakeNext t c with
    | case2 m hooks hstage =>
      by_cases hg : g = m
      · have htaken : t.place g = .taken c :=
          (h.hook g).mem_taken.mp (by rw [hstage, hg]; exact List.mem_cons_self)
        exact .inr (.inr ⟨⟨c, htaken⟩, hg ▸ Function.update_self ..⟩)
      · exact .inl (Function.update_of_ne hg ..)
    | _ => exact .inl rfl
  | unlink d | releaseParent d =>
    simp only [step]
    split
    · exact .inl rfl
    · exact guarded fun _ => .inl rfl
  | unlock =>
    simp only [step]
    split <;> exact .inl rfl
  | leave c =>
    simp only [step]
    split
    · exact guarded fun _ => .inl rfl
    · exact .inl rfl
  | _ => exact guarded fun _ => .inl rfl

/-- A hook that was dropped stays dropped, so no call takes it. -/
theorem HookInv.step_dropped (h : HookInv t) (hg : t.place g = .dropped) (a : TreeAction) :
    (t.step a).place g = .dropped := by
  obtain hsame | hreg | ⟨⟨k, htaken⟩, -⟩ := h.step_place a g
  · exact hsame.trans hg
  · cases hg.symm.trans hreg
  · cases hg.symm.trans htaken

/-- A hook that a call has taken is the call's until it runs. -/
theorem HookInv.step_taken (h : HookInv t) (hg : t.place g = .taken k ∨ t.place g = .ran)
    (a : TreeAction) : (t.step a).place g = .taken k ∨ (t.step a).place g = .ran := by
  obtain hsame | hreg | ⟨-, hran⟩ := h.step_place a g
  · rwa [hsame]
  · rw [hreg] at hg
    obtain hg | hg := hg <;> cases hg
  · exact .inr hran

theorem HookAt.not_ran (h : HookAt t g) (hg : t.place g = .dropped) : g ∉ t.ran := by
  rw [← List.count_eq_zero, h.ran, hg]
  rfl

/-- **A hook whose guard was dropped first never runs.** -/
theorem run_dropped (htree : TreeInv t) (h : HookInv t) (hg : t.place g = .dropped)
    (later : List TreeAction) : g ∉ (t.run later).ran := by
  obtain ⟨⟨-, hhook⟩, hdropped⟩ := Machine.run_invariant
    (I := fun t => (TreeInv t ∧ HookInv t) ∧ t.place g = .dropped)
    (fun _ a h => ⟨step_inv h.1.1 h.1.2 a, h.1.2.step_dropped h.2 a⟩) later ⟨⟨htree, h⟩, hg⟩
  exact (hhook.hook g).not_ran hdropped

theorem HookInv.unregister_dropped (h : HookInv t) (hg : g < t.bound)
    (hheld : (t.guard g).stage = .held) (hactive : (t.domain (t.guard g).owner).cancelled = false) :
    (t.step (.unregister g)).place g = .dropped := by
  have hat := h.hook g
  have hreg : t.place g = .registered := by
    by_contra hnot
    have hkept : t.place g ≠ .dropped := fun hdropped => hat.dropped hdropped hheld
    rw [(hat.cancelled hg hkept).mpr hnot] at hactive
    cases hactive
  have hlisted := hat.mem_hooks.mpr ⟨hg, hreg, rfl⟩
  have hstep : t.step (.unregister g) = t.unregisterHook g := if_pos ⟨hg, hheld⟩
  rw [hstep]
  exact (congrFun (if_pos hlisted) g).trans (Function.update_self ..)

/-! ## The own steps of a call -/

/-- Call `c` holds the gate, with `pending` still to visit. -/
structure Walking (c : CallId) (size : Nat) (pending : List DomainId) (t : CancellationTree) :
    Prop where
  tree : TreeInv t
  hook : HookInv t
  size : t.size = size
  gate : t.gate = .walk c
  stage : ∃ cancelled taken, (t.call c).stage = .walking pending cancelled taken

theorem Walking.visit {size : Nat} {pending : List DomainId} (h : Walking c size (d :: pending) t) :
    Walking c size (t.liveChildren d ++ pending)
      (t.step (.visit c (t.liveChildren d) (t.liveHooks d))) := by
  obtain ⟨cancelled, taken, hstage⟩ := h.stage
  obtain ⟨htree, hhook⟩ := step_inv h.tree h.hook (.visit c (t.liveChildren d) (t.liveHooks d))
  have hstep : t.step (.visit c (t.liveChildren d) (t.liveHooks d)) =
      t.visitDomain c d pending cancelled taken (t.liveChildren d) (t.liveHooks d) := by
    simp [step, hstage, h.gate, List.isPerm_iff]
  refine ⟨htree, hhook, ?_, ?_, ?_⟩
  · rw [hstep]
    exact h.size
  · rw [hstep]
    exact h.gate
  · rw [hstep, visitDomain_same]
    exact ⟨_, _, rfl⟩

theorem Walking.head {size : Nat} {pending : List DomainId} (h : Walking c size (d :: pending) t) :
    d < size := by
  obtain ⟨cancelled, taken, hstage⟩ := h.stage
  rw [← h.size]
  exact ((h.tree.calls c ((h.tree.gate c).mp h.gate).1).pending d
    (by rw [hstage]; exact List.mem_cons_self)).1

/-- **A walk ends**: children are younger than their parents, so below a domain it goes only as deep
as there are younger ones. -/
theorem Walking.ends {size : Nat} {pending : List DomainId} (depth : Nat) :
    ∀ (ds : List DomainId) {t : CancellationTree}, (∀ d ∈ ds, size ≤ d + depth) →
      Walking c size (ds ++ pending) t →
      Machine.Reaches step (TreeAction.OfCall c) (Walking c size pending) t := by
  induction depth generalizing pending with
  | zero =>
    intro ds t hds h
    cases ds with
    | nil => exact .refl h
    | cons d ds => exact absurd h.head (Nat.not_lt.mpr (hds d List.mem_cons_self))
  | succ depth ihdepth =>
    intro ds
    induction ds with
    | nil => exact fun _ h => .refl h
    | cons d ds ihds =>
      intro t hds h
      refine .next (a := .visit c (t.liveChildren d) (t.liveHooks d)) rfl ?_
      refine (ihdepth _ (fun e he => ?_) h.visit).trans fun t' h' =>
        ihds (fun e he => hds e (List.mem_cons_of_mem d he)) h'
      have hparent := (h.tree.kin d e (h.size ▸ h.head) (List.mem_of_mem_filter he)).2
      have holder := Nat.succ_le_of_lt (h.tree.older e d hparent)
      have hle := hds d List.mem_cons_self
      omega

theorem wakes (hstage : (t.call c).stage.left) :
    Machine.Reaches step (TreeAction.OfCall c) (fun t => (t.call c).stage = .returned) t := by
  refine Machine.reaches_of_rank (I := fun t => (t.call c).stage.left)
    (fun t => (t.call c).stage.visited.length + (t.call c).stage.hooks.length +
      if (t.call c).stage = .returned then 0 else 1) (fun t ht => ?_) hstage
  cases hs : (t.call c).stage with
  | waiting | walking => simp [hs, CancelStage.left] at ht
  | returned => exact .inl rfl
  | waking cancelled hooks =>
    refine .inr ⟨.wake c, rfl, ?_⟩
    simp only [step_wake, CancellationTree.wakeNext, hs]
    cases cancelled with
    | cons d cancelled => simp [CancelStage.left, CancelStage.visited, CancelStage.hooks]
    | nil => cases hooks <;>
        simp [runHook, setStage, CancelStage.left, CancelStage.visited, CancelStage.hooks]

/-- **A call returns by its own steps** once the gate is free for it, and every hook that it takes
has run then. -/
theorem returns (htree : TreeInv t) (h : HookInv t) (hk : k < t.started)
    (hfree : (t.call k).stage = .waiting → t.gate = .free) :
    Machine.Reaches step (TreeAction.OfCall k) (fun t' => (t'.call k).stage = .returned ∧
      ∀ g, t.place g = .taken k → g ∈ t'.ran) t := by
  have hwalk {t : CancellationTree} {pending : List DomainId} (h : Walking k t.size pending t) :
      Machine.Reaches step (TreeAction.OfCall k) (fun t => (t.call k).stage = .returned) t := by
    have hall : Walking k t.size (pending ++ []) t := by simpa using h
    refine (Walking.ends t.size pending (fun d _ => Nat.le_add_left ..) hall).trans fun t' h' => ?_
    obtain ⟨cancelled, taken, hstage⟩ := h'.stage
    refine .next (a := .leave k) rfl (wakes ?_)
    simp [step, hstage, h'.gate, leaveWalk, setStage, CancelStage.left]
  have hreturned :
      Machine.Reaches step (TreeAction.OfCall k) (fun t => (t.call k).stage = .returned) t := by
    cases hstage : (t.call k).stage with
    | waiting =>
      have hgate := hfree hstage
      obtain ⟨htree', hhook'⟩ := step_inv htree h (.enter k)
      have hstep : t.step (.enter k) = t.enterWalk k := if_pos ⟨hgate, hk, hstage⟩
      rw [hstep] at htree' hhook'
      refine .next (a := .enter k) rfl (hstep ▸ hwalk ⟨htree', hhook', rfl, rfl,
        _, _, congrArg CancelCall.stage (setStage_same k _)⟩)
    | walking pending cancelled taken =>
      have hgate : t.gate = .walk k :=
        (htree.gate k).mpr ⟨hk, by simp [hstage], by simp [hstage, CancelStage.left]⟩
      exact hwalk ⟨htree, h, rfl, hgate, _, _, hstage⟩
    | waking cancelled hooks => exact wakes (by simp [hstage, CancelStage.left])
    | returned => exact .refl hstage
  refine (hreturned.and_invariant (I := fun t' => (TreeInv t' ∧ HookInv t') ∧
    ∀ g, t.place g = .taken k → t'.place g = .taken k ∨ t'.place g = .ran)
    (fun t' a _ h => ⟨step_inv h.1.1 h.1.2 a, fun g hg => h.1.2.step_taken (h.2 g hg) a⟩)
    ⟨⟨htree, h⟩, fun g hg => .inl hg⟩).mono fun t' h' => ?_
  obtain ⟨hend, ⟨-, hhook⟩, hplace⟩ := h'
  refine ⟨hend, fun g hg => ?_⟩
  rcases hplace g hg with htaken | hran
  · have hmem := (hhook.hook g).mem_taken.mpr htaken
    rw [hend] at hmem
    cases hmem
  · rw [← List.count_pos_iff, (hhook.hook g).ran, if_pos hran]
    exact Nat.one_pos

/-- What a tree guarantees at every moment. -/
structure Guarantees (t : CancellationTree) : Prop where
  /-- From when a call has released the gate on, every live domain below its target is
  cancelled, those included that were made since. -/
  complete : ∀ k x, k < t.started → (t.call k).stage.left → x < t.size →
    t.Below (t.call k).domain x → t.Alive x → (t.domain x).cancelled
  /-- A cancelled domain is the target of a call, or below one. -/
  confined : ∀ x, x < t.size → (t.domain x).cancelled →
    ∃ k, k < t.started ∧ t.Below (t.call k).domain x
  /-- A call returns by its own steps, once the gate is free for it to enter. -/
  returns : ∀ k, k < t.started → ((t.call k).stage = .waiting → t.gate = .free) →
    Machine.Reaches step (TreeAction.OfCall k) (fun t' => (t'.call k).stage = .returned) t
  runs_once : ∀ h, h < t.bound → t.ran.count h ≤ 1
  runs_only : ∀ h, h < t.bound → h ∈ t.ran → (t.domain (t.guard h).owner).cancelled
  /-- Once its domain is cancelled and the calls above it have returned, a hook has run. -/
  runs : ∀ h, h < t.bound → (t.domain (t.guard h).owner).cancelled →
    t.place h ≠ .dropped →
    (∀ k, k < t.started → t.Below (t.call k).domain (t.guard h).owner →
      (t.call k).stage = .returned) → t.ran.count h = 1
  /-- A hook of a cancelled domain has run, or the own steps of a call above it run it. -/
  runs_next : ∀ h, h < t.bound → (t.domain (t.guard h).owner).cancelled →
    t.place h ≠ .dropped → h ∈ t.ran ∨
      ∃ k, k < t.started ∧ t.Below (t.call k).domain (t.guard h).owner ∧
        Machine.Reaches step (TreeAction.OfCall k) (fun t' => h ∈ t'.ran) t
  dropped : ∀ h, t.place h = .dropped → (t.guard h).stage ≠ .held ∧ h ∉ t.ran
  /-- A hook whose guard is dropped before its domain is cancelled never runs. -/
  never : ∀ h, h < t.bound → (t.guard h).stage = .held →
    (t.domain (t.guard h).owner).cancelled = false →
    ∀ later, h ∉ ((t.step (.unregister h)).run later).ran
  /-- No admission is made to a cancelled domain, and none is cancelled during one. -/
  closed : ∀ d, (t.domain d).cancelled →
    t.step (.lockIfActive d) = t ∧ t.gate ≠ .admission d

theorem HookInv.taken_or_ran (h : HookInv t) (hg : g < t.bound)
    (hcancelled : (t.domain (t.guard g).owner).cancelled)
    (hdropped : t.place g ≠ .dropped) : t.place g = .ran ∨ ∃ k, t.place g = .taken k ∧
      k < t.started ∧ (t.call k).stage ≠ .waiting ∧ (t.call k).stage ≠ .returned := by
  cases hplace : t.place g with
  | ran => exact .inl rfl
  | dropped => exact absurd hplace hdropped
  | registered =>
    exact absurd hplace (((h.hook g).cancelled hg hdropped).mp hcancelled)
  | taken k =>
    -- The call that took the hook has it in its list until it runs it.
    have hmem := (h.hook g).mem_taken.mpr hplace
    have hwaiting := (h.hook g).started_of_taken hplace
    refine .inr ⟨k, rfl, h.started hwaiting, hwaiting, fun hreturned => ?_⟩
    rw [hreturned] at hmem
    cases hmem

/-- **The semantics of the cancellation tree**, over all interleavings. -/
theorem cancellation_semantics (acts : List TreeAction) : Guarantees (run {} acts) := by
  obtain ⟨htree, hhook⟩ := run_inv acts
  constructor
  case complete => exact fun k x hk hleft => (htree.calls k hk).complete hleft x
  case confined =>
    intro x hx hcancelled
    obtain ⟨k, hk, -, hbelow⟩ := htree.caused x hx hcancelled
    exact ⟨k, hk, hbelow⟩
  case returns => exact fun k hk hfree => (returns htree hhook hk hfree).mono fun _ h => h.1
  case runs_once =>
    intro h _
    rw [(hhook.hook h).ran]
    split <;> omega
  case runs_only =>
    intro h hh hran
    have hcount := List.count_pos_iff.mpr hran
    rw [(hhook.hook h).ran] at hcount
    split at hcount
    · rename_i hplace
      exact ((hhook.hook h).cancelled hh (by simp [hplace])).mpr (by simp [hplace])
    · omega
  case runs =>
    intro h hh hcancelled hdropped hreturned
    obtain hran | ⟨k, htaken, hk, -, hnot⟩ := hhook.taken_or_ran hh hcancelled hdropped
    · rw [(hhook.hook h).ran, if_pos hran]
    · exact absurd (hreturned k hk ((hhook.hook h).above k htaken)) hnot
  case runs_next =>
    intro h hh hcancelled hdropped
    obtain hran | ⟨k, htaken, hk, hwaiting, -⟩ := hhook.taken_or_ran hh hcancelled hdropped
    · refine .inl ?_
      rw [← List.count_pos_iff, (hhook.hook h).ran, if_pos hran]
      exact Nat.one_pos
    · exact .inr ⟨k, hk, (hhook.hook h).above k htaken,
        (returns htree hhook hk fun h => absurd h hwaiting).mono fun _ hend => hend.2 h htaken⟩
  case dropped => exact fun h hh => ⟨(hhook.hook h).dropped hh, (hhook.hook h).not_ran hh⟩
  case never =>
    intro h hh hheld hactive later
    obtain ⟨htree', hhook'⟩ := step_inv htree hhook (.unregister h)
    exact run_dropped htree' hhook' (hhook.unregister_dropped hh hheld hactive) later
  case closed =>
    intro d hcancelled
    refine ⟨?_, fun hgate => ?_⟩
    · simp [step, hcancelled]
    · rw [htree.admission d hgate] at hcancelled
      cases hcancelled

-- The handle of the middle domain is dropped, and the walk still reaches the hook below it.
example : (run {} [.child 0, .child 1, .release 1, .bindCancelHook 2 true, .cancel 0, .enter 0,
    .visit 0 [1] [], .visit 0 [2] [], .visit 0 [] [0], .leave 0, .wake 0, .wake 0, .wake 0,
    .wake 0]).ran = [0] := by decide +kernel

end CancellationTree

end OpenNet.Ws
