import Mathlib.Logic.Function.Basic
import Mathlib.Logic.Relation
import OpenNet.Foundation.Machine

/-!
# The cancellation tree

Model of `src/api/ws/cancellation.rs`: a tree of domains that share one gate, the hooks that
are bound to them, and the calls that cancel them.  Sections under the gate are one step each, and
so is every visit of a walk; handles and guards are dropped at any time, also while a walk is in
progress.  An allocation is not reused while a weak reference to it is left, so identities are
numbers that are given out once.
-/

namespace OpenNet.Ws

abbrev DomainId := Nat
abbrev HookId := Nat
abbrev CallId := Nat

/-- A domain of the tree. -/
structure CancellationState where
  parent : Option DomainId := none
  cancelled : Bool := false
  /-- Waiters of the domain have been woken. -/
  notified : Bool := false
  /-- The weak references to the children. -/
  children : List DomainId := []
  /-- The weak references to the hooks. -/
  hooks : List HookId := []
  /-- The `CancellationGroup`s that refer to the domain. -/
  handles : Nat := 1
  /-- The strong reference to the parent has not been released. -/
  keepsParent : Bool := true

/-- The hook is unregistered, then the references go. -/
inductive GuardStage where
  | held | unregistered | gone
  deriving DecidableEq, Repr

/-- A hook's guard and its domain. -/
structure CancelHookGuard where
  owner : DomainId := 0
  stage : GuardStage := .held

/-- Where a call of `cancel` is. -/
inductive CancelStage where
  | waiting
  /-- The gate is held; the next domain is the head of `pending`. -/
  | walking (pending cancelled : List DomainId) (hooks : List HookId)
  /-- The gate is released; waiters are woken, then the hooks run. -/
  | waking (cancelled : List DomainId) (hooks : List HookId)
  | returned
  deriving DecidableEq, Repr

namespace CancelStage

def pending : CancelStage → List DomainId
  | .walking pending _ _ => pending
  | _ => []

def visited : CancelStage → List DomainId
  | .walking _ cancelled _ | .waking cancelled _ => cancelled
  | _ => []

def hooks : CancelStage → List HookId
  | .walking _ _ hooks | .waking _ hooks => hooks
  | _ => []

def left : CancelStage → Bool
  | .waking .. | .returned => true
  | _ => false

end CancelStage

structure CancelCall where
  domain : DomainId := 0
  stage : CancelStage := .waiting

/-- The call has a strong reference to a domain. -/
def CancelCall.refers (c : CancelCall) (d : DomainId) : Prop :=
  c.stage ≠ .returned ∧ (c.domain = d ∨ d ∈ c.stage.pending ∨ d ∈ c.stage.visited)

instance (c : CancelCall) (d : DomainId) : Decidable (c.refers d) :=
  inferInstanceAs (Decidable (_ ∧ _))

/-- Who holds the gate. -/
inductive Gate where
  | free
  | walk (call : CallId)
  /-- A guard of `lock_if_active`. -/
  | admission (domain : DomainId)
  deriving DecidableEq, Repr

/-- Where a hook that was bound is now. -/
inductive HookPlace where
  | registered
  /-- Its guard was dropped before its domain was cancelled. -/
  | dropped
  | taken (call : CallId)
  | ran
  deriving DecidableEq, Repr

/-- A tree with everything that refers to it.  Domain 0 is the root. -/
structure CancellationTree where
  domain : DomainId → CancellationState := fun _ => {}
  size : Nat := 1
  guard : HookId → CancelHookGuard := fun _ => {}
  bound : Nat := 0
  call : CallId → CancelCall := fun _ => {}
  started : Nat := 0
  gate : Gate := .free
  ran : List HookId := []
  /-- The history of every hook that was bound. -/
  place : HookId → HookPlace := fun _ => .registered

/-- One section of a thread. -/
inductive TreeAction where
  | child (d : DomainId)
  | clone (d : DomainId)
  | release (d : DomainId)
  /-- The first half of the drop of a domain: its key leaves the map of the parent. -/
  | unlink (d : DomainId)
  /-- The second half: its strong reference to the parent goes. -/
  | releaseParent (d : DomainId)
  | bindCancelHook (d : DomainId) (reserved : Bool)
  | unregister (h : HookId)
  | forget (h : HookId)
  | lockIfActive (d : DomainId)
  | unlock
  | cancel (d : DomainId)
  | enter (c : CallId)
  /-- One turn of the walk, with the orders in which the maps are read. -/
  | visit (c : CallId) (children : List DomainId) (hooks : List HookId)
  | leave (c : CallId)
  | wake (c : CallId)

namespace CancellationTree

variable (t : CancellationTree)

/-- A strong reference to the domain is left. -/
def Alive (d : DomainId) : Prop :=
  0 < (t.domain d).handles ∨
    (∃ c, c < t.size ∧ (t.domain c).parent = some d ∧ (t.domain c).keepsParent) ∨
    (∃ h, h < t.bound ∧ (t.guard h).owner = d ∧ (t.guard h).stage ≠ .gone) ∨
    ∃ c, c < t.started ∧ (t.call c).refers d

instance (d : DomainId) : Decidable (t.Alive d) :=
  inferInstanceAs (Decidable (_ ∨ _ ∨ _ ∨ _))

def setDomain (d : DomainId) (state : CancellationState) : CancellationTree :=
  { t with domain := Function.update t.domain d state }

variable (c : CallId)

def setStage (stage : CancelStage) : CancellationTree :=
  { t with call := Function.update t.call c { t.call c with stage } }

/-- `CancellationState::child`: the parent's map gets the key. -/
def addChild (d : DomainId) : CancellationTree :=
  let cancelled := (t.domain d).cancelled
  let parent := t.setDomain d { t.domain d with children := (t.domain d).children ++ [t.size] }
  { parent.setDomain t.size { parent := some d, cancelled, notified := cancelled } with
    size := t.size + 1 }

/-- `CancellationState::bind_cancel_hook`. -/
def bindHook (d : DomainId) : CancellationTree :=
  { t.setDomain d { t.domain d with hooks := (t.domain d).hooks ++ [t.bound] } with
    guard := Function.update t.guard t.bound { owner := d }
    bound := t.bound + 1
    place := Function.update t.place t.bound .registered }

/-- `CancelHookGuard::drop`: the hook goes. -/
def unregisterHook (h : HookId) : CancellationTree :=
  let d := (t.guard h).owner
  { t.setDomain d { t.domain d with hooks := (t.domain d).hooks.erase h } with
    guard := Function.update t.guard h { owner := d, stage := .unregistered }
    place := if h ∈ (t.domain d).hooks then Function.update t.place h .dropped else t.place }

/-- `CancelHookGuard::drop`: its references go. -/
def forgetHook (h : HookId) : CancellationTree :=
  { t with guard := Function.update t.guard h { t.guard h with stage := .gone } }

/-- `CancellationState::cancel`: the call begins. -/
def startCancel (d : DomainId) : CancellationTree :=
  { t with
    call := Function.update t.call t.started { domain := d }
    started := t.started + 1 }

/-- The children still referred to. -/
def liveChildren (d : DomainId) : List DomainId :=
  (t.domain d).children.filter fun c => t.Alive c

/-- The hooks that can be upgraded. -/
def liveHooks (d : DomainId) : List HookId :=
  (t.domain d).hooks.filter fun h => (t.guard h).stage ≠ .gone

/-- `cancel` takes the gate. -/
def enterWalk : CancellationTree :=
  { t.setStage c (.walking [(t.call c).domain] [] []) with gate := .walk c }

/-- `cancel` cancels a domain, and collects children and hooks. -/
def visitDomain (d : DomainId) (pending cancelled : List DomainId) (taken : List HookId)
    (children : List DomainId) (hooks : List HookId) : CancellationTree :=
  { (t.setDomain d { t.domain d with cancelled := true, hooks := [] }).setStage c
      (.walking (children ++ pending) (cancelled ++ [d]) (taken ++ hooks)) with
    place := fun h => if h ∈ hooks then .taken c else t.place h }

/-- `cancel` releases the gate. -/
def leaveWalk (cancelled : List DomainId) (hooks : List HookId) : CancellationTree :=
  { t.setStage c (.waking cancelled hooks) with gate := .free }

/-- `cancel` runs a hook outside of the locks. -/
def runHook (h : HookId) (hooks : List HookId) : CancellationTree :=
  { t.setStage c (.waking [] hooks) with
    ran := t.ran ++ [h]
    place := Function.update t.place h .ran }

/-- `cancel` wakes the waiters of a domain, later runs a hook. -/
def wakeNext : CancellationTree :=
  match (t.call c).stage with
  | .waking (d :: cancelled) hooks =>
    (t.setDomain d { t.domain d with notified := true }).setStage c (.waking cancelled hooks)
  | .waking [] (h :: hooks) => t.runHook c h hooks
  | .waking [] [] => t.setStage c .returned
  | _ => t

/-- One section of a thread. -/
def step : TreeAction → CancellationTree
  | .child d => if t.gate = .free ∧ d < t.size ∧ 0 < (t.domain d).handles then t.addChild d else t
  | .clone d =>
    if d < t.size ∧ 0 < (t.domain d).handles then
      t.setDomain d { t.domain d with handles := (t.domain d).handles + 1 }
    else t
  | .release d =>
    if d < t.size then
      t.setDomain d { t.domain d with handles := (t.domain d).handles - 1 }
    else t
  | .unlink d => match (t.domain d).parent with
    | none => t
    | some p =>
      if d < t.size ∧ ¬ t.Alive d then
        t.setDomain p { t.domain p with children := (t.domain p).children.erase d }
      else t
  | .releaseParent d => match (t.domain d).parent with
    | none => t
    | some p =>
      if d < t.size ∧ ¬ t.Alive d ∧ d ∉ (t.domain p).children then
        t.setDomain d { t.domain d with keepsParent := false }
      else t
  | .bindCancelHook d reserved =>
    -- `lock_if_active` refuses a cancelled domain.
    if t.gate = .free ∧ d < t.size ∧ 0 < (t.domain d).handles ∧ reserved ∧
        (t.domain d).cancelled = false then t.bindHook d
    else t
  | .unregister h => if h < t.bound ∧ (t.guard h).stage = .held then t.unregisterHook h else t
  | .forget h => if (t.guard h).stage = .unregistered then t.forgetHook h else t
  | .lockIfActive d =>
    if t.gate = .free ∧ d < t.size ∧ 0 < (t.domain d).handles ∧ (t.domain d).cancelled = false then
      { t with gate := .admission d }
    else t
  | .unlock => match t.gate with
    | .admission _ => { t with gate := .free }
    | _ => t
  | .cancel d =>
    if d < t.size ∧ 0 < (t.domain d).handles then t.startCancel d else t
  | .enter c =>
    if t.gate = .free ∧ c < t.started ∧ (t.call c).stage = .waiting then t.enterWalk c else t
  | .visit c children hooks => match (t.call c).stage with
    | .walking (d :: pending) cancelled taken =>
      if t.gate = .walk c ∧ children.isPerm (t.liveChildren d) ∧ hooks.isPerm (t.liveHooks d)
      then t.visitDomain c d pending cancelled taken children hooks
      else t
    | _ => t
  | .leave c => match (t.call c).stage with
    | .walking [] cancelled hooks =>
      if t.gate = .walk c then t.leaveWalk c cancelled hooks else t
    | _ => t
  | .wake c => t.wakeNext c

def run (acts : List TreeAction) : CancellationTree := Machine.run step t acts

theorem step_wake : t.step (.wake c) = t.wakeNext c := by rw [step]

/-! ## Updates -/

section Updates

variable {t}

theorem setDomain_apply (d e : DomainId) (state : CancellationState) :
    (t.setDomain d state).domain e = if e = d then state else t.domain e := by
  simp [setDomain, Function.update_apply]

theorem setDomain_field {α : Type} (field : CancellationState → α) {d : DomainId}
    {state : CancellationState} (h : field state = field (t.domain d)) (e : DomainId) :
    field ((t.setDomain d state).domain e) = field (t.domain e) := by
  rw [setDomain_apply]
  split
  · rename_i he
    rw [he, h]
  · rfl

@[simp] theorem setStage_same (stage : CancelStage) :
    (t.setStage c stage).call c = { t.call c with stage } := by simp [setStage]

theorem setStage_other {c k : CallId} (h : k ≠ c) (stage : CancelStage) :
    (t.setStage c stage).call k = t.call k := by simp [setStage, h]

@[simp] theorem setStage_domain (k : CallId) (stage : CancelStage) :
    ((t.setStage c stage).call k).domain = (t.call k).domain := by
  by_cases h : k = c
  · rw [h, setStage_same]
  · rw [setStage_other h]

variable {t' : CancellationTree} {d : DomainId}

theorem Alive.of (h : t'.Alive d) (hhandles : 0 < (t'.domain d).handles → t.Alive d)
    (hchild : ∀ c, c < t'.size → (t'.domain c).parent = some d →
      (t'.domain c).keepsParent → t.Alive d)
    (hguard : ∀ h, h < t'.bound → (t'.guard h).owner = d → (t'.guard h).stage ≠ .gone → t.Alive d)
    (hcall : ∀ c, c < t'.started → (t'.call c).refers d → t.Alive d) : t.Alive d := by
  rcases h with h | ⟨c, hc, hp, hk⟩ | ⟨g, hg, ho, hs⟩ | ⟨c, hc, hr⟩
  · exact hhandles h
  · exact hchild c hc hp hk
  · exact hguard g hg ho hs
  · exact hcall c hc hr

theorem alive_handle (h : 0 < (t.domain d).handles) : t.Alive d := .inl h

theorem alive_parent {c : DomainId} (hc : c < t.size) (hp : (t.domain c).parent = some d)
    (hk : (t.domain c).keepsParent) : t.Alive d := .inr (.inl ⟨c, hc, hp, hk⟩)

theorem alive_guard {h : HookId} (hh : h < t.bound) (ho : (t.guard h).owner = d)
    (hs : (t.guard h).stage ≠ .gone) : t.Alive d := .inr (.inr (.inl ⟨h, hh, ho, hs⟩))

theorem alive_call {c : CallId} (hc : c < t.started) (hr : (t.call c).refers d) : t.Alive d :=
  .inr (.inr (.inr ⟨c, hc, hr⟩))

end Updates

/-! ## Descendants -/

/-- The domain is in the subtree of another one. -/
def Below (d x : DomainId) : Prop :=
  Relation.ReflTransGen (fun p c => (t.domain c).parent = some p) d x

variable {t} {t' : CancellationTree}

theorem Below.refl (d : DomainId) : t.Below d d := Relation.ReflTransGen.refl

theorem Below.child {d p c : DomainId} (h : t.Below d p) (hp : (t.domain c).parent = some p) :
    t.Below d c := Relation.ReflTransGen.tail h hp

theorem Below.cases {d x : DomainId} (h : t.Below d x) :
    x = d ∨ ∃ p, t.Below d p ∧ (t.domain x).parent = some p := by
  rcases Relation.ReflTransGen.cases_tail h with heq | ⟨p, hbelow, hp⟩
  · exact .inl heq
  · exact .inr ⟨p, hbelow, hp⟩

theorem Below.of_parents {d x : DomainId} (h : t.Below d x)
    (hparents : ∀ c p, (t.domain c).parent = some p → (t'.domain c).parent = some p) :
    t'.Below d x :=
  Relation.ReflTransGen.mono (fun p c hp => hparents c p hp) _ _ h

end CancellationTree

end OpenNet.Ws
