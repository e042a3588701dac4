import OpenNet.Foundation.Machine

/-!
# Single-flight runners

A component keeps work under a lock and has it processed by a runner on another thread.  A
`scheduled` flag, set when a runner is submitted and cleared when it retires, keeps the
runner single; the flag, the work and the runner's decision to retire share the component's
lock, but every call that may have to submit a runner happens later, outside it.

The machine runs any number of publishers, submitted jobs and runner threads in any order.
-/

namespace SingleFlight

/-- What a runner found when it looked for its next delivery. -/
inductive Found where
  | deliver
  | orphan
  | finished
  | idle
  deriving DecidableEq, Repr

/-- A `retired` runner no longer owns `scheduled`; the late positions are faults after that. -/
inductive Pc where
  | looping | delivering | failing | closing | finishing | retired | lateFailing | lateClosing
  deriving DecidableEq, Repr

/-- The runner still owns the `scheduled` flag. -/
def Pc.live : Pc → Bool
  | looping | delivering | failing | closing | finishing => true
  | retired | lateFailing | lateClosing => false

/-- `act` says whether a schedule call follows, `schedule` whether a runner is submitted, `start`
whether it goes on, `fail` whether the component is left; the runner makes `refresh` before it looks
for work. -/
structure Component (σ δ ρ : Type) where
  active : σ → Bool
  driver : σ → Bool
  pending : σ → Bool
  scheduled : σ → Bool
  running : σ → Bool
  act : δ → σ → σ × Bool
  refresh : ρ → σ → σ
  schedule : σ → σ × Bool
  start : σ → σ × Bool
  next : σ → σ × Found
  fail : σ → σ × Bool
  unsubscribe : σ → σ
  finishRun : σ → σ

variable {σ δ ρ : Type}

/-- The component has work for a runner. -/
def Component.wanted (C : Component σ δ ρ) (s : σ) : Bool := C.active s && C.driver s && C.pending s

/-- `t` has the flags of `s`. -/
structure Component.SameFlags (C : Component σ δ ρ) (s t : σ) : Prop where
  scheduled : C.scheduled t = C.scheduled s
  running : C.running t = C.running s

/-- The flags stay, and a schedule call follows unless what is wanted was wanted before. -/
def Component.Acts (C : Component σ δ ρ) (ok : Bool → σ → Prop) (b : Bool) (s : σ)
    (out : σ × Bool) : Prop :=
  ok b out.1 ∧ C.SameFlags s out.1 ∧ (out.2 = false → C.wanted out.1 → C.wanted s)

theorem Component.Acts.of_pending {C : Component σ δ ρ} {ok : Bool → σ → Prop} {b : Bool} {s t : σ}
    (hok : ok b t) (hflags : C.SameFlags s t) (hactive : C.active t = C.active s)
    (hdriver : C.driver t = C.driver s) (hpending : C.active t → C.pending t → C.pending s) :
    C.Acts ok b s (t, false) := by
  refine ⟨hok, hflags, fun _ hw => ?_⟩
  simp only [Component.wanted, Bool.and_eq_true] at hw ⊢
  obtain ⟨⟨ha, hd⟩, hp⟩ := hw
  exact ⟨⟨hactive ▸ ha, hdriver ▸ hd⟩, hpending ha hp⟩

/-- A runner is submitted, or one is scheduled or not wanted. -/
inductive Component.Schedules (C : Component σ δ ρ) (ok : Bool → σ → Prop) (b : Bool) (s : σ) :
    σ × Bool → Prop where
  | none (hdone : C.wanted s → C.scheduled s) : C.Schedules ok b s (s, false)
  | submits {t : σ} (hfree : C.scheduled s = false) (hok : ok b t) (htaken : C.scheduled t)
    (hrun : C.running t = C.running s) : C.Schedules ok b s (t, true)

/-- A job becomes a runner, or returns the flag with nothing wanted. -/
inductive Component.Starts (C : Component σ δ ρ) (ok : Bool → σ → Prop) (b : Bool) (s : σ) :
    σ × Bool → Prop where
  | runs {t : σ} (hok : ok true t) (hsched : C.scheduled t = C.scheduled s)
    (hrun : C.running t) : C.Starts ok b s (t, true)
  | stops {t : σ} (hok : ok b t) (hsched : C.scheduled t = false)
    (hrun : C.running t = C.running s) (hdone : C.wanted t = false) : C.Starts ok b s (t, false)

/-- A runner goes on, or retires with nothing wanted. -/
inductive Component.Rounds (C : Component σ δ ρ) (ok : Bool → σ → Prop) (s : σ) :
    σ × Found → Prop where
  | idle {t : σ} (hok : ok true t) (hsched : C.scheduled t = false) (hrun : C.running t = false)
    (hdone : C.wanted t = false) : C.Rounds ok s (t, .idle)
  | busy {t : σ} {found : Found} (hfound : found ≠ .idle) (hok : ok true t)
    (hflags : C.SameFlags s t) : C.Rounds ok s (t, found)

section Sections

variable {C : Component σ δ ρ} {ok : Bool → σ → Prop} {b : Bool} {s t t' : σ}

theorem Component.Schedules.of_flags (hok : C.driver s → ok b t)
    (htaken : C.scheduled t) (hrun : C.running t = C.running s) : C.Schedules ok b s
      (if !C.active s || C.scheduled s || !C.pending s then (s, false)
        else if !C.driver s then (s, false) else (t, true)) := by
  split
  · refine .none fun hw => ?_
    simp_all [Component.wanted]
  split
  · refine .none fun hw => ?_
    simp_all [Component.wanted]
  · simp only [Bool.not_eq_true, Bool.or_eq_false_iff, Bool.not_eq_eq_eq_not] at *
    exact .submits (by simp_all) (hok (by simp_all)) htaken hrun

theorem Component.Starts.of_active (hstop : C.active s = false → ok b t ∧ C.active t = false)
    (hsched : C.scheduled t = false) (hrun : C.running t = C.running s)
    (hruns : ok true t' ∧ C.scheduled t' = C.scheduled s ∧ C.running t') :
    C.Starts ok b s (if !C.active s then (t, false) else (t', true)) := by
  split
  · rename_i hactive
    obtain ⟨hok, hleft⟩ := hstop (by simpa using hactive)
    exact .stops hok hsched hrun (by simp [Component.wanted, hleft])
  · exact .runs hruns.1 hruns.2.1 hruns.2.2

end Sections

/-- What the protocol needs; `started` says that a runner thread exists. -/
structure Component.Lawful (C : Component σ δ ρ) (ok : Bool → σ → Prop) : Prop where
  ok_mono : ∀ {s}, ok true s → ok false s
  act : ∀ {b s} d, ok b s → C.Acts ok b s (C.act d s)
  refresh : ∀ {s} x, ok true s → ok true (C.refresh x s) ∧ C.SameFlags s (C.refresh x s)
  schedule : ∀ {b s}, ok b s → C.Schedules ok b s (C.schedule s)
  start : ∀ {b s}, ok b s → C.scheduled s → C.Starts ok b s (C.start s)
  next : ∀ {s}, ok true s → C.Rounds ok s (C.next s)
  fail : ∀ {s}, ok true s → ok true (C.fail s).1 ∧ C.SameFlags s (C.fail s).1 ∧
    (C.wanted (C.fail s).1 → C.wanted s)
  unsubscribe : ∀ {s}, ok true s → ok true (C.unsubscribe s) ∧
    C.SameFlags s (C.unsubscribe s) ∧ C.wanted (C.unsubscribe s) = false
  finishRun : ∀ {s}, ok true s → ok true (C.finishRun s) ∧
    C.scheduled (C.finishRun s) = false ∧ C.running (C.finishRun s) = false

/-- The component, the schedule calls to come, the submissions, the queued jobs and the runners. -/
structure State (σ : Type) where
  data : σ
  undispatched : Nat := 0
  calls : Nat := 0
  submitting : Nat := 0
  jobs : Nat := 0
  runners : List Pc := []

/-- The steps of the parties. -/
inductive Action (δ ρ : Type) where
  | act (d : δ)
  | dispatch
  | call
  | submit
  | start
  | refresh (i : Nat) (x : ρ)
  | next (i : Nat)
  | returned (i : Nat)
  | fault (i : Nat)
  | fail (i : Nat)
  | close (i : Nat)
  | finish (i : Nat)
  | exit (i : Nat)

def Found.after : Found → Pc
  | deliver => .delivering
  | orphan => .finishing
  | finished => .closing
  | idle => .retired

def State.scheduleCall (C : Component σ δ ρ) (m : State σ) : State σ :=
  { m with data := (C.schedule m.data).1,
           submitting := m.submitting + (C.schedule m.data).2.toNat }

def State.move (m : State σ) (i : Nat) (pc : Pc) : State σ :=
  { m with runners := m.runners.set i pc }

def step (C : Component σ δ ρ) (m : State σ) : Action δ ρ → State σ
  | .act d => { m with data := (C.act d m.data).1,
                       undispatched := m.undispatched + (C.act d m.data).2.toNat }
  | .dispatch => match m.undispatched with
    | 0 => m
    | n + 1 => State.scheduleCall C { m with undispatched := n }
  | .call => match m.calls with
    | 0 => m
    | n + 1 => State.scheduleCall C { m with calls := n }
  | .submit => match m.submitting with
    | 0 => m
    | n + 1 => { m with submitting := n, jobs := m.jobs + 1 }
  | .start => match m.jobs with
    | 0 => m
    | n + 1 =>
      { m with data := (C.start m.data).1, jobs := n,
               runners := if (C.start m.data).2 then m.runners ++ [.looping] else m.runners }
  | .refresh i x => match m.runners[i]? with
    | some .looping => { m with data := C.refresh x m.data }
    | _ => m
  | .next i => match m.runners[i]? with
    | some .looping => { m.move i (C.next m.data).2.after with data := (C.next m.data).1 }
    | _ => m
  | .returned i => match m.runners[i]? with
    | some .delivering => m.move i .looping
    | _ => m
  | .fault i => match m.runners[i]? with
    | some .looping | some .delivering => m.move i .failing
    | some .retired => m.move i .lateFailing
    | _ => m
  | .fail i => match m.runners[i]? with
    | some .failing =>
      { m.move i (if (C.fail m.data).2 then .closing else .finishing) with
        data := (C.fail m.data).1 }
    | some .lateFailing =>
      { m.move i (if (C.fail m.data).2 then .lateClosing else .retired) with
        data := (C.fail m.data).1 }
    | _ => m
  | .close i => match m.runners[i]? with
    | some .closing => { m.move i .finishing with data := C.unsubscribe m.data }
    | some .lateClosing => { m.move i .retired with data := C.unsubscribe m.data }
    | _ => m
  | .finish i => match m.runners[i]? with
    | some .finishing =>
      { m.move i .retired with data := C.finishRun m.data, calls := m.calls + 1 }
    | _ => m
  | .exit i => match m.runners[i]? with
    | some .retired => { m with runners := m.runners.eraseIdx i }
    | _ => m

def State.live (m : State σ) : Nat := m.runners.countP Pc.live

/-- **The protocol invariant.** -/
structure Inv (C : Component σ δ ρ) (ok : Bool → σ → Prop) (m : State σ) : Prop where
  ok : ok (!m.runners.isEmpty) m.data
  tokens : m.submitting + m.jobs + m.live = (C.scheduled m.data).toNat
  running : m.live = (C.running m.data).toNat
  wanted : C.wanted m.data →
    C.scheduled m.data ∨ 0 < m.undispatched + m.calls

section Invariant

variable {C : Component σ δ ρ} {ok : Bool → σ → Prop} {m : State σ} {i : Nat} {pc pc' : Pc}
  {s : σ}

theorem live_move (hget : m.runners[i]? = some pc) (pc' : Pc) :
    (m.move i pc').live + pc.live.toNat = m.live + pc'.live.toNat := by
  obtain ⟨hlt, hpc⟩ := List.getElem?_eq_some_iff.mp hget
  have hset : (m.move i pc').live =
      m.live - (if m.runners[i].live then 1 else 0) + (if pc'.live then 1 else 0) :=
    List.countP_set hlt
  have hpos : pc.live → 0 < m.live := fun h =>
    List.countP_pos_iff.mpr ⟨pc, hpc ▸ List.getElem_mem hlt, h⟩
  rw [hset, hpc]
  cases hlive : pc.live with
  | false => cases pc'.live <;> simp
  | true =>
    have := hpos hlive
    cases pc'.live <;> simp <;> omega

theorem isEmpty_move (m : State σ) (i : Nat) (pc : Pc) :
    (m.move i pc).runners.isEmpty = m.runners.isEmpty := by
  rw [Bool.eq_iff_iff, List.isEmpty_iff, List.isEmpty_iff]
  simp [State.move]

theorem live_erase (hget : m.runners[i]? = some pc) (hpc : pc.live = false) :
    (m.runners.eraseIdx i).countP Pc.live = m.live := by
  obtain ⟨hlt, rfl⟩ := List.getElem?_eq_some_iff.mp hget
  unfold State.live
  conv_rhs => rw [← List.take_append_drop i m.runners, List.drop_eq_getElem_cons hlt]
  rw [List.eraseIdx_eq_take_drop_succ, List.countP_append, List.countP_append, List.countP_cons]
  simp [hpc]

theorem nonempty_move (hget : m.runners[i]? = some pc) (pc' : Pc) :
    (!(m.move i pc').runners.isEmpty) := by
  rw [isEmpty_move]
  cases hruns : m.runners with
  | nil => simp [hruns] at hget
  | cons => rfl

theorem Inv.ok_true (h : Inv C ok m) (hget : m.runners[i]? = some pc) : ok true m.data := by
  have hok := h.ok
  rwa [← isEmpty_move m i pc, nonempty_move hget] at hok

section

variable (h : Inv C ok m) (hget : m.runners[i]? = some pc)
include h hget

theorem Inv.scheduled_of_live (hpc : pc.live) : C.scheduled m.data ∧ m.live = 1 ∧
      m.submitting = 0 ∧ m.jobs = 0 := by
  obtain ⟨hlt, rfl⟩ := List.getElem?_eq_some_iff.mp hget
  have hpos : 0 < m.live := List.countP_pos_iff.mpr ⟨_, List.getElem_mem hlt, hpc⟩
  have htokens := h.tokens
  cases hs : C.scheduled m.data with
  | false => rw [hs, Bool.toNat_false] at htokens; omega
  | true =>
    rw [hs, Bool.toNat_true] at htokens
    exact ⟨rfl, by omega, by omega, by omega⟩

/-- A runner moves on, live or retired; while none is live the wish for one may go. -/
theorem Inv.move (hpc : pc'.live = pc.live) (hok : ok true s) (hflags : C.SameFlags m.data s)
    (hwanted : pc.live ∨ (C.wanted s → C.wanted m.data)) :
    Inv C ok { m.move i pc' with data := s } := by
  have hlive : (m.move i pc').live = m.live := by
    have := live_move hget pc'
    rw [hpc] at this
    omega
  refine ⟨?_, ?_, ?_, fun hw => ?_⟩
  · change ok (!(m.move i pc').runners.isEmpty) s
    rw [nonempty_move hget]; exact hok
  · change m.submitting + m.jobs + (m.move i pc').live = _
    rw [hlive, hflags.scheduled]; exact h.tokens
  · change (m.move i pc').live = _
    rw [hlive, hflags.running]; exact h.running
  · rw [hflags.scheduled]
    obtain hpc | hwanted := hwanted
    · exact .inl (h.scheduled_of_live hget hpc).1
    · exact h.wanted (hwanted hw)

/-- A live runner retires and clears both flags; what is wanted then is called for. -/
theorem Inv.retire (hpc : pc.live) (hok : ok true s) (hsched : C.scheduled s = false)
    (hrun : C.running s = false) (calls : Nat)
    (hwanted : C.wanted s → 0 < m.undispatched + calls) :
    Inv C ok { m.move i .retired with data := s, calls := calls } := by
  obtain ⟨-, hone, hsub, hjobs⟩ := h.scheduled_of_live hget hpc
  have hlive : (m.move i .retired).live = 0 := by
    have := live_move hget .retired
    rw [hpc] at this
    simp only [Pc.live, Bool.toNat_true, Bool.toNat_false] at this
    omega
  refine ⟨?_, ?_, ?_, fun hw => .inr (hwanted hw)⟩
  · change ok (!(m.move i .retired).runners.isEmpty) s
    rw [nonempty_move hget]; exact hok
  · change m.submitting + m.jobs + (m.move i .retired).live = _
    rw [hlive, hsub, hjobs, hsched]; rfl
  · change (m.move i .retired).live = _
    rw [hlive, hrun]; rfl

end

/-- The section of a schedule call; `m` has already left the counter it was waiting in. -/
theorem Inv.scheduleCall (hlaw : C.Lawful ok) {undispatched calls : Nat}
    (hok : ok (!m.runners.isEmpty) m.data)
    (htokens : m.submitting + m.jobs + m.live = (C.scheduled m.data).toNat)
    (hrunning : m.live = (C.running m.data).toNat) :
    Inv C ok (State.scheduleCall C { m with undispatched, calls }) := by
  have hout := hlaw.schedule hok
  unfold State.scheduleCall
  generalize C.schedule m.data = out at hout
  cases hout with
  | none hdone => exact ⟨hok, htokens, hrunning, fun hw => .inl (hdone hw)⟩
  | submits hfree hok' htaken hrun =>
    rw [hfree, Bool.toNat_false] at htokens
    refine ⟨hok', ?_, ?_, fun _ => .inl htaken⟩
    · change m.submitting + 1 + m.jobs + m.live = _
      rw [htaken, Bool.toNat_true]
      omega
    · rw [hrun]
      exact hrunning

/-- **One step keeps the protocol invariant.** -/
theorem inv_step (hlaw : C.Lawful ok) (m : State σ) (a : Action δ ρ) (h : Inv C ok m) :
    Inv C ok (step C m a) := by
  fun_cases step C m a with
  | case1 d =>
    obtain ⟨hok, hflags, hwanted⟩ := hlaw.act d h.ok
    refine ⟨hok, ?_, ?_, fun hw => ?_⟩ <;> simp only [hflags.scheduled, hflags.running]
    · exact h.tokens
    · exact h.running
    · cases hcall : (C.act d m.data).2 with
      | false => simpa using h.wanted (hwanted hcall hw)
      | true =>
        right
        rw [Bool.toNat_true]
        omega
  | case3 | case5 => exact Inv.scheduleCall hlaw h.ok h.tokens h.running
  | case7 n hn =>
    have htokens := h.tokens
    rw [hn] at htokens
    refine ⟨h.ok, ?_, h.running, h.wanted⟩
    change n + (m.jobs + 1) + m.live = (C.scheduled m.data).toNat
    omega
  | case9 n hn =>
    have htokens := h.tokens
    rw [hn] at htokens
    -- the queued job is the one token, so no runner is live
    have hsched : C.scheduled m.data ∧ m.submitting + n = 0 ∧ m.live = 0 := by
      cases hs : C.scheduled m.data with
      | false => rw [hs, Bool.toNat_false] at htokens; omega
      | true =>
        rw [hs, Bool.toNat_true] at htokens
        exact ⟨rfl, by omega, by omega⟩
    obtain ⟨hsched, hrest, hlive⟩ := hsched
    have hout := hlaw.start h.ok hsched
    generalize C.start m.data = out at hout
    cases hout with
    | runs hok hs hr =>
      have hlive' : (m.runners ++ [Pc.looping]).countP Pc.live = 1 := by
        rw [List.countP_append]
        change m.live + 1 = 1
        omega
      have hne : (m.runners ++ [Pc.looping]).isEmpty = false := by simp
      refine ⟨?_, ?_, ?_, fun _ => .inl (hs.trans hsched)⟩
      · change ok (!(m.runners ++ [Pc.looping]).isEmpty) _
        rw [hne]; exact hok
      · change m.submitting + n + (m.runners ++ [Pc.looping]).countP Pc.live = _
        rw [hs, hsched, hlive', hrest]; rfl
      · change (m.runners ++ [Pc.looping]).countP Pc.live = _
        rw [hr, hlive']; rfl
    | stops hok hs hr hw =>
      refine ⟨hok, ?_, ?_, fun hwant => ?_⟩
      · change m.submitting + n + m.live = _
        rw [hs, hlive, hrest]; rfl
      · change m.live = _
        rw [hr]; exact h.running
      · simp [hw] at hwant
  | case10 i x hget =>
    obtain ⟨hok, hflags⟩ := hlaw.refresh x (h.ok_true hget)
    have hsame : m.runners.set i .looping = m.runners := by
      obtain ⟨hlt, hpc⟩ := List.getElem?_eq_some_iff.mp hget
      rw [← hpc, List.set_getElem_self]
    have hmoved : Inv C ok { m.move i .looping with data := C.refresh x m.data } :=
      h.move hget rfl hok hflags (.inl rfl)
    simpa only [State.move, hsame] using hmoved
  | case12 i hget =>
    have hout := hlaw.next (h.ok_true hget)
    change Inv C ok { m.move i (C.next m.data).2.after with data := (C.next m.data).1 }
    generalize C.next m.data = out at hout
    cases hout with
    | idle hok hs hr hw =>
      exact h.retire hget rfl hok hs hr m.calls (fun hwant => by simp [hw] at hwant)
    | @busy _ found hfound hok hflags =>
      refine h.move hget ?_ hok hflags (.inl rfl)
      cases found <;> first | rfl | exact absurd rfl hfound
  | case14 i hget | case16 i hget | case17 i hget =>
    exact h.move hget rfl (h.ok_true hget) ⟨rfl, rfl⟩ (.inl rfl)
  | case18 i hget => exact h.move hget rfl (h.ok_true hget) ⟨rfl, rfl⟩ (.inr id)
  | case20 i hget =>
    obtain ⟨hok, hflags, -⟩ := hlaw.fail (h.ok_true hget)
    refine h.move hget ?_ hok hflags (.inl rfl)
    split <;> rfl
  | case21 i hget =>
    obtain ⟨hok, hflags, hwanted⟩ := hlaw.fail (h.ok_true hget)
    refine h.move hget ?_ hok hflags (.inr hwanted)
    split <;> rfl
  | case23 i hget =>
    obtain ⟨hok, hflags, -⟩ := hlaw.unsubscribe (h.ok_true hget)
    exact h.move hget rfl hok hflags (.inl rfl)
  | case24 i hget =>
    obtain ⟨hok, hflags, hw⟩ := hlaw.unsubscribe (h.ok_true hget)
    exact h.move hget rfl hok hflags (.inr fun hwant => by simp [hw] at hwant)
  | case26 i hget =>
    obtain ⟨hok, hs, hr⟩ := hlaw.finishRun (h.ok_true hget)
    exact h.retire hget rfl hok hs hr (m.calls + 1) (fun _ => by omega)
  | case28 i hget =>
    have hlive := live_erase hget rfl
    refine ⟨?_, ?_, ?_, h.wanted⟩
    · have hok := h.ok_true hget
      cases (m.runners.eraseIdx i).isEmpty with
      | true => exact hlaw.ok_mono hok
      | false => exact hok
    · change m.submitting + m.jobs + (m.runners.eraseIdx i).countP Pc.live = _
      rw [hlive]; exact h.tokens
    · change (m.runners.eraseIdx i).countP Pc.live = _
      rw [hlive]; exact h.running
  | _ => exact h

theorem inv_run (hlaw : C.Lawful ok) (h : Inv C ok m) (acts : List (Action δ ρ)) :
    Inv C ok (Machine.run (step C) m acts) :=
  Machine.run_invariant (inv_step hlaw) acts h

theorem inv_init (hok : ok false s) (hsched : C.scheduled s = false)
    (hrun : C.running s = false) (hwanted : C.wanted s = false) : Inv C ok { data := s } := by
  refine ⟨hok, ?_, ?_, fun hw => by simp [hwanted] at hw⟩
  · change 0 = _
    rw [hsched]; rfl
  · change 0 = _
    rw [hrun]; rfl

/-- With no schedule call outstanding, a component that wants a runner has exactly one. -/
theorem Inv.quiescent (h : Inv C ok m) (hundispatched : m.undispatched = 0) (hcalls : m.calls = 0)
    (hwanted : C.wanted m.data) : C.scheduled m.data ∧ m.submitting + m.jobs + m.live = 1 := by
  have hsched : C.scheduled m.data := by
    rcases h.wanted hwanted with hs | hpos
    · exact hs
    · omega
  refine ⟨hsched, ?_⟩
  rw [h.tokens, hsched]; rfl

theorem Inv.delivering_le_one (h : Inv C ok m) : m.runners.count .delivering ≤ 1 := by
  refine Nat.le_trans ?_ (h.running ▸ Bool.toNat_le _)
  exact List.countP_mono_left fun pc _ hpc => by
    rw [beq_iff_eq.mp hpc]; rfl

end Invariant

end SingleFlight
