import OpenNet.Common.Retirement
import OpenNet.Foundation.Pool

/-!
# Sealing a registry retires every thread

`Effect` says what one step of a call can do to the registry, to the threads and to the call.
From it follow three invariants of every interleaving.
-/

namespace OpenNet.Common

open Pool

/-! ## Threads -/

def outcome (panicked : Bool) : JoinResult :=
  if panicked then .error .runtimeError else .ok ()

namespace ThreadState

def Honest (thread : ThreadState) : Prop :=
  ∀ r, thread.result = some r → ∃ panicked, thread.exit = some panicked ∧ r = outcome panicked

structure Older (a b : ThreadState) : Prop where
  exit : ∀ panicked, a.exit = some panicked → b.exit = some panicked
  result : ∀ r, a.result = some r → b.result = some r

theorem Older.refl (a : ThreadState) : a.Older a := ⟨fun _ => id, fun _ => id⟩

/-- A join step leaves the thread honest; a join that is done has read its result. -/
theorem join_spec (thread : ThreadState) (pc : JoinPc) (h : thread.Honest) :
    thread.Older (thread.join pc).2 ∧ (thread.join pc).2.Honest ∧
      ∀ r, (thread.join pc).1 = .done r → (thread.join pc).2.result = some r := by
  cases pc with
  | enter =>
    dsimp only [join]
    split
    · rename_i result hresult
      refine ⟨.refl thread, h, fun r hr => ?_⟩
      cases hr
      exact hresult
    · split
      · exact ⟨⟨fun _ => id, fun _ => id⟩, h, nofun⟩
      · exact ⟨.refl thread, h, nofun⟩
  | joining =>
    dsimp only [join]
    split
    · exact ⟨.refl thread, h, nofun⟩
    rename_i panicked hexit
    refine ⟨⟨fun _ => id, fun r hr => ?_⟩, fun r hr => ?_, fun r hr => ?_⟩
    · -- The result that was there is the one that is written again.
      obtain ⟨panicked', hexit', rfl⟩ := h r hr
      obtain rfl := Option.some.inj (hexit.symm.trans hexit')
      rfl
    · cases hr
      exact ⟨panicked, hexit, rfl⟩
    · cases hr
      rfl
  | waiting seen => exact ⟨.refl thread, h, nofun⟩

end ThreadState

/-! ### All threads -/

def Grows (os os' : List ThreadState) : Prop :=
  ∀ (t : Nat) (a : ThreadState), os[t]? = some a → ∃ b, os'[t]? = some b ∧ a.Older b

def AllHonest (os : List ThreadState) : Prop :=
  ∀ (t : Nat) (a : ThreadState), os[t]? = some a → a.Honest

def Panicked (os : List ThreadState) : Prop := Sees (fun a => a.exit = some true) os

/-- The thread is joined, and a panic of it is known. -/
def JoinedWith (os : List ThreadState) (known : Prop) (t : ThreadId) : Prop :=
  ∃ a r, os[t]? = some a ∧ a.result = some r ∧ (r = .error .runtimeError → known)

section Threads

variable {os os' : List ThreadState} {t : ThreadId} {a b : ThreadState}

theorem Grows.refl (os : List ThreadState) : Grows os os := fun _ a h => ⟨a, h, .refl a⟩

theorem grows_set (h : os[t]? = some a) (hab : a.Older b) : Grows os (os.set t b) := by
  intro u c hc
  by_cases hu : u = t
  · subst hu
    obtain rfl := Option.some.inj (hc.symm.trans h)
    exact ⟨b, set_self h b, hab⟩
  · exact ⟨c, by rw [List.getElem?_set_ne (Ne.symm hu), hc], .refl c⟩

theorem grows_append (os : List ThreadState) (b : ThreadState) : Grows os (os ++ [b]) :=
  fun _ a h => ⟨a, get_append_left h _, .refl a⟩

theorem AllHonest.set (h : AllHonest os) (hb : b.Honest) (t : Nat) : AllHonest (os.set t b) := by
  intro u c hc
  obtain ⟨-, rfl⟩ | ⟨-, hc⟩ := get_set hc
  · exact hb
  · exact h u c hc

theorem AllHonest.append (h : AllHonest os) (hb : b.Honest) : AllHonest (os ++ [b]) := by
  intro u c hc
  obtain ⟨-, rfl⟩ | hc := get_append hc
  · exact hb
  · exact h u c hc

theorem Panicked.grows (h : Panicked os) (hgrows : Grows os os') : Panicked os' := by
  obtain ⟨t, a, ha, hexit⟩ := h
  obtain ⟨b, hb, hab⟩ := hgrows t a ha
  exact ⟨t, b, hb, hab.exit true hexit⟩

theorem JoinedWith.grows {known known' : Prop} (h : JoinedWith os known t)
    (hgrows : Grows os os') (hknown : known → known') : JoinedWith os' known' t := by
  obtain ⟨a, r, ha, hr, hpanic⟩ := h
  obtain ⟨b, hb, hab⟩ := hgrows t a ha
  exact ⟨b, r, hb, hab.result r hr, fun h => hknown (hpanic h)⟩

end Threads

/-! ### A loop of joins -/

/-- What one step of a join does to the threads. -/
structure OsStep (os os' : List ThreadState) : Prop where
  length : os'.length = os.length
  kept : AllHonest os → Grows os os' ∧ AllHonest os'

variable {t : ThreadId}

theorem osStep_join {os : List ThreadState} {a b : ThreadState} {pc : JoinPc}
    {step : JoinStep} (ha : os[t]? = some a) (hjoin : a.join pc = (step, b)) :
    OsStep os (os.set t b) := by
  have hspec := ThreadState.join_spec a pc
  rw [hjoin] at hspec
  exact ⟨List.length_set, fun h =>
    ⟨grows_set ha (hspec (h t a ha)).1, h.set (hspec (h t a ha)).2.1 t⟩⟩

structure JoinsStep (os os' : List ThreadState) (j j' : Joins) : Prop extends OsStep os os' where
  threads : AllHonest os → ∀ t ∈ j.threads,
    t ∈ j'.threads ∨ JoinedWith os' (j'.failed) t
  still : j.failed → j'.failed
  failed : AllHonest os → j'.failed → j.failed ∨ Panicked os'

theorem joinsStep_wake (os : List ThreadState) (j : Joins) (pc : JoinPc) :
    JoinsStep os os j { j with pc } :=
  ⟨⟨rfl, fun h => ⟨.refl os, h⟩⟩, fun _ _ => .inl, id, fun _ => .inl⟩

theorem outcome_error {panicked : Bool} (h : (outcome panicked).isOk = false) : panicked := by
  cases panicked with
  | true => rfl
  | false => cases h

theorem joinsStep (os : List ThreadState) (j : Joins) :
    JoinsStep os (j.step os).1 j (j.step os).2 := by
  have hstay : JoinsStep os os j j := joinsStep_wake os j j.pc
  unfold Joins.step
  split
  · exact hstay
  rename_i t rest hthreads
  split
  · exact hstay
  rename_i a ha
  split
  · rename_i pc b hjoin
    exact ⟨osStep_join ha hjoin, fun _ _ => .inl, id, fun _ => .inl⟩
  rename_i r b hjoin
  have hspec := ThreadState.join_spec a j.pc
  rw [hjoin] at hspec
  have hb : (os.set t b)[t]? = some b := set_self ha b
  refine ⟨osStep_join ha hjoin, fun h u hu => ?_, fun hf => ?_, fun h hf => ?_⟩
  · rw [hthreads, List.mem_cons] at hu
    obtain rfl | hu := hu
    · refine .inr ⟨b, r, hb, (hspec (h u a ha)).2.2 r rfl, ?_⟩
      rintro rfl
      exact Bool.or_true _
    · exact .inl hu
  · exact Bool.or_eq_true_iff.mpr (.inl hf)
  · obtain hf | hf := Bool.or_eq_true_iff.mp hf
    · exact .inl hf
    · obtain ⟨-, hhonest, hdone⟩ := hspec (h t a ha)
      obtain ⟨panicked, hexit, rfl⟩ := hhonest r (hdone r rfl)
      obtain rfl := outcome_error (by simpa using hf)
      exact .inr ⟨t, b, hb, hexit⟩

/-! ## The sweep loses no thread -/

variable {threads : List ThreadId}

theorem mem_swapRemove {index t x : Nat} (hx : threads[index]? = some x) (ht : t ∈ threads) :
    t = x ∨ t ∈ swapRemove threads index := by
  obtain ⟨j, hj⟩ := List.mem_iff_getElem?.mp ht
  obtain ⟨hindex, -⟩ := List.getElem?_eq_some_iff.mp hx
  obtain ⟨hlt, -⟩ := List.getElem?_eq_some_iff.mp hj
  by_cases hji : j = index
  · subst hji
    exact .inl (Option.some.inj (hj.symm.trans hx))
  right
  have hlast : threads.getLast? = threads[threads.length - 1]? := List.getLast?_eq_getElem?
  unfold swapRemove
  split
  · rename_i hnone
    rw [List.getLast?_eq_none_iff] at hnone
    rw [hnone] at ht
    cases ht
  · rename_i last hsome
    rw [hlast] at hsome
    rw [List.mem_iff_getElem?]
    by_cases hend : j = threads.length - 1
    · -- The last thread has moved to `index`.
      subst hend
      obtain rfl := Option.some.inj (hj.symm.trans hsome)
      refine ⟨index, ?_⟩
      rw [List.getElem?_dropLast, List.length_set, if_pos (by omega), set_self hx]
    · refine ⟨j, ?_⟩
      rw [List.getElem?_dropLast, List.length_set, if_pos (by omega),
        List.getElem?_set_ne (Ne.symm hji), hj]

theorem mem_sweepFrom (finished : ThreadId → Bool) (t : ThreadId) :
    ∀ (fuel index : Nat) (threads retired : List ThreadId), t ∈ threads ∨ t ∈ retired →
      t ∈ (sweepFrom finished fuel index threads retired).1 ∨
        t ∈ (sweepFrom finished fuel index threads retired).2
  | 0, _, _, _, h => h
  | fuel + 1, index, threads, retired, h => by
    unfold sweepFrom
    split
    · exact h
    rename_i x hx
    split
    · apply mem_sweepFrom
      obtain h | h := h
      · obtain rfl | h := mem_swapRemove hx h
        · exact .inr (by simp)
        · exact .inl h
      · exact .inr (List.mem_append_left _ h)
    · exact mem_sweepFrom finished t fuel (index + 1) threads retired h

theorem sweepFrom_nil (finished : ThreadId → Bool) :
    ∀ (fuel index : Nat) (threads retired : List ThreadId),
      (sweepFrom finished fuel index threads retired).2 = [] →
      retired = [] ∧ (sweepFrom finished fuel index threads retired).1 = threads
  | 0, _, _, _, h => ⟨h, rfl⟩
  | fuel + 1, index, threads, retired, h => by
    unfold sweepFrom at h ⊢
    split at h
    · exact ⟨h, rfl⟩
    split at h
    · have := (sweepFrom_nil finished fuel _ _ _ h).1
      simp at this
    rename_i hrunning
    rw [if_neg hrunning]
    exact sweepFrom_nil finished fuel _ _ _ h

/-! ## Calls -/

variable {c : Call}

namespace Call

def isReaping : Call → Bool
  | .reaping _ => true
  | _ => false

def isStarting : Call → Bool
  | .starting | .spawned _ | .started _ => true
  | _ => false

def isRetiring : Call → Bool
  | .retiring _ => true
  | _ => false

def hasSealed : Call → Bool
  | .sealWaiting _ | .sealWoken | .retiring _ => true
  | _ => false

/-- The call will put the thread into the registry, or join it. -/
def Holds (t : ThreadId) : Call → Prop
  | .spawned t' => t' = t
  | .reaping j | .retiring j => t ∈ j.threads
  | _ => False

def Reports : Call → Prop
  | .reaping j | .retiring j => j.failed
  | _ => False

def Notifying : Call → Prop
  | .notifying _ => True
  | _ => False

def atWork (c : Call) : Bool := c.isReaping || c.isStarting || c.isRetiring

theorem Holds.atWork (h : c.Holds t) : c.atWork := by
  cases c <;> first | rfl | cases h

theorem Reports.atWork (h : c.Reports) : c.atWork := by
  cases c <;> first | rfl | cases h

def isFresh : Call → Bool
  | .spawn .. | .sealCall | .join .. | .joinReturned _ => true
  | _ => false

theorem fresh_silent (h : c.isFresh) :
    c.isReaping = false ∧ c.isStarting = false ∧ c.isRetiring = false ∧ c.hasSealed = false ∧
      ¬c.Reports ∧ ∀ j, c ≠ .retiring j := by
  cases c <;> first | exact ⟨rfl, rfl, rfl, rfl, id, nofun⟩ | cases h

end Call

namespace Retirement

variable {limit : Nat} {s : Retirement} {i : Nat} {c : Call}

/-- Once a call retires the threads nothing starts or reaps any more. -/
def Idle (r : RegistryState) : Prop :=
  r.joining → r.sealed ∧ r.starting = 0 ∧ r.reaping = 0 ∧ r.threads = []

def Busy (r : RegistryState) : Prop := r.joining ∨ 0 < r.reaping ∨ 0 < r.starting

/-- The counters of the registry count calls. -/
structure Counted (s : Retirement) : Prop where
  reaping : s.calls.countP Call.isReaping = s.registry.reaping
  starting : s.calls.countP Call.isStarting = s.registry.starting
  retiring : s.calls.countP Call.isRetiring =
    (s.registry.joining && s.registry.result.isNone).toNat
  idle : Idle s.registry
  published : s.registry.result.isSome → s.registry.joining
  sealing : ∀ (i : Nat) (c : Call), s.calls[i]? = some c → c.hasSealed →
    s.registry.sealed

variable {j : Joins} {r : JoinResult} {thread : ThreadState}

theorem Counted.result_none (h : Counted s) (hi : s.calls[i]? = some (.retiring j)) :
    s.registry.joining ∧ s.registry.result = none := by
  have hpos := count_pos (p := Call.isRetiring) hi rfl
  rw [h.retiring] at hpos
  cases hjoining : s.registry.joining <;> cases hresult : s.registry.result <;> simp_all

theorem Counted.not_joining (h : Counted s) (hi : s.calls[i]? = some c)
    (hc : c.isReaping ∨ c.isStarting) : s.registry.joining = false := by
  by_contra hjoining
  obtain ⟨-, hstarting, hreaping, -⟩ := h.idle (Bool.not_eq_false _ ▸ hjoining)
  obtain hc | hc := hc
  · have hpos := count_pos hi hc
    rw [h.reaping, hreaping] at hpos
    cases hpos
  · have hpos := count_pos hi hc
    rw [h.starting, hstarting] at hpos
    cases hpos

theorem Counted.unsealed (h : Counted s) (hsealed : s.registry.sealed = false) :
    s.registry.joining = false := by
  by_contra hjoining
  rw [(h.idle (Bool.not_eq_false _ ▸ hjoining)).1] at hsealed
  cases hsealed

theorem idle_of {r : RegistryState} (h : r.joining = false) : Idle r := fun hjoining => by
  rw [h] at hjoining
  cases hjoining

/-! ## What a call can do -/

/-- What a step of a call does, as a rule nothing; the call was and is none of those that count. -/
structure Effect (s : Retirement) (c : Call) (registry : RegistryState) (os : List ThreadState)
    (new : Call) : Prop where
  reaping : registry.reaping + c.isReaping.toNat = s.registry.reaping + new.isReaping.toNat := by
    rfl
  starting : registry.starting + c.isStarting.toNat =
    s.registry.starting + new.isStarting.toNat := by rfl
  retiring : (registry.joining && registry.result.isNone).toNat + c.isRetiring.toNat =
    (s.registry.joining && s.registry.result.isNone).toNat + new.isRetiring.toNat := by rfl
  idle : Idle s.registry → Idle registry := by exact id
  joining : s.registry.joining → registry.joining := by exact id
  sealed : s.registry.sealed → registry.sealed := by exact id
  sealing : new.hasSealed → registry.sealed := by exact nofun
  result : ∀ r, s.registry.result = some r → registry.result = some r := by exact fun _ h => h
  decided : ∀ r, registry.result = some r → s.registry.result = some r ∨
    ∃ j, c = .retiring j ∧ r = outcome j.failed := by exact fun _ => .inl
  /-- Only a start adds a thread. -/
  length : os.length = s.os.length ∨
    c = .starting ∧ os.length = s.os.length + 1 ∧ new = .spawned s.os.length := by exact .inl rfl
  kept : AllHonest s.os → Grows s.os os ∧ AllHonest os := by exact fun h => ⟨.refl _, h⟩
  held : ∀ t ∈ s.registry.threads, t ∈ registry.threads ∨ new.Holds t := by exact fun _ => .inl
  /-- A thread that the call held is still held, or has been joined. -/
  handed : AllHonest s.os → ∀ t, c.Holds t → t ∈ registry.threads ∨ new.Holds t ∨
    JoinedWith os new.Reports t := by exact nofun
  failed : s.registry.failed → registry.failed := by exact id
  blamed : registry.failed → s.registry.failed ∨
    c.Reports ∧ s.registry.joining = false := by exact .inl
  reports : c.Reports → new.Reports ∨ registry.failed ∨
    registry.result = some (.error .runtimeError) := by exact nofun
  sound : AllHonest s.os → new.Reports → s.registry.failed ∨ c.Reports ∨ Panicked os := by
    exact nofun
  carried : ∀ j', new = .retiring j' → (∃ j, c = .retiring j ∧
    (j.failed → j'.failed)) ∨ j'.failed = registry.failed := by nofun
  notifications : s.registry.notifications ≤ registry.notifications := by exact Nat.le_refl _
  /-- Who ends what others wait for notifies them, in the same section or later. -/
  busy : registry.notifications = s.registry.notifications → s.registry.result = none →
    registry.result = none ∧ (Busy s.registry ∨ c.Notifying → Busy registry ∨ new.Notifying) := by
      exact fun _ h => ⟨h, .imp_right nofun⟩
  waits : ∀ seen, new = .sealWaiting seen → c = .sealWaiting seen ∨
    seen = registry.notifications ∧ registry.result = none ∧ Busy registry := by nofun
  returned : ∀ r, new = .sealReturned r → c = .sealReturned r ∨ registry.result = some r := by
    nofun

def After (s : Retirement) (i : Nat) (old : Call) (s' : Retirement) : Prop :=
  ∃ registry os new, s' = { registry, os, calls := s.calls.set i new } ∧
    Effect s old registry os new

section Effects

variable (h : Counted s)
include h

theorem stay_effect (hi : s.calls[i]? = some c) : Effect s c s.registry s.os c where
  sealing := h.sealing i c hi
  reports := .inl
  sound _ hc := .inr (.inl hc)
  handed _ _ hc := .inr (.inl hc)
  carried j hj := .inl ⟨j, hj, id⟩
  busy _ hr := ⟨hr, id⟩
  waits _ := .inl
  returned _ := .inl

theorem after_stay (hi : s.calls[i]? = some c) : After s i c s := by
  refine ⟨_, _, _, ?_, stay_effect h hi⟩
  obtain ⟨hlt, rfl⟩ := List.getElem?_eq_some_iff.mp hi
  rw [List.set_getElem_self]

theorem reserve_after (answers : Answers) (name : String) (reap : Bool)
    (hunsealed : s.registry.sealed = false) :
    After s i (.spawn name reap) (s.reserve limit i answers.threadsAllocated) := by
  unfold reserve
  split
  · exact ⟨_, _, _, rfl, {}⟩
  rename_i reserved hreserved
  obtain ⟨rfl, -⟩ := Checked.checkedAdd_eq_some.mp hreserved
  split
  · exact ⟨_, _, _, rfl, {
      idle := fun _ => idle_of (h.unsealed hunsealed)
      busy := fun _ hr => ⟨hr, fun _ => .inl (.inr (.inr (Nat.succ_pos _)))⟩ }⟩
  · exact ⟨_, _, _, rfl, {}⟩

theorem spawnEnter_after (name : String) (reap : Bool) (answers : Answers) :
    After s i (.spawn name reap) (s.spawnEnter limit i name reap answers) := by
  unfold spawnEnter
  split
  · exact ⟨_, _, _, rfl, {}⟩
  split
  · exact ⟨_, _, _, rfl, {}⟩
  rename_i hsealed
  have hunsealed : s.registry.sealed = false := by simpa using hsealed
  split
  · split
    · exact ⟨_, _, _, rfl, {}⟩
    dsimp only
    split
    · rename_i hnil
      rw [sweep, (sweepFrom_nil _ _ 0 _ [] hnil).2]
      exact reserve_after h answers name reap hunsealed
    · exact ⟨_, _, _, rfl, {
        idle := fun _ => idle_of (h.unsealed hunsealed)
        held := fun t ht => mem_sweepFrom _ t _ 0 _ [] (.inl ht)
        busy := fun _ hr => ⟨hr, fun _ => .inl (.inr (.inl (Nat.succ_pos _)))⟩ }⟩
  · exact reserve_after h answers name reap hunsealed

theorem reaped_after {pc : JoinPc} {failed : Bool}
    (hi : s.calls[i]? = some (.reaping { pc, threads := [], failed })) (answers : Answers) :
    After s i (.reaping { pc, threads := [], failed }) (s.reaped limit i failed answers) := by
  have hjoining := h.not_joining hi (.inl rfl)
  have hreaper := count_pos (p := Call.isReaping) hi rfl
  rw [h.reaping] at hreaper
  have hrefused : ∀ error, Effect s (.reaping { pc, threads := [], failed })
      { s.registry with
        failed := s.registry.failed || failed
        reaping := s.registry.reaping - 1
        notifications := s.registry.notifications + 1 } s.os (.spawnReturned (.error error)) :=
    fun _ => {
      reaping := Nat.sub_add_cancel hreaper
      idle := fun _ => idle_of hjoining
      failed := fun hf => Bool.or_eq_true_iff.mpr (.inl hf)
      blamed := fun hf => (Bool.or_eq_true_iff.mp hf).imp_right fun hc => ⟨hc, hjoining⟩
      reports := fun hc => .inr (.inl (Bool.or_eq_true_iff.mpr (.inr hc)))
      notifications := Nat.le_succ _
      busy := fun hsame => absurd hsame (Nat.succ_ne_self _) }
  unfold reaped
  dsimp only
  split
  · exact ⟨_, _, _, rfl, hrefused .brokenPipe⟩
  unfold reserve
  split
  · exact ⟨_, _, _, rfl, hrefused .other⟩
  rename_i reserved hreserved
  obtain ⟨rfl, -⟩ := Checked.checkedAdd_eq_some.mp hreserved
  split
  · exact ⟨_, _, _, rfl, { hrefused .other with
      starting := rfl
      idle := fun _ => idle_of hjoining
      length := .inl rfl
      carried := nofun
      busy := fun hsame => absurd hsame (Nat.succ_ne_self _)
      waits := nofun
      returned := nofun }⟩
  · exact ⟨_, _, _, rfl, hrefused .other⟩

omit h in
theorem sealLoop_after {old : Call} (hold : old = .sealCall ∨ old = .sealWoken) :
    After s i old (({ s with registry := { s.registry with sealed := true } }).sealLoop i) := by
  obtain rfl | rfl := hold
  all_goals
    unfold sealLoop
    split
    · rename_i r hresult
      exact ⟨_, _, _, rfl, {
        idle := fun hidle hj => ⟨rfl, (hidle hj).2⟩
        sealed := fun _ => rfl
        returned := fun _ hr => .inr (by cases hr; exact hresult) }⟩
    rename_i hresult
    split
    · rename_i hidle
      exact ⟨_, _, _, rfl, {
        retiring := by
          change (true && s.registry.result.isNone).toNat + 0 =
            (s.registry.joining && _).toNat + 1
          rw [show s.registry.result = none from hresult,
            show s.registry.joining = false from hidle.1]
          rfl
        idle := fun _ _ => ⟨rfl, hidle.2.2, hidle.2.1, rfl⟩
        joining := fun _ => rfl
        sealed := fun _ => rfl
        sealing := fun _ => rfl
        held := fun _ => .inr
        sound := fun _ hf => .inl hf
        carried := fun _ hj => .inr (by cases hj; rfl)
        busy := fun _ hr => ⟨hr, fun _ => .inl (.inl rfl)⟩ }⟩
    rename_i hbusy
    refine ⟨_, _, _, rfl, {
      idle := fun hidle hj => ⟨rfl, (hidle hj).2⟩
      sealed := fun _ => rfl
      sealing := fun _ => rfl
      waits := fun _ hseen => .inr ⟨(by cases hseen; rfl), hresult, ?_⟩ }⟩
    by_contra hidle
    simp only [Busy, not_or, Nat.not_lt, Nat.le_zero_eq, Bool.not_eq_true] at hidle
    exact hbusy hidle

omit h in
theorem reaps_effect {os : List ThreadState} {j' : Joins} (step : JoinsStep s.os os j j') :
    Effect s (.reaping j) s.registry os (.reaping j') where
  length := .inl step.length
  kept := step.kept
  handed hhonest t ht := .inr (step.threads hhonest t ht)
  reports hc := .inl (step.still hc)
  sound hhonest hnew := .inr (step.failed hhonest hnew)

theorem retires_effect {os : List ThreadState} {j' : Joins} (hi : s.calls[i]? = some (.retiring j))
    (step : JoinsStep s.os os j j') : Effect s (.retiring j) s.registry os (.retiring j') where
  sealing _ := h.sealing i _ hi rfl
  length := .inl step.length
  kept := step.kept
  handed hhonest t ht := .inr (step.threads hhonest t ht)
  reports hc := .inl (step.still hc)
  sound hhonest hnew := .inr (step.failed hhonest hnew)
  carried _ hj := .inl ⟨j, rfl, by cases hj; exact step.still⟩

theorem publish_after {pc : JoinPc} {failed : Bool}
    (hi : s.calls[i]? = some (.retiring { pc, threads := [], failed })) :
    After s i (.retiring { pc, threads := [], failed }) (s.publish i failed) := by
  obtain ⟨hjoining, hnone⟩ := h.result_none hi
  exact ⟨_, _, _, rfl, {
    retiring := by
      change (s.registry.joining && false).toNat + 1 = _
      rw [hjoining, hnone]
      rfl
    result := fun r hr => by rw [hnone] at hr; cases hr
    decided := fun r hr => .inr ⟨_, rfl, (Option.some.inj hr).symm⟩
    reports := fun hc => .inr (.inr (by obtain rfl : failed := hc; rfl))
    notifications := Nat.le_succ _
    busy := fun hsame => absurd hsame (Nat.succ_ne_self _)
    returned := fun _ hr => .inr (by cases hr; rfl) }⟩

theorem stepCall_after (limit : Nat) (hi : s.calls[i]? = some c) (answers : Answers) :
    After s i c (s.stepCall limit i answers c) := by
  have hstarter := count_pos (p := Call.isStarting) hi
  rw [h.starting] at hstarter
  cases c with
  | spawn name reap => exact spawnEnter_after h name reap answers
  | reaping j =>
    rw [stepCall]
    split
    · rename_i hnil
      obtain ⟨pc, threads, failed⟩ := j
      obtain rfl : threads = [] := hnil
      exact reaped_after h hi answers
    · exact ⟨_, _, _, rfl, reaps_effect (joinsStep s.os j)⟩
  | starting =>
    rw [stepCall]
    split
    · exact ⟨_, _, _, rfl, {
        length := .inr ⟨rfl, List.length_append, rfl⟩
        kept := fun hhonest => ⟨grows_append s.os _, hhonest.append nofun⟩ }⟩
    · exact ⟨_, _, _, rfl, {}⟩
  | spawned t =>
    refine ⟨_, _, _, rfl, {
      idle := fun _ => idle_of (h.not_joining hi (.inr rfl))
      held := fun _ ht => .inl (List.mem_append_left _ ht)
      handed := fun _ t' ht => .inl ?_ }⟩
    obtain rfl : t = t' := ht
    exact List.mem_append_right _ List.mem_cons_self
  | started answer =>
    exact ⟨_, _, _, rfl, {
      starting := Nat.sub_add_cancel (hstarter rfl)
      idle := fun _ => idle_of (h.not_joining hi (.inr rfl))
      busy := fun _ hr => ⟨hr, fun _ => .inr trivial⟩ }⟩
  | notifying answer =>
    exact ⟨_, _, _, rfl, {
      notifications := Nat.le_succ _
      busy := fun hsame => absurd hsame (Nat.succ_ne_self _) }⟩
  | spawnReturned answer => exact after_stay h hi
  | sealCall => exact sealLoop_after (.inl rfl)
  | sealWaiting seen =>
    rw [stepCall]
    split
    · exact ⟨_, _, _, rfl, { sealing := fun _ => h.sealing i _ hi rfl }⟩
    · exact after_stay h hi
  | sealWoken =>
    have hsame : s = { s with registry := { s.registry with sealed := true } } := by
      rw [← h.sealing i _ hi rfl]
    rw [stepCall, hsame]
    exact sealLoop_after (.inr rfl)
  | retiring j =>
    rw [stepCall]
    split
    · rename_i hnil
      obtain ⟨pc, threads, failed⟩ := j
      obtain rfl : threads = [] := hnil
      exact publish_after h hi
    · exact ⟨_, _, _, rfl, retires_effect h hi (joinsStep s.os j)⟩
  | sealReturned r => exact after_stay h hi
  | join t pc =>
    rw [stepCall]
    split
    · exact after_stay h hi
    rename_i a ha
    split
    all_goals
      rename_i hjoin
      have step := osStep_join ha hjoin
      exact ⟨_, _, _, rfl, { length := .inl step.length, kept := step.kept }⟩
  | joinReturned r => exact after_stay h hi

theorem wake_after (hi : s.calls[i]? = some c) : After s i c (s.move i (Call.wake c)) := by
  unfold Call.wake
  split
  · exact ⟨_, _, _, rfl, { sealing := fun _ => h.sealing i _ hi rfl }⟩
  · exact ⟨_, _, _, rfl, reaps_effect (joinsStep_wake s.os _ .enter)⟩
  · exact ⟨_, _, _, rfl, retires_effect h hi (joinsStep_wake s.os _ .enter)⟩
  · exact ⟨_, _, _, rfl, {}⟩
  · exact ⟨_, _, _, rfl, stay_effect h hi⟩

end Effects

/-! ## The counters -/

section Moves

variable {registry : RegistryState} {os : List ThreadState} {new : Call}

theorem Counted.move (h : Counted s) (hi : s.calls[i]? = some c)
    (he : Effect s c registry os new) : Counted { registry, os, calls := s.calls.set i new } := by
  have hreaping := he.reaping
  have hstarting := he.starting
  have hretiring := he.retiring
  have hreaping' := count_set Call.isReaping hi new
  have hstarting' := count_set Call.isStarting hi new
  have hretiring' := count_set Call.isRetiring hi new
  rw [h.reaping] at hreaping'
  rw [h.starting] at hstarting'
  rw [h.retiring] at hretiring'
  refine ⟨by dsimp only; omega, by dsimp only; omega, by dsimp only; omega, he.idle h.idle,
    fun hr => ?_, fun j x hx hsealed => ?_⟩
  · obtain ⟨r, hr⟩ := Option.isSome_iff_exists.mp hr
    obtain hr | ⟨j, rfl, -⟩ := he.decided r hr
    · exact he.joining (h.published (Option.isSome_iff_exists.mpr ⟨r, hr⟩))
    · exact he.joining (h.result_none hi).1
  · obtain ⟨-, rfl⟩ | ⟨-, hx⟩ := get_set hx
    · exact he.sealing hsealed
    · exact he.sealed (h.sealing j x hx hsealed)

/-! ## Where the threads are -/

/-- The panic of a joined thread is known, and will be reported. -/
def Known (s : Retirement) : Prop :=
  s.registry.failed ∨ Sees Call.Reports s.calls ∨
    s.registry.result = some (.error .runtimeError)

def Held (s : Retirement) (t : ThreadId) : Prop :=
  t ∈ s.registry.threads ∨ Sees (Call.Holds t) s.calls

/-- A thread is held, or has been joined with its panic being known. -/
structure Accounted (s : Retirement) : Prop where
  honest : AllHonest s.os
  held : ∀ t, t < s.os.length → Held s t ∨ JoinedWith s.os (Known s) t
  sound : Known s → Panicked s.os
  carried : s.registry.failed →
    (∀ (i : Nat) (j : Joins), s.calls[i]? = some (.retiring j) → j.failed) ∧
      ∀ r, s.registry.result = some r → r = .error .runtimeError

theorem Effect.known (he : Effect s c registry os new) (hi : s.calls[i]? = some c)
    (hk : Known s) : Known { registry, os, calls := s.calls.set i new } := by
  obtain hf | ⟨j, x, hx, hreports⟩ | hr := hk
  · exact .inl (he.failed hf)
  · by_cases hj : j = i
    · subst hj
      obtain rfl := Option.some.inj (hx.symm.trans hi)
      obtain hnew | hf | hr := he.reports hreports
      · exact .inr (.inl ⟨j, new, set_self hi new, hnew⟩)
      · exact .inl hf
      · exact .inr (.inr hr)
    · exact .inr (.inl ⟨j, x, by rw [List.getElem?_set_ne (Ne.symm hj), hx], hreports⟩)
  · exact .inr (.inr (he.result _ hr))

section

variable (ha : Accounted s) (hi : s.calls[i]? = some c) (he : Effect s c registry os new)
include ha hi he

theorem Accounted.sound_move (hk : Known { registry, os, calls := s.calls.set i new }) :
    Panicked os := by
  have hgrows := (he.kept ha.honest).1
  have hold : Known s → Panicked os := fun hk => (ha.sound hk).grows hgrows
  have hown : c.Reports → Panicked os := fun hc => hold (.inr (.inl ⟨i, c, hi, hc⟩))
  obtain hf | hreports | hr := hk
  · obtain hf | ⟨hc, -⟩ := he.blamed hf
    · exact hold (.inl hf)
    · exact hown hc
  · obtain hnew | hcalls := hreports.of_set
    · obtain hf | hc | hpanicked := he.sound ha.honest hnew
      · exact hold (.inl hf)
      · exact hown hc
      · exact hpanicked
    · exact hold (.inr (.inl hcalls))
  · obtain hr | ⟨j, rfl, hj⟩ := he.decided _ hr
    · exact hold (.inr (.inr hr))
    · exact hown (outcome_error (by rw [← hj]; rfl))

variable (h : Counted s)
include h

theorem Accounted.carried_move (hf : registry.failed) :
    (∀ (k : Nat) (j : Joins), (s.calls.set i new)[k]? = some (.retiring j) → j.failed) ∧
      ∀ r, registry.result = some r → r = .error .runtimeError := by
  have hbefore : s.registry.joining → s.registry.failed := fun hjoining =>
    (he.blamed hf).resolve_right fun ⟨_, hnone⟩ => by
      rw [hnone] at hjoining
      cases hjoining
  refine ⟨fun k j hk => ?_, fun r hr => ?_⟩
  · obtain ⟨-, hnew⟩ | ⟨-, hk⟩ := get_set hk
    · obtain ⟨j₀, rfl, hkept⟩ | heq := he.carried j hnew.symm
      · exact hkept ((ha.carried (hbefore (h.result_none hi).1)).1 i j₀ hi)
      · exact heq.trans hf
    · exact (ha.carried (hbefore (h.result_none hk).1)).1 k j hk
  · obtain hr | ⟨j, rfl, rfl⟩ := he.decided r hr
    · have hjoining := h.published (Option.isSome_iff_exists.mpr ⟨r, hr⟩)
      exact (ha.carried (hbefore hjoining)).2 r hr
    · rw [(ha.carried (hbefore (h.result_none hi).1)).1 i j hi]
      rfl

theorem Accounted.move : Accounted { registry, os, calls := s.calls.set i new } := by
  obtain ⟨hgrows, hhonest⟩ := he.kept ha.honest
  have hnew : Sees (· = new) (s.calls.set i new) := ⟨i, new, set_self hi new, rfl⟩
  have hholds : ∀ {t}, new.Holds t → Sees (Call.Holds t) (s.calls.set i new) := fun hn =>
    hnew.mono fun x hx => by rw [hx]; exact hn
  refine ⟨hhonest, fun t ht => ?_, ha.sound_move hi he, ha.carried_move hi he h⟩
  have hthreads : t < s.os.length ∨ new.Holds t := by
    obtain hlength | ⟨-, hlength, rfl⟩ := he.length
    · exact .inl (hlength ▸ ht)
    · change t < os.length at ht
      rcases Nat.lt_succ_iff_lt_or_eq.mp (hlength ▸ ht) with hlt | heq
      · exact .inl hlt
      · exact .inr heq.symm
  obtain ht | hn := hthreads
  · obtain (hr | ⟨k, x, hx, hheld⟩) | hjoined := ha.held t ht
    · obtain hr | hn := he.held t hr
      · exact .inl (.inl hr)
      · exact .inl (.inr (hholds hn))
    · by_cases hk : k = i
      · subst hk
        obtain rfl := Option.some.inj (hx.symm.trans hi)
        obtain hr | hn | hjoined := he.handed ha.honest t hheld
        · exact .inl (.inl hr)
        · exact .inl (.inr (hholds hn))
        · refine .inr (hjoined.grows (.refl os) fun hn => .inr (.inl ?_))
          exact hnew.mono fun x hx => by rw [hx]; exact hn
      · exact .inl (.inr ⟨k, x, by rw [List.getElem?_set_ne (Ne.symm hk), hx], hheld⟩)
    · exact .inr (hjoined.grows hgrows (he.known hi))
  · exact .inl (.inr (hholds hn))

end

/-! ## Waiting calls -/

/-- A waiting call without a notification waits for somebody at work or about to notify. -/
structure Attended (s : Retirement) : Prop where
  waiting : ∀ (i : Nat) (seen : Nat), s.calls[i]? = some (.sealWaiting seen) →
    seen ≤ s.registry.notifications ∧ (seen = s.registry.notifications →
      s.registry.result = none ∧ (Busy s.registry ∨ Sees Call.Notifying s.calls))
  returned : ∀ (i : Nat) (r : JoinResult), s.calls[i]? = some (.sealReturned r) →
    s.registry.result = some r

theorem Effect.busy_calls (he : Effect s c registry os new) (hi : s.calls[i]? = some c)
    (hsame : registry.notifications = s.registry.notifications) (hresult : s.registry.result = none)
    (hbusy : Busy s.registry ∨ Sees Call.Notifying s.calls) :
    registry.result = none ∧ (Busy registry ∨ Sees Call.Notifying (s.calls.set i new)) := by
  obtain ⟨hnone, hafter⟩ := he.busy hsame hresult
  have hown : Busy registry ∨ new.Notifying →
      Busy registry ∨ Sees Call.Notifying (s.calls.set i new) :=
    .imp_right fun hnew => ⟨i, new, set_self hi new, hnew⟩
  refine ⟨hnone, ?_⟩
  obtain hbusy | ⟨k, x, hx, hnotifying⟩ := hbusy
  · exact hown (hafter (.inl hbusy))
  by_cases hk : k = i
  · subst hk
    obtain rfl := Option.some.inj (hx.symm.trans hi)
    exact hown (hafter (.inr hnotifying))
  · exact .inr ⟨k, x, by rw [List.getElem?_set_ne (Ne.symm hk), hx], hnotifying⟩

theorem Attended.move (hw : Attended s) (hi : s.calls[i]? = some c)
    (he : Effect s c registry os new) :
    Attended { registry, os, calls := s.calls.set i new } := by
  have hkept : ∀ (k seen : Nat), s.calls[k]? = some (.sealWaiting seen) →
      seen ≤ registry.notifications ∧ (seen = registry.notifications →
        registry.result = none ∧ (Busy registry ∨ Sees Call.Notifying (s.calls.set i new))) := by
    intro k seen hk
    obtain ⟨hle, hwaits⟩ := hw.waiting k seen hk
    have hmono := he.notifications
    refine ⟨Nat.le_trans hle hmono, fun hseen => ?_⟩
    obtain ⟨hresult, hbusy⟩ := hwaits (by omega)
    exact he.busy_calls hi (by omega) hresult hbusy
  refine ⟨fun k seen hk => ?_, fun k r hk => ?_⟩
  · obtain ⟨rfl, hnew⟩ | ⟨-, hk⟩ := get_set hk
    · obtain hc | ⟨rfl, hresult, hbusy⟩ := he.waits seen hnew.symm
      · exact hkept k seen (hc ▸ hi)
      · exact ⟨Nat.le_refl _, fun _ => ⟨hresult, .inl hbusy⟩⟩
    · exact hkept k seen hk
  · obtain ⟨rfl, hnew⟩ | ⟨-, hk⟩ := get_set hk
    · obtain hc | hr := he.returned r hnew.symm
      · exact he.result r (hw.returned k r (hc ▸ hi))
      · exact hr
    · exact he.result r (hw.returned k r hk)

end Moves

/-! ## Every interleaving -/

structure Invariant (s : Retirement) : Prop where
  counted : Counted s
  accounted : Accounted s
  attended : Attended s

theorem Invariant.after {s' : Retirement} (h : Invariant s) (hi : s.calls[i]? = some c)
    (ha : After s i c s') : Invariant s' := by
  obtain ⟨registry, os, new, rfl, he⟩ := ha
  exact ⟨h.counted.move hi he, h.accounted.move hi he h.counted, h.attended.move hi he⟩

theorem Counted.call (h : Counted s) (hc : c.isFresh) : Counted (s.call c) := by
  obtain ⟨hreaping, hstarting, hretiring, hsealed, -, -⟩ := Call.fresh_silent hc
  refine ⟨?_, ?_, ?_, h.idle, h.published, fun j x hx hx' => ?_⟩
  · exact (count_append Call.isReaping s.calls c).trans (by rw [hreaping, h.reaping]; rfl)
  · exact (count_append Call.isStarting s.calls c).trans (by rw [hstarting, h.starting]; rfl)
  · exact (count_append Call.isRetiring s.calls c).trans (by rw [hretiring, h.retiring]; rfl)
  · obtain ⟨-, rfl⟩ | hx := get_append hx
    · rw [hsealed] at hx'
      cases hx'
    · exact h.sealing j x hx hx'

theorem Accounted.call (h : Accounted s) (hc : c.isFresh) : Accounted (s.call c) := by
  obtain ⟨-, -, -, -, hreports, hretiring⟩ := Call.fresh_silent hc
  have hknown : Known s → Known (s.call c) := .imp_right (.imp_left fun hsees => hsees.append c)
  refine ⟨h.honest, fun t ht => ?_, fun hk => h.sound ?_, fun hf => ⟨fun k j hk => ?_, ?_⟩⟩
  · exact (h.held t ht).imp (.imp_right fun hsees => hsees.append c)
      fun hjoined => hjoined.grows (.refl s.os) hknown
  · exact hk.imp_right (.imp_left fun hsees => hsees.of_append.resolve_left hreports)
  · obtain ⟨-, heq⟩ | hk := get_append hk
    · exact absurd heq.symm (hretiring j)
    · exact (h.carried hf).1 k j hk
  · exact (h.carried hf).2

theorem Attended.call (h : Attended s) (hc : c.isFresh) : Attended (s.call c) := by
  refine ⟨fun k seen hk => ?_, fun k r hk => ?_⟩
  · obtain ⟨-, rfl⟩ | hk := get_append hk
    · cases hc
    · obtain ⟨hle, hwaits⟩ := h.waiting k seen hk
      refine ⟨hle, fun hseen => (hwaits hseen).imp_right ?_⟩
      exact .imp_right fun hsees => hsees.append c
  · obtain ⟨-, rfl⟩ | hk := get_append hk
    · cases hc
    · exact h.returned k r hk

theorem Invariant.call (h : Invariant s) (hc : c.isFresh) : Invariant (s.call c) :=
  ⟨h.counted.call hc, h.accounted.call hc, h.attended.call hc⟩

theorem Invariant.exit (h : Invariant s) (ht : s.os[t]? = some thread)
    (hrunning : thread.exit = none) (panicked : Bool) :
    Invariant { s with os := s.os.set t { thread with exit := some panicked } } := by
  have ha := h.accounted
  have hresult : thread.result = none := by
    cases hr : thread.result with
    | none => rfl
    | some r =>
      obtain ⟨p, hexit, -⟩ := ha.honest t thread ht r hr
      rw [hrunning] at hexit
      cases hexit
  have holder : thread.Older { thread with exit := some panicked } :=
    ⟨fun p hp => (by rw [hrunning] at hp; cases hp), fun _ => id⟩
  have hgrows := grows_set ht holder
  refine ⟨⟨h.counted.reaping, h.counted.starting, h.counted.retiring, h.counted.idle,
    h.counted.published, h.counted.sealing⟩, ⟨ha.honest.set ?_ t, fun u hu => ?_,
    fun hk => (ha.sound hk).grows hgrows, ha.carried⟩, ⟨h.attended.waiting, h.attended.returned⟩⟩
  · intro r hr
    rw [hresult] at hr
    cases hr
  · rw [List.length_set] at hu
    exact (ha.held u hu).imp_right fun hjoined => hjoined.grows hgrows id

theorem invariant_step (s : Retirement) (a : Action) (h : Invariant s) :
    Invariant (s.step limit a) := by
  cases a with
  | callSpawn | callSeal => exact h.call rfl
  | callJoin t own =>
    rw [step]
    split
    · exact h.call rfl
    · exact h.call rfl
  | step i answers =>
    rw [step]
    split
    · exact h
    rename_i c hi
    exact h.after hi (stepCall_after h.counted limit hi answers)
  | wake i =>
    rw [step]
    split
    · exact h
    rename_i c hi
    exact h.after hi (wake_after h.counted hi)
  | exit t panicked =>
    rw [step]
    split
    · exact h
    rename_i thread ht
    split
    · exact h
    · rename_i hrunning
      exact h.exit ht (by simpa using hrunning) panicked

theorem invariant_new : Invariant {} where
  counted :=
    ⟨rfl, rfl, rfl, fun h => (by cases h), fun h => (by cases h), fun _ _ h => (by cases h)⟩
  accounted := by
    refine ⟨fun _ _ h => (by cases h), fun _ h => (by cases h), fun hk => ?_, fun h => (by cases h)⟩
    obtain h | ⟨_, _, h, _⟩ | h := hk <;> cases h
  attended := ⟨fun _ _ h => (by cases h), fun _ _ h => (by cases h)⟩

theorem Counted.atWork (h : Counted s) (hi : s.calls[i]? = some c)
    (hwork : c.atWork) : 0 < s.registry.reaping ∨ 0 < s.registry.starting ∨
      s.registry.joining ∧ s.registry.result = none := by
  simp only [Call.atWork, Bool.or_eq_true] at hwork
  obtain (hreaping | hstarting) | hretiring := hwork
  · exact .inl (h.reaping ▸ count_pos hi hreaping)
  · exact .inr (.inl (h.starting ▸ count_pos hi hstarting))
  cases c with
  | retiring j => exact .inr (.inr (h.result_none hi))
  | _ => cases hretiring

/-- Once the result is published nobody starts, reaps or retires. -/
theorem Counted.quiet (h : Counted s) (hr : s.registry.result.isSome)
    (hi : s.calls[i]? = some c) : c.atWork = false := by
  obtain ⟨-, hstarting, hreaping, -⟩ := h.idle (h.published hr)
  rw [Bool.eq_false_iff]
  intro hwork
  obtain hpos | hpos | ⟨-, hnone⟩ := h.atWork hi hwork
  · omega
  · omega
  · rw [hnone] at hr
    cases hr

/-- Then no thread is spawned either, and the result stays. -/
theorem retired_step (limit n : Nat) (r : JoinResult) (s : Retirement) (a : Action)
    (h : Invariant s ∧ s.registry.result = some r ∧ s.os.length = n) :
    Invariant (s.step limit a) ∧ (s.step limit a).registry.result = some r ∧
      (s.step limit a).os.length = n := by
  obtain ⟨hs, hr, hn⟩ := h
  have hpublished : s.registry.result.isSome := Option.isSome_iff_exists.mpr ⟨r, hr⟩
  have hmoves : ∀ {i c s'}, s.calls[i]? = some c → After s i c s' →
      s'.registry.result = some r ∧ s'.os.length = n := by
    rintro i c s' hi ⟨registry, os, new, rfl, he⟩
    refine ⟨he.result r hr, ?_⟩
    obtain hlength | ⟨rfl, -⟩ := he.length
    · exact hlength.trans hn
    · cases hs.counted.quiet hpublished hi
  refine ⟨invariant_step s a hs, ?_⟩
  cases a with
  | callSpawn | callSeal | callJoin => exact ⟨hr, hn⟩
  | step i answers =>
    rw [step]
    split
    · exact ⟨hr, hn⟩
    · rename_i c hi
      exact hmoves hi (stepCall_after hs.counted limit hi answers)
  | wake i =>
    rw [step]
    split
    · exact ⟨hr, hn⟩
    · rename_i c hi
      exact hmoves hi (wake_after hs.counted hi)
  | exit t panicked =>
    rw [step]
    split
    · exact ⟨hr, hn⟩
    split
    · exact ⟨hr, hn⟩
    · exact ⟨hr, List.length_set.trans hn⟩

/-- Once the result is published every thread was joined, and a panic is in it. -/
theorem Invariant.joined (h : Invariant s) (hr : s.registry.result = some r)
    (ht : s.os[t]? = some thread) :
    thread.result.isSome ∧ (thread.exit = some true → r = .error .runtimeError) := by
  have hpublished : s.registry.result.isSome := Option.isSome_iff_exists.mpr ⟨r, hr⟩
  obtain (hthreads | ⟨i, c, hi, hheld⟩) | ⟨a, result, ha, hresult, hpanic⟩ :=
    h.accounted.held t (List.getElem?_eq_some_iff.mp ht).1
  · rw [(h.counted.idle (h.counted.published hpublished)).2.2.2] at hthreads
    cases hthreads
  · have hwork := hheld.atWork
    rw [h.counted.quiet hpublished hi] at hwork
    cases hwork
  · obtain rfl := Option.some.inj (ht.symm.trans ha)
    refine ⟨Option.isSome_iff_exists.mpr ⟨result, hresult⟩, fun hexit => ?_⟩
    obtain ⟨panicked, hexit', rfl⟩ := h.accounted.honest t thread ht result hresult
    obtain rfl := Option.some.inj (hexit.symm.trans hexit')
    obtain hf | ⟨i, c, hi, hreports⟩ | herror := hpanic rfl
    · exact (h.accounted.carried hf).2 r hr
    · have hwork := hreports.atWork
      rw [h.counted.quiet hpublished hi] at hwork
      cases hwork
    · exact Option.some.inj (hr.symm.trans herror)

/-- An unnotified sealing call waits for a call at work or a notification to come. -/
theorem Invariant.no_lost_wakeup (h : Invariant s) {seen : Nat}
    (hi : s.calls[i]? = some (.sealWaiting seen))
    (hvain : s.registry.result.isSome ∨ ¬Sees (fun c => c.atWork) s.calls) :
    seen < s.registry.notifications ∨ Sees Call.Notifying s.calls := by
  obtain ⟨hle, hwaits⟩ := h.attended.waiting i seen hi
  rcases Nat.lt_or_eq_of_le hle with hlt | hseen
  · exact .inl hlt
  obtain ⟨hnone, hbusy⟩ := hwaits hseen
  have hidle : ¬Sees (fun c => c.atWork) s.calls := by
    refine hvain.resolve_left fun hsome => ?_
    rw [hnone] at hsome
    cases hsome
  have hcount : ∀ {p : Call → Bool}, (∀ c, p c → c.atWork) →
      s.calls.countP p = 0 := fun hp =>
    List.countP_eq_zero.mpr fun c hc hpc => by
      obtain ⟨j, hj⟩ := List.mem_iff_getElem?.mp hc
      exact hidle ⟨j, c, hj, hp c hpc⟩
  have hreaping : s.registry.reaping = 0 := by
    rw [← h.counted.reaping]
    exact hcount fun c hc => by simp [Call.atWork, hc]
  have hstarting : s.registry.starting = 0 := by
    rw [← h.counted.starting]
    exact hcount fun c hc => by simp [Call.atWork, hc]
  have hretiring := h.counted.retiring
  rw [hcount fun c hc => by simp [Call.atWork, hc], hnone] at hretiring
  obtain (hjoining | hpos | hpos) | hnotifying := hbusy
  · rw [hjoining] at hretiring
    cases hretiring
  · omega
  · omega
  · exact .inr hnotifying

/-- **Sealing retires every thread**, in every interleaving of spawns, exits, joins and seals.

* When a `seal_and_join` returns, every thread ever spawned has been joined, and from then on the
  registry is empty and no thread is spawned.
* All its callers get the same result, an error exactly when a thread has panicked.
* A caller that waits although the result is there, or although no call starts, reaps or retires
  threads, has been notified, or a call is about to notify it. -/
theorem thread_retirement (limit : Nat) (acts : List Action) :
    let s := run limit {} acts
    (∀ (i : Nat) (r : JoinResult), s.calls[i]? = some (.sealReturned r) →
      (∀ (t : ThreadId) (thread : ThreadState), s.os[t]? = some thread →
        thread.result.isSome = true) ∧
      (r = .error .runtimeError ↔
        ∃ (t : ThreadId) (thread : ThreadState), s.os[t]? = some thread ∧
          thread.exit = some true) ∧
      ∀ more, (s.run limit more).registry.threads = [] ∧
        (s.run limit more).os.length = s.os.length ∧
        ∀ (j : Nat) (r' : JoinResult),
          (s.run limit more).calls[j]? = some (.sealReturned r') → r' = r) ∧
    ∀ (i seen : Nat), s.calls[i]? = some (.sealWaiting seen) →
      (s.registry.result.isSome = true ∨ ¬Sees (fun c => c.atWork = true) s.calls) →
      seen < s.registry.notifications ∨
        ∃ (j : Nat) (answer : Except SpawnError ThreadId),
          s.calls[j]? = some (.notifying answer) := by
  intro s
  have h : Invariant s := Machine.run_invariant invariant_step acts invariant_new
  refine ⟨fun i r hi => ?_, fun i seen hi hvain => ?_⟩
  · have hr := h.attended.returned i r hi
    refine ⟨fun t thread ht => (h.joined hr ht).1, ⟨fun herror => ?_, ?_⟩, fun more => ?_⟩
    · exact h.accounted.sound (.inr (.inr (herror ▸ hr)))
    · rintro ⟨t, thread, ht, hpanicked⟩
      exact (h.joined hr ht).2 hpanicked
    · obtain ⟨h', hr', hlength⟩ :=
        Machine.run_invariant (retired_step limit s.os.length r) more ⟨h, hr, rfl⟩
      have hpublished := h'.counted.published (Option.isSome_iff_exists.mpr ⟨r, hr'⟩)
      refine ⟨(h'.counted.idle hpublished).2.2.2, hlength, fun j r' hj => ?_⟩
      exact Option.some.inj ((h'.attended.returned j r' hj).symm.trans hr')
  · refine (h.no_lost_wakeup hi hvain).imp_right ?_
    rintro ⟨j, c, hj, hnotifying⟩
    cases c with
    | notifying answer => exact ⟨j, answer, hj⟩
    | _ => cases hnotifying

-- A thread panics and is joined by a holder of its handle; the sealing call learns of it.
example :
    let s := run 8 {} ([.callSpawn "worker" true] ++ List.replicate 5 (.step 0 {}) ++
      [.callJoin 0 false, .step 1 {}, .exit 0 true, .callSeal, .step 2 {}, .step 2 {}, .step 1 {},
        .step 2 {}, .step 2 {}, .step 2 {}])
    s.calls = [.spawnReturned (.ok 0), .joinReturned (.error .runtimeError),
      .sealReturned (.error .runtimeError)] := by
  decide +kernel

end Retirement

end OpenNet.Common
