import OpenNet.Ws.ConnectionJournal

/-!
# Closing is irreversible in the snapshots

Once a snapshot has shown `Closing`, every later one shows `Closing` or `Closed`, unless the end
of a connection is reported with a next cycle to a session that is closing: `disconnect` is the
one call that does not look at the flag.
-/

namespace OpenNet.Ws.ConnectionSession

variable (c : ConnectionSession) (env : Answers) {s : SessionState} {t : Transaction}

theorem failPublication_shows (h : Shows s t) (result : Except NetError Unit) :
    Shows s (failPublication result t) := by
  unfold failPublication
  simp only
  split
  · exact {
      closing := fun _ => rfl
      ending := h.ending
      marked := fun _ _ _ => rfl
      snapshot := h.snapshot }
  · exact h.finish rfl rfl rfl rfl

/-- What the snapshots have shown, the session remembers. -/
structure Remembers (s : SessionRun) : Prop where
  held : s.state.snapshot.state.ending → s.state.closing
  shown : ∀ x ∈ s.snapshots, x.state.ending → s.state.snapshot.state.ending
  ordered : s.snapshots.Pairwise fun x y => x.state.ending → y.state.ending

theorem remembers_new : Remembers c.new where
  held h := by cases h
  shown x hx hend := by
    obtain rfl := List.mem_singleton.mp hx
    cases hend
  ordered := List.pairwise_singleton _ _

/-- The state that the next snapshot shows is an end if the last one was. -/
theorem Shows.next (h : Shows s t) (hheld : s.snapshot.state.ending → s.closing) :
    (s.snapshot.state.ending → (t.publication.nextState.getD t.state.snapshot.state).ending) ∧
    ((t.publication.nextState.getD t.state.snapshot.state).ending → t.state.closing) := by
  cases hnext : t.publication.nextState with
  | none =>
    rw [Option.getD_none, h.snapshot]
    exact ⟨fun hend => hend, fun hend => h.closing (hheld hend)⟩
  | some state =>
    rw [Option.getD_some]
    exact ⟨fun hend => h.ending (hheld hend) state hnext, h.marked state hnext⟩

variable {r : SessionRun}

theorem prepareSnapshot_remembers (hr : Remembers r) (h : Shows r.state t) {cancelRequested : Bool}
    {log : List ConnectionEvent} :
    Remembers {
      state := (prepareSnapshot env t).1, cancelRequested, log
      snapshots := r.snapshots ++ (prepareSnapshot env t).2.toList } := by
  have hkept : t.state.snapshot.state.ending → t.state.closing := by
    rw [h.snapshot]
    exact fun hend => h.closing (hr.held hend)
  have hshown : ∀ x ∈ r.snapshots, x.state.ending →
      t.state.snapshot.state.ending := by
    rw [h.snapshot]
    exact hr.shown
  obtain ⟨hlater, hmarked⟩ := h.next hr.held
  unfold prepareSnapshot
  split
  · exact ⟨hkept, by simpa using hshown, by simpa using hr.ordered⟩
  split
  · exact ⟨hkept, by simpa using hshown, by simpa using hr.ordered⟩
  simp only
  split
  · exact ⟨hmarked, by simpa using fun x hx hend => hlater (hr.shown x hx hend),
      by simpa using hr.ordered⟩
  split
  · refine ⟨hmarked, fun x hx hend => ?_, ?_⟩
    · rcases List.mem_append.mp hx with hold | hnew
      · exact hlater (hr.shown x hold hend)
      · rw [List.mem_singleton.mp hnew] at hend
        exact hend
    · refine List.pairwise_append.mpr ⟨hr.ordered, List.pairwise_singleton _ _, ?_⟩
      intro x hx y hy hend
      rw [List.mem_singleton.mp hy]
      exact hlater (hr.shown x hx hend)
  · exact ⟨hmarked, by simpa using fun x hx hend => hlater (hr.shown x hx hend),
      by simpa using hr.ordered⟩

theorem mutate_remembers (hr : Remembers r) (cancelRequested : Bool)
    {operation : Transaction → Except NetError Unit × Transaction}
    (h : Shows r.state (operation { state := r.state }).2) :
    Remembers (mutate env operation { r with cancelRequested }) := by
  unfold mutate
  dsimp only
  generalize operation { state := r.state } = result at h ⊢
  obtain ⟨result, t⟩ := result
  dsimp only
  split
  · exact prepareSnapshot_remembers env hr (failPublication_shows h result)
  · exact prepareSnapshot_remembers env hr h

/-! ## Runs -/

/-- Every call is permitted in the state in which it is made. -/
def Heeded (c : ConnectionSession) : SessionRun → List (Answers × SessionAction) → Prop
  | _, [] => True
  | s, call :: calls => Permitted s.state call.2 ∧ c.Heeded (c.step s call) calls

theorem step_remembers (hr : Remembers r) (hinv : Inv r) {call : Answers × SessionAction}
    (hpermitted : Permitted r.state call.2) : Remembers (c.step r call) := by
  rcases hinv with h | h
  · have hstep := c.step_stepped call h
    generalize c.step r call = r' at hstep ⊢
    cases hstep with
    | mutated env cancelRequested h => exact mutate_remembers env hr _ (h.shows hpermitted)
    | updated state cancelRequested h hsnapshot hclosing =>
      exact {
        held := by rw [hsnapshot, hclosing]; exact hr.held
        shown := by rw [hsnapshot]; exact hr.shown
        ordered := hr.ordered }
  · obtain ⟨hstate, -, hsnapshots⟩ := c.step_frozen h.terminated call
    constructor
    case held => rw [hstate]; exact hr.held
    case shown => rw [hstate, hsnapshots]; exact hr.shown
    case ordered => rw [hsnapshots]; exact hr.ordered

theorem run_remembers (hr : Remembers r) (hinv : Inv r) {calls : List (Answers × SessionAction)}
    (h : c.Heeded r calls) : Remembers (Machine.run c.step r calls) := by
  induction calls generalizing r with
  | nil => exact hr
  | cons call calls ih => exact ih (c.step_remembers hr hinv h.1) (c.step_inv call hinv) h.2

/-- **Closing is irreversible** when no connection is reported to end with a next cycle meanwhile:
after a snapshot with `Closing`, all have `Closing` or `Closed`. -/
theorem closing_irreversible (calls : List (Answers × SessionAction))
    (hheeded : c.Heeded c.new calls) :
    (c.run calls).snapshots.Pairwise fun x y => x.state.ending = true → y.state.ending = true :=
  (c.run_remembers c.remembers_new c.inv_new hheeded).ordered

/-- A connection is established, and the session begins to close. -/
def closingCalls : List (Answers × SessionAction) :=
  [.beginCycle 1 false, attemptIn 1 1, .setAttemptCredentialVersion 1 1 none,
    .prepareEstablished 1 1, .commitEstablished 1 1, .beginClosing].map fun action => (calm, action)

theorem closing_irreversible_closed : journaled.Heeded journaled.new
      (closingCalls ++ [(calm, .connectionTerminatedWithDetails .ioFailure none {} none)]) ∧
    (journaled.run (closingCalls ++
      [(calm, .connectionTerminatedWithDetails .ioFailure none {} none)])).snapshots.Pairwise
      fun x y => x.state.ending = true → y.state.ending = true :=
  ⟨by simp [Heeded, Permitted, closingCalls, attemptIn],
    closing_irreversible journaled _ (by simp [Heeded, Permitted, closingCalls, attemptIn])⟩

/-- The end of the connection with a next cycle takes the session from `Closing` to
`Reconnecting`. -/
theorem reconnecting_after_closing :
    ((journaled.run closingCalls).snapshots.getLast?.map (·.state.ending)) = some true ∧
    ((journaled.run (closingCalls ++ [(calm,
      .connectionTerminatedWithDetails .ioFailure none {} (some 2))])).snapshots.getLast?.map
        fun x => match x.state with
          | .reconnecting cycle _ => some cycle
          | _ => none) = some (some 2) := by
  decide +kernel

end OpenNet.Ws.ConnectionSession
