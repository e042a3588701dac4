import Mathlib.Data.List.Induction

/-!
# Logs made of rounds

A log of tries with a key each: a round starts, and it fails or becomes established and ends.
Rounds follow one another, and one last entry closes the log.
-/

universe u
variable {κ : Type u}

inductive RoundEntry (κ : Type u) where
  | started (k : κ)
  | failed (k : κ)
  | established (k : κ)
  | disconnected (k : κ)
  | closed
  deriving DecidableEq, Repr

namespace RoundEntry

/-- Complete rounds, one after the other. -/
inductive Rounds : List (RoundEntry κ) → Prop
  | nil : Rounds []
  | failed {l : List (RoundEntry κ)} (k : κ) (h : Rounds l) : Rounds (l ++ [.started k, .failed k])
  | connected {l : List (RoundEntry κ)} (k : κ) (h : Rounds l) :
      Rounds (l ++ [.started k, .established k, .disconnected k])

/-- How far a log has got. -/
inductive Stage (κ : Type u) where
  | idle
  | attempting (k : κ)
  | connected (k : κ)
  | closed
  deriving DecidableEq, Repr

namespace Stage

/-- The entries of the round that is not complete. -/
def unfinished : Stage κ → List (RoundEntry κ)
  | .idle => []
  | .attempting k => [.started k]
  | .connected k => [.started k, .established k]
  | .closed => [.closed]

variable [DecidableEq κ]

def next : Stage κ → RoundEntry κ → Option (Stage κ)
  | .idle, .started k => some (.attempting k)
  | .attempting k, .failed k' => if k' = k then some .idle else none
  | .attempting k, .established k' => if k' = k then some (.connected k) else none
  | .connected k, .disconnected k' => if k' = k then some .idle else none
  | .idle, .closed => some .closed
  | _, _ => none

def after (g : Stage κ) (l : List (RoundEntry κ)) : Option (Stage κ) := l.foldlM next g

theorem after_snoc (g : Stage κ) (l : List (RoundEntry κ)) (e : RoundEntry κ) :
    g.after (l ++ [e]) = (g.after l).bind fun g' => g'.next e := by
  simp [after, List.foldlM_append]

end Stage

open Stage

variable [DecidableEq κ]

/-- One more entry completes a round, goes on with one, or closes the log. -/
theorem rounds_next {l : List (RoundEntry κ)} {g g' : Stage κ} {e : RoundEntry κ}
    (hl : Rounds l) (hnext : g.next e = some g') :
    ∃ l', Rounds l' ∧ (l ++ g.unfinished) ++ [e] = l' ++ g'.unfinished := by
  cases g with
  | idle =>
    cases e with
    | started | closed =>
      cases hnext
      exact ⟨l, hl, by simp [unfinished]⟩
    | failed | established | disconnected => cases hnext
  | attempting k =>
    cases e with
    | failed k' =>
      simp only [next] at hnext
      split at hnext
      · rename_i hk
        cases hnext
        exact ⟨_, .failed k hl, by simp [unfinished, hk]⟩
      · cases hnext
    | established k' =>
      simp only [next] at hnext
      split at hnext
      · rename_i hk
        cases hnext
        exact ⟨l, hl, by simp [unfinished, hk]⟩
      · cases hnext
    | started k' => cases hnext
    | disconnected k' => cases hnext
    | closed => cases hnext
  | connected k =>
    cases e with
    | disconnected k' =>
      simp only [next] at hnext
      split at hnext
      · rename_i hk
        cases hnext
        exact ⟨_, .connected k hl, by simp [unfinished, hk]⟩
      · cases hnext
    | started k' => cases hnext
    | failed k' => cases hnext
    | established k' => cases hnext
    | closed => cases hnext
  | closed =>
    cases e <;> cases hnext

/-- What the automaton accepts is in the language, up to the unfinished round. -/
theorem rounds_of_after {l : List (RoundEntry κ)} {g : Stage κ} (h : Stage.idle.after l = some g) :
    ∃ l', Rounds l' ∧ l = l' ++ g.unfinished := by
  induction l using List.reverseRecOn generalizing g with
  | nil =>
    cases h
    exact ⟨[], .nil, rfl⟩
  | append_singleton l e ih =>
    rw [after_snoc, Option.bind_eq_some_iff] at h
    obtain ⟨g', hg', hnext⟩ := h
    obtain ⟨l', hrounds, heq⟩ := ih hg'
    rw [heq]
    exact rounds_next hrounds hnext

end RoundEntry
