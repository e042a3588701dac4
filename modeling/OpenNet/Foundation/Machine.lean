import Mathlib.Data.List.Basic

/-!
# Runs of a step function

A system whose critical sections are atomic is a state type `σ`, an action type `α` and a
total step function `σ → α → σ`; an action that is not enabled leaves the state unchanged.
Every interleaving of the parties is then a list of actions, and a fact about every
interleaving is a fact about `run step s acts` for every list `acts`.
-/

namespace Machine

universe u v
variable {σ : Type u} {α : Type v}

/-- The state reached from `s` by performing `acts` in order. -/
def run (step : σ → α → σ) (s : σ) (acts : List α) : σ := acts.foldl step s

section

variable (step : σ → α → σ) (s : σ)

@[simp] theorem run_nil : run step s [] = s := rfl

@[simp] theorem run_cons (a : α) (acts : List α) :
    run step s (a :: acts) = run step (step s a) acts := rfl

theorem run_append (acts more : List α) :
    run step s (acts ++ more) = run step (run step s acts) more :=
  List.foldl_append

end

variable {step : σ → α → σ} {I : σ → Prop} {P : σ → α → Prop}

theorem run_fixed {s : σ} :
    ∀ {acts : List α}, (∀ a ∈ acts, step s a = s) → run step s acts = s
  | [], _ => rfl
  | a :: acts, h => by
    rw [run_cons, h a List.mem_cons_self]
    exact run_fixed fun b hb => h b (List.mem_cons_of_mem a hb)

/-- An action that is not enabled keeps what holds of the state. -/
theorem guarded {p : Prop} [Decidable p] {s s' : σ} (hs : I s) (h : p → I s') :
    I (if p then s' else s) :=
  iteInduction h fun _ => hs

theorem run_invariant (hstep : ∀ s a, I s → I (step s a)) :
    ∀ (acts : List α) {s : σ}, I s → I (run step s acts)
  | [], _, hs => hs
  | a :: acts, s, hs => run_invariant hstep acts (hstep s a hs)

/-- Every step of the run meets the condition. -/
def Along (step : σ → α → σ) (P : σ → α → Prop) : σ → List α → Prop
  | _, [] => True
  | s, a :: acts => P s a ∧ Along step P (step s a) acts

theorem run_invariant_along (hstep : ∀ s a, P s a → I s → I (step s a)) :
    ∀ (acts : List α) {s : σ}, Along step P s acts → I s → I (run step s acts)
  | [], _, _, hs => hs
  | a :: acts, s, halong, hs =>
    run_invariant_along hstep acts halong.2 (hstep s a halong.1 hs)

theorem Along.and {Q : σ → α → Prop} :
    ∀ {acts : List α} {s : σ}, Along step P s acts → Along step Q s acts →
      Along step (fun s a => P s a ∧ Q s a) s acts
  | [], _, _, _ => trivial
  | _ :: _, _, hp, hq => ⟨⟨hp.1, hq.1⟩, hp.2.and hq.2⟩

theorem Along.of_forall :
    ∀ {acts : List α} {s : σ}, (∀ s, ∀ a ∈ acts, P s a) → Along step P s acts
  | [], _, _ => trivial
  | _ :: _, s, h =>
    ⟨h s _ List.mem_cons_self, Along.of_forall fun s a ha => h s a (List.mem_cons_of_mem _ ha)⟩

theorem along_append {more : List α} :
    ∀ {acts : List α} {s : σ},
      Along step P s (acts ++ more) ↔ Along step P s acts ∧ Along step P (run step s acts) more
  | [], _ => (iff_of_eq (true_and _)).symm
  | _ :: _, _ => (and_congr_right fun _ => along_append).trans and_assoc.symm

theorem run_rel {R : σ → σ → Prop} (hI : ∀ s a, I s → I (step s a)) (hrefl : ∀ s, R s s)
    (htrans : ∀ s t u, R s t → R t u → R s u) (hstep : ∀ s a, I s → R s (step s a)) :
    ∀ (acts : List α) {s : σ}, I s → R s (run step s acts)
  | [], s, _ => hrefl s
  | a :: acts, s, hs =>
    htrans s (step s a) _ (hstep s a hs)
      (run_rel hI hrefl htrans hstep acts (hI s a hs))

/-- Some run of actions that are all `own` ends where `Q` holds. -/
def Reaches (step : σ → α → σ) (own : α → Prop) (Q : σ → Prop) (s : σ) : Prop :=
  ∃ acts : List α, (∀ a ∈ acts, own a) ∧ Q (run step s acts)

section

variable {own : α → Prop} {Q R : σ → Prop} {s : σ}

theorem Reaches.refl (h : Q s) : Reaches step own Q s := ⟨[], nofun, h⟩

theorem Reaches.trans (h : Reaches step own R s) (hnext : ∀ s, R s → Reaches step own Q s) :
    Reaches step own Q s := by
  obtain ⟨acts, hown, hR⟩ := h
  obtain ⟨more, hmore, hQ⟩ := hnext _ hR
  refine ⟨acts ++ more, fun a ha => ?_, (run_append step s acts more).symm ▸ hQ⟩
  exact (List.mem_append.mp ha).elim (hown a) (hmore a)

theorem Reaches.next {a : α} (ha : own a) (h : Reaches step own Q (step s a)) :
    Reaches step own Q s :=
  Reaches.trans (R := fun s' => s' = step s a) ⟨[a], by simpa using ha, rfl⟩ fun _ hs => hs ▸ h

theorem Reaches.mono (h : Reaches step own R s) (hnext : ∀ s, R s → Q s) : Reaches step own Q s :=
  h.trans fun s hR => .refl (hnext s hR)

/-- The own actions keep `I`, so it holds at the end too. -/
theorem Reaches.and_invariant (h : Reaches step own Q s)
    (hstep : ∀ s a, own a → I s → I (step s a)) (hs : I s) :
    Reaches step own (fun s => Q s ∧ I s) s := by
  obtain ⟨acts, hown, hQ⟩ := h
  exact ⟨acts, hown, hQ,
    run_invariant_along hstep acts (Along.of_forall fun _ => hown) hs⟩

/-- **Progress**: while `Q` does not hold, an own action keeps the invariant and lowers the rank. -/
theorem reaches_of_rank (rank : σ → Nat) (hnext : ∀ s, I s → Q s ∨
      ∃ a, own a ∧ I (step s a) ∧ rank (step s a) < rank s) (hs : I s) : Reaches step own Q s := by
  induction hn : rank s using Nat.strongRecOn generalizing s with
  | ind n ih =>
    rcases hnext s hs with hQ | ⟨a, ha, hI, hlt⟩
    · exact .refl hQ
    · exact .next ha (ih _ (hn ▸ hlt) hI rfl)

end

end Machine
