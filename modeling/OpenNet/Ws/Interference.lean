import Mathlib.Data.List.Perm.Subperm
import OpenNet.Ws.QueueOwnership

/-!
# What others do to an operation

While the writer has a request, the parties around it go on: responses arrive, timers expire,
connections and sessions end, callers cancel, and queues retire other requests.  All of them
reach the request's control through a few of its sections.
-/

namespace OpenNet.Ws.QueueRun

variable {E : SessionConfig} {o : OpId}

/-- **A queue does nothing else to an operation that it does not admit.** -/
theorem step_others (s : QueueRun) (a : QueueAction) (h : a.concerns E o s = false) :
    Session.Interferes E o s.session (s.step E a).session := by
  obtain ⟨_, _, _, m⟩ := step_moves E s a
  exact m.bears.others o h

/-! ## Tickets -/

/-- The registrations queued for an operation. -/
def tickets (o : OpId) (q : WriteQueue) : List (Option RequestRegistration) :=
  (q.requests.filter (·.op = o)).map (·.registration)

def brought (o : OpId) : QueueAction → List (Option RequestRegistration)
  | .push _ _ _ r => if r.op = o then [r.registration] else []
  | _ => []

theorem tickets_cons_eq (r : QueuedRequest) (q : WriteQueue) :
    ((r :: q.requests).filter (·.op = o)).map (·.registration) =
      (if r.op = o then [r.registration] else []) ++ tickets o q := by
  rw [List.filter_cons]
  split <;> simp_all [tickets]

theorem tickets_cons {r : QueuedRequest} {q q' : WriteQueue}
    (h : q'.requests.Perm (r :: q.requests)) :
    (tickets o q').Perm ((if r.op = o then [r.registration] else []) ++ tickets o q) :=
  ((h.filter _).map _).trans (.of_eq (tickets_cons_eq r q))

theorem tickets_subperm {gone rs : List QueuedRequest} {q : WriteQueue}
    (h : ((gone ++ q.requests).map QueuedRequest.core).Perm (rs.map QueuedRequest.core)) :
    (tickets o q).Subperm ((rs.filter (·.op = o)).map (·.registration)) := by
  have hcore (rs : List QueuedRequest) : (rs.filter (·.op = o)).map (·.registration) =
      ((rs.map QueuedRequest.core).filter (·.op = o)).map (·.registration) := by
    rw [List.filter_map, List.map_map]
    rfl
  rw [tickets, hcore, hcore rs]
  refine (List.Sublist.subperm ?_).trans ((h.filter _).map _).subperm
  rw [List.map_append]
  exact ((List.sublist_append_right _ _).filter _).map _

/-- **An operation has no more tickets in a queue than were brought there.** -/
theorem step_tickets (s : QueueRun) (a : QueueAction) :
    (tickets o (s.step E a).queue).Subperm (brought o a ++ tickets o s.queue) := by
  obtain ⟨entering, leaving, retiring, m⟩ := step_moves E s a
  have hleft := tickets_subperm (o := o) m.same
  cases entering with
  | nil => exact hleft.trans (List.sublist_append_right _ _).subperm
  | cons r rest =>
    obtain ⟨hone, -, v, allocated, prepared, rfl⟩ := m.pushed r List.mem_cons_self
    rw [hone] at hleft
    exact hleft.trans (List.Perm.of_eq (tickets_cons_eq r s.queue)).subperm

end OpenNet.Ws.QueueRun
