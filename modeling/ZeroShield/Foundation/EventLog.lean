import ZeroShield.Foundation.Interleaving

/-!
# The log of a pool

The events which a thread has seen are its own ones in the log of the pool, in the same order.
-/

namespace ZeroShield.Foundation

namespace Pool

variable {I : Interface} {Tag Out Input World : Type}

/-- The events of one thread in a log. -/
def project (index : ℕ) (log : List (ℕ × Event I)) : List (Event I) :=
  (log.filter fun entry => entry.1 = index).map Prod.snd

@[simp] theorem project_nil (index : ℕ) : project index ([] : List (ℕ × Event I)) = [] := rfl

@[simp] theorem project_cons_self (index : ℕ) (event : Event I) (log : List (ℕ × Event I)) :
    project index ((index, event) :: log) = event :: project index log := by
  simp [project]

theorem project_cons_of_ne {index other : ℕ} (different : other ≠ index) (event : Event I)
    (log : List (ℕ × Event I)) : project index ((other, event) :: log) = project index log := by
  simp [project, different]

/-- The newest event of a thread is in the log, and its other events were there before. -/
theorem exists_of_project_eq_cons {index : ℕ} {event : Event I} {past : List (Event I)}
    {log : List (ℕ × Event I)} (events : project index log = event :: past) :
    ∃ later seen, log = later ++ (index, event) :: seen ∧ project index seen = past := by
  induction log with
  | nil => cases events
  | cons entry log ih =>
      obtain ⟨other, performed⟩ := entry
      by_cases same : other = index
      · subst same
        rw [project_cons_self] at events
        obtain ⟨rfl, earlier⟩ := List.cons_eq_cons.mp events
        exact ⟨[], log, rfl, earlier⟩
      · rw [project_cons_of_ne same] at events
        obtain ⟨later, seen, rfl, earlier⟩ := ih events
        exact ⟨(other, performed) :: later, seen, rfl, earlier⟩

/-- Every event which a thread has seen is in the log. -/
theorem exists_of_mem_project {index : ℕ} {event : Event I} {log : List (ℕ × Event I)}
    (member : event ∈ project index log) :
    ∃ later seen, log = later ++ (index, event) :: seen := by
  obtain ⟨⟨other, performed⟩, kept, rfl⟩ := List.mem_map.mp member
  obtain ⟨logged, same⟩ := List.mem_filter.mp kept
  obtain rfl : other = index := of_decide_eq_true same
  obtain ⟨later, seen, split⟩ := List.append_of_mem logged
  exact ⟨later, seen, split⟩

variable {code : Tag → Program I Out} {exec : Semantics I Input World}
  {guard : Pool I World Tag Out → Move Tag Input → Prop}

/-- Every event is logged under the position of a thread. -/
theorem lt_of_mem_log {world : World} {pool : Pool I World Tag Out}
    (reach : Reaches code exec guard (initial world) pool) :
    ∀ entry ∈ pool.log, entry.1 < pool.threads.length := by
  refine invariant_of_reaches nofun ?_ ?_ reach
  · intro pool tag _ known _ entry member
    exact Nat.lt_of_lt_of_le (known entry member) (by simp [spawned])
  · intro pool index thread op rest input _ known _ selected _ entry member
    have same : (pool.performed index thread op rest (exec input op pool.world)).threads.length =
        pool.threads.length := List.length_set
    rw [same]
    rcases List.mem_cons.mp member with rfl | old
    · exact (List.getElem?_eq_some_iff.mp selected).1
    · exact known entry old

/-- What the threads have seen is what the log says. -/
theorem past_of_reaches {world : World} {pool : Pool I World Tag Out}
    (reach : Reaches code exec guard (initial world) pool) :
    ∀ (index : ℕ) (thread : Thread I Tag Out), pool.threads[index]? = some thread →
      thread.past = project index pool.log := by
  refine invariant_of_reaches nofun ?_ ?_ reach
  · intro pool tag reach agrees _ index thread found
    rcases Nat.lt_or_ge index pool.threads.length with inside | outside
    · rw [spawned, List.getElem?_append_left inside] at found
      exact agrees index thread found
    · rw [spawned, List.getElem?_append_right outside] at found
      obtain ⟨-, rfl⟩ : index - pool.threads.length = 0 ∧ ⟨tag, [], code tag⟩ = thread := by
        simpa [List.getElem?_singleton] using found
      refine (List.map_eq_nil_iff.mpr (List.filter_eq_nil_iff.mpr fun entry member same => ?_)).symm
      have below := lt_of_mem_log reach entry member
      exact absurd (of_decide_eq_true same ▸ below) (Nat.not_lt.mpr outside)
  · intro pool index thread op rest input _ agrees _ selected _ position other found
    by_cases same : position = index
    · subst same
      rw [getElem?_performed_self selected] at found
      cases found
      have own := agrees position thread selected
      exact Eq.trans (congrArg (List.cons _) own) (project_cons_self ..).symm
    · rw [getElem?_performed_of_ne same] at found
      exact (agrees position other found).trans (project_cons_of_ne (Ne.symm same) ..).symm

end Pool

end ZeroShield.Foundation
