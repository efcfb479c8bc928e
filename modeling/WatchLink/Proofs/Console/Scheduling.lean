import WatchLink.Console.Account
import WatchLink.Proofs.Console.Underway

/-!
# A program that takes its turns

Left alone, a program lets its worker go on until it waits, and then itself; a server that has been
reached takes its turns in between. That is one schedule among others: `leads_go_on` and
`leads_turns` say so, and what holds of every schedule holds of it.
-/

namespace WatchLink

set_option autoImplicit false

namespace Console

namespace Run

variable {run later last : Run}

theorem moves_append (run : Run) (front back : List Move) :
    run.moves (front ++ back) = (run.moves front).bind fun after => after.moves back := by
  induction front generalizing run with
  | nil => rfl
  | cons move others ih => simp only [List.cons_append, moves, ih, Option.bind_assoc]

def Move.Own (move : Move) : Prop := move.arrival? = none

def Leads (allowed : Move → Prop) (run last : Run) : Prop :=
  ∃ moves, (∀ move ∈ moves, allowed move) ∧ run.moves moves = some last

section Leading

variable {allowed : Move → Prop}

theorem leads_self (run : Run) : Leads allowed run run := ⟨[], nofun, rfl⟩

theorem Leads.trans (first : Leads allowed run later) (second : Leads allowed later last) :
    Leads allowed run last := by
  obtain ⟨front, allowedFront, ranFront⟩ := first
  obtain ⟨back, allowedBack, ranBack⟩ := second
  refine ⟨front ++ back, List.forall_mem_append.mpr ⟨allowedFront, allowedBack⟩, ?_⟩
  rw [moves_append, ranFront, Option.bind_some, ranBack]

theorem leads_of_move {move : Move} (may : allowed move) (moved : run.move move = some later) :
    Leads allowed run later :=
  ⟨[move], by simpa using may, moves_cons_eq_some.mpr ⟨later, moved, rfl⟩⟩

theorem Leads.weaken (leads : Leads allowed run last) : Leads (fun _ => True) run last := by
  obtain ⟨moves, _, ran⟩ := leads
  exact ⟨moves, fun _ _ => trivial, ran⟩

end Leading

theorem leads_work_at_most (count : Nat) (run : Run) :
    Leads Move.Own run { run with link := run.link.workAtMost count } := by
  induction count generalizing run with
  | zero => exact leads_self run
  | succ count ih =>
      rw [Link.workAtMost]
      cases worked : run.link.work with
      | none => exact leads_self run
      | some link =>
          have own : Move.work.Own := rfl
          have moved : run.move .work = some { run with link } := by simp [move, worked]
          exact (leads_of_move own moved).trans (ih { run with link })

theorem leads_go_on_at_most (count : Nat) (run : Run) :
    Leads Move.Own run (run.goOnAtMost count) := by
  induction count generalizing run with
  | zero => exact leads_self run
  | succ count ih =>
      rw [goOnAtMost]
      cases stepped : run.step with
      | none => exact leads_self run
      | some next =>
          have own : Move.step.Own := rfl
          have moved : run.move .step = some next := stepped
          exact (leads_of_move own moved).trans (ih next)

theorem leads_go_on (run : Run) : Leads Move.Own run run.goOn :=
  ((leads_work_at_most _ run).trans (leads_go_on_at_most _ _)).trans (leads_work_at_most _ _)

theorem leads_deal (run : Run) (arrival : Arrival) :
    Leads (fun _ => True) run (run.deal arrival) := by
  rw [deal]
  cases hears : run.hear arrival with
  | none => exact (leads_go_on run).weaken
  | some heard =>
      have moved : run.move (.arrive arrival) = some heard := hears
      exact (leads_of_move trivial moved).trans (leads_go_on heard).weaken

theorem leads_serve (run : Run) (turn : ServerTurn) :
    Leads (fun _ => True) run (run.serve turn) := by
  cases turn with
  | silent => exact leads_self run
  | hangUp => exact leads_deal run .ended
  | write bytes =>
      rw [serve]
      generalize bytes.pieces run.link.settings.readBufferSize = pieces
      induction pieces generalizing run with
      | nil => exact leads_self run
      | cons piece others ih => exact (leads_deal run _).trans (ih _)

/-- Whatever the server does, it is one schedule. -/
theorem leads_turns (run : Run) (turns : List ServerTurn) :
    Leads (fun _ => True) run (turns.foldl (fun current turn => current.serve turn) run) := by
  induction turns generalizing run with
  | nil => exact leads_self run
  | cons turn others ih => exact (leads_serve run turn).trans (ih _)

/-! ## Where it goes on no further -/

theorem step_go_on_at_most {count : Nat} (enough : run.remaining ≤ count) :
    (run.goOnAtMost count).step = none := by
  induction count generalizing run with
  | zero =>
      cases stepped : run.step with
      | none => exact stepped
      | some next =>
          have nearer := remaining_of_steps (steps_of_step stepped)
          omega
  | succ count ih =>
      rw [goOnAtMost]
      cases stepped : run.step with
      | none => exact stepped
      | some next =>
          have nearer := remaining_of_steps (steps_of_step stepped)
          exact ih (by omega)

theorem go_on_at_most_induction (keeps : Run → Prop)
    (kept : ∀ {before after : Run}, keeps before → Steps before after → keeps after)
    (count : Nat) (holds : keeps run) : keeps (run.goOnAtMost count) := by
  induction count generalizing run with
  | zero => exact holds
  | succ count ih =>
      rw [goOnAtMost]
      cases stepped : run.step with
      | none => exact holds
      | some next => exact ih (kept holds (steps_of_step stepped))

theorem rest_of_asleep {link : Link} (asleep : link.work = none) : link.rest = link := by
  rw [Link.rest]
  cases link.worker.remaining with
  | zero => rfl
  | succ count => simp only [Link.workAtMost, asleep]

theorem asleep_of_same_worker {link changed : Link} (same : changed.worker = link.worker)
    (asleep : link.work = none) : changed.work = none := by
  rcases Link.waits_of_work_eq_none asleep with place | place | place | place <;>
    simp [Link.work, same, place]

/-- A program that leaves its worker where it is goes on until neither has anything to do. -/
theorem at_rest_of_go_on (keeps : Run → Prop)
    (kept : ∀ {before after : Run}, keeps before → Steps before after →
      keeps after ∧ after.link.worker = before.link.worker)
    (holds : keeps { run with link := run.link.rest }) :
    run.goOn.step = none ∧ run.goOn.link.work = none := by
  let rested : Run := { run with link := run.link.rest }
  let gone := rested.goOnAtMost rested.remaining
  have same : keeps gone ∧ gone.link.worker = rested.link.worker := by
    refine go_on_at_most_induction (fun current =>
      keeps current ∧ current.link.worker = rested.link.worker) (fun current stepped => ?_)
      rested.remaining ⟨holds, rfl⟩
    obtain ⟨still, worker⟩ := kept current.1 stepped
    exact ⟨still, worker.trans current.2⟩
  have asleep : gone.link.work = none := asleep_of_same_worker same.2 (Link.work_rest run.link)
  have arrived : run.goOn = gone := by
    show { gone with link := gone.link.rest } = gone
    rw [rest_of_asleep asleep]
  rw [arrived]
  exact ⟨step_go_on_at_most (Nat.le_refl _), asleep⟩

end Run

end Console

end WatchLink
