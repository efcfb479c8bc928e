import WatchLink.Proofs.Exchange.Inboxes
import WatchLink.Proofs.Traffic.Resting

/-!
# A link in use

Callers make calls on a link, and then do something with the tickets and inboxes that the calls gave
them. `Dealings` are the traffic of a link together with the threads that wait on its tickets. Any
number of callers may use a link; one that is alone and between two of its calls finds it `Quiet`.

A step of a holder touches the exchange alone, and there neither the slot nor what is still to come
of a ticket: `Exchange.Handled`. So it keeps whatever the moves of the traffic keep.
-/

namespace WatchLink

set_option autoImplicit false

structure Dealings where
  traffic : Traffic
  waiters : List (Option Nat) := []

namespace Dealings

inductive Step where
  | move (move : Move)
  | hold (step : Holding)
  deriving DecidableEq, Repr

def link (state : Dealings) : Link := state.traffic.link

def desk (state : Dealings) : Desk := { exchange := state.link.exchange, waiters := state.waiters }

def setDesk (state : Dealings) (desk : Desk) : Dealings where
  traffic := { state.traffic with link := { state.link with exchange := desk.exchange } }
  waiters := desk.waiters

def step (state : Dealings) : Step → Option Dealings
  | .move move => (state.traffic.move move).map fun traffic => { state with traffic }
  | .hold step => some (state.setDesk (state.desk.hold step).2)

def run (state : Dealings) : List Step → Option Dealings
  | [] => some state
  | step :: later => (state.step step).bind fun after => after.run later

/-- A state of a link that somebody created, after any steps. -/
def Reachable (state : Dealings) : Prop :=
  ∃ (settings : Settings) (link : Link) (steps : List Step),
    Link.create settings = .ok link ∧ ({ traffic := { link } } : Dealings).run steps = some state

inductive Steps (state : Dealings) : Step → Dealings → Prop where
  | move (move : Move) (traffic : Traffic) (moved : Traffic.Moves state.traffic move traffic) :
      Steps state (.move move) { state with traffic }
  | hold (step : Holding) (answer : Answer) (desk : Desk)
      (handles : Desk.Handles state.desk step answer desk) :
      Steps state (.hold step) (state.setDesk desk)

theorem steps_of_step {state later : Dealings} {step : Step}
    (stepped : state.step step = some later) : Steps state step later := by
  cases step with
  | move move =>
      simp only [Dealings.step, Option.map_eq_some_iff] at stepped
      obtain ⟨traffic, moved, same⟩ := stepped
      cases same
      exact .move move traffic (Traffic.moves_of_move moved)
  | hold step =>
      cases stepped
      exact .hold step _ _ (Desk.handles_of_hold _ step)

/-- Whatever every step keeps, every run keeps. -/
theorem steps_induction (keeps : Dealings → Prop)
    (stays : ∀ {state later : Dealings} {step : Step}, keeps state → Steps state step later →
      keeps later)
    {state last : Dealings} {steps : List Step} (ran : state.run steps = some last)
    (held : keeps state) : keeps last := by
  induction steps generalizing state with
  | nil =>
      cases ran
      exact held
  | cons step rest ih =>
      simp only [run, Option.bind_eq_some_iff] at ran
      obtain ⟨after, stepped, finished⟩ := ran
      exact ih finished (stays held (steps_of_step stepped))

end Dealings

/-! ## What a holder leaves alone -/

/-- What a step of a holder keeps of an exchange. -/
structure Exchange.Handled (before after : Exchange) : Prop where
  revision : after.revision = before.revision
  awaiting : after.awaiting = before.awaiting
  length : after.tickets.length = before.tickets.length
  closed : after.closed = before.closed
  coherent : before.Coherent → after.Coherent
  progress : ∀ ticket, after.progress ticket = before.progress ticket ∨
    (before.progress ticket ≠ .waiting ∧ after.progress ticket = .spent)
  detached : before.Detached → after.Detached

theorem Exchange.Handled.ne_waiting {before after : Exchange} (handled : Handled before after)
    {ticket : Nat} (come : before.progress ticket ≠ .waiting) :
    after.progress ticket ≠ .waiting := by
  rcases handled.progress ticket with same | ⟨_, spent⟩
  · rw [same]
    exact come
  · simp [spent]

theorem Desk.detached_of_handles {desk later : Desk} {step : Holding} {answer : Answer}
    (handles : Handles desk step answer later) (detached : desk.exchange.Detached) :
    later.exchange.Detached := by
  intro closed inbox member
  rw [closed_of_handles handles] at closed
  obtain ⟨number, bound, rfl⟩ := List.getElem_of_mem member
  rw [length_inboxes_of_handles handles] at bound
  have before := detached closed _ (List.getElem_mem bound)
  obtain ⟨after, found, drawn⟩ := drawn_of_handles handles (List.getElem?_eq_getElem bound)
  obtain ⟨_, same⟩ := List.getElem?_eq_some_iff.mp found
  rw [same]
  rcases drawn with ⟨use, _, drawn⟩ | ⟨_, rfl⟩
  · rw [drawn.attached, before, Bool.false_and]
  · exact before

theorem Desk.handled_of_handles {desk later : Desk} {step : Holding} {answer : Answer}
    (handles : Handles desk step answer later) : Exchange.Handled desk.exchange later.exchange where
  revision := revision_of_handles handles
  awaiting := awaiting_of_handles handles
  length := length_of_handles handles
  closed := closed_of_handles handles
  coherent coherent := coherent_of_handles coherent handles
  progress ticket := by
    by_cases looks : desk.looksAt step = some ticket
    · rcases progress_of_look handles looks with ⟨_, _, same⟩ | ⟨outcome, due, _, spent⟩
      · exact .inl (by rw [same])
      · refine .inr ⟨?_, spent⟩
        intro waiting
        rw [waiting] at due
        cases due
    · exact .inl (progress_of_other_look handles looks)
  detached := detached_of_handles handles

namespace Traffic

/-! ## What a holder keeps of the traffic -/

section Handling

variable {traffic : Traffic} {exchange : Exchange}

/-- The same traffic, after a holder has made this of its exchange. -/
def withExchange (traffic : Traffic) (exchange : Exchange) : Traffic :=
  { traffic with link := { traffic.link with exchange } }

theorem settled_of_handled (handled : Exchange.Handled traffic.link.exchange exchange)
    (settled : traffic.Settled) : (traffic.withExchange exchange).Settled := by
  refine ⟨settled.1, ?_⟩
  intro ticket sent
  obtain ⟨present, come⟩ := settled.2 ticket sent
  exact ⟨handled.length ▸ present, handled.ne_waiting come⟩

theorem sound_of_handled (handled : Exchange.Handled traffic.link.exchange exchange)
    (sound : traffic.Sound) : (traffic.withExchange exchange).Sound where
  spoken := handled.revision.trans sound.spoken
  coherent := handled.coherent sound.coherent
  detached := handled.detached sound.detached
  torn torn := settled_of_handled handled (sound.torn (handled.closed ▸ torn))
  unopened := sound.unopened
  reaches := sound.reaches
  grounded number call task stands := by
    have grounded := sound.grounded number call task stands
    cases task with
    | failing | retiring | closingInboxes => exact settled_of_handled handled grounded
    | _ => exact grounded
  claimed number action task ticket stands claims :=
    handled.length ▸ sound.claimed number action task ticket stands claims
  working := by
    have working := sound.working
    have same : (traffic.withExchange exchange).link.worker = traffic.link.worker := rfl
    unfold WorkerGrounded at working ⊢
    rw [same]
    split at working
    · exact working
    · exact settled_of_handled handled working
    · exact handled.closed.trans working
    · exact handled.closed.trans working
    · exact trivial
  owned ticket outstanding := sound.owned ticket (handled.awaiting ▸ outstanding)

theorem on_course_of_handled (handled : Exchange.Handled traffic.link.exchange exchange)
    (course : traffic.OnCourse) : (traffic.withExchange exchange).OnCourse where
  sound := sound_of_handled handled course.sound
  placed := { course.placed with }
  idle := course.idle

theorem regular_of_handled (handled : Exchange.Handled traffic.link.exchange exchange)
    (regular : traffic.Regular) : (traffic.withExchange exchange).Regular where
  early := regular.early
  ready := regular.ready
  attended closed := (regular.attended closed).imp_left handled.closed.trans

end Handling

end Traffic

namespace Dealings

/-! ## The invariant -/

structure Orderly (state : Dealings) : Prop where
  course : state.traffic.OnCourse
  regular : state.traffic.Regular

theorem orderly_of_steps {state later : Dealings} {step : Step} (orderly : state.Orderly)
    (stepped : Steps state step later) : later.Orderly := by
  cases stepped with
  | move move traffic moved =>
      exact ⟨Traffic.on_course_of_moves orderly.course moved,
        Traffic.regular_of_moves orderly.course.sound orderly.regular moved⟩
  | hold step answer desk handles =>
      have handled := Desk.handled_of_handles handles
      exact ⟨Traffic.on_course_of_handled handled orderly.course,
        Traffic.regular_of_handled handled orderly.regular⟩

theorem orderly_of_create {settings : Settings} {link : Link}
    (created : Link.create settings = .ok link) : ({ traffic := { link } } : Dealings).Orderly :=
  ⟨Traffic.on_course_of_create created, Traffic.regular_of_create created⟩

theorem orderly_of_reachable {state : Dealings} (reachable : state.Reachable) : state.Orderly := by
  obtain ⟨settings, link, steps, created, ran⟩ := reachable
  exact steps_induction Orderly orderly_of_steps ran (orderly_of_create created)

/-- Between two calls of somebody who is alone with the link, its parts agree. -/
theorem consistent_of_reachable {state : Dealings} (reachable : state.Reachable)
    (quiet : state.traffic.Quiet) : state.link.Consistent :=
  have orderly := orderly_of_reachable reachable
  Traffic.consistent_of_quiet orderly.course orderly.regular quiet

end Dealings

end WatchLink
