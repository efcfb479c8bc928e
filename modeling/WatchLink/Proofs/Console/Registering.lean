import WatchLink.Proofs.Console.Requesting
import WatchLink.Proofs.Console.Underway

/-!
# Before a run has registered its action

A run waits until its link is open, opens its inbox if it watches, and registers its action. The
stream is open meanwhile: chunks may come in, and the inbox takes up those that come after it was
opened. `Unasked` is what holds until then, whatever the worker and the network do.
-/

namespace WatchLink

set_option autoImplicit false

def Worker.shuts : Worker → Bool
  | signalling _ | ended => true
  | _ => false

theorem Worker.shuts_of_follows {worker : Worker} (follows : ∃ ceased, worker.Follows ceased) :
    worker.shuts = !worker.isLive := by
  obtain ⟨ceased, follows⟩ := follows
  cases worker <;> first | rfl | exact follows.elim

/-- Nothing has been registered so far, and the inboxes are closed just where the worker is
through. -/
structure Link.Unclaimed (link : Link) : Prop where
  speaks : link.exchange.revision = link.revision
  placed : link.Placed
  awaiting : link.exchange.awaiting = none
  tickets : link.exchange.tickets = []
  shut : link.exchange.closed = link.worker.shuts
  unsent : link.revision ≠ .v1 → link.sent = []

theorem Link.unclaimed_of_works {cause : Option Arrival} {link changed : Link}
    (unclaimed : link.Unclaimed) (change : Works link cause changed) : changed.Unclaimed := by
  have speaks : changed.exchange.revision = changed.revision := by
    rw [exchange_revision_of_works change, revision_of_works change]
    exact unclaimed.speaks
  have unsent : changed.revision ≠ .v1 → changed.sent = [] := by
    rw [revision_of_works change]
    intro modern
    exact (sent_of_works modern change).trans (unclaimed.unsent modern)
  have placed := placed_of_works unclaimed.placed change
  have shut := unclaimed.shut
  refine ⟨speaks, placed, ?_, ?_, ?_, unsent⟩
  · cases change with
    | answer | reject => exact Exchange.awaiting_conclude _ _
    | _ => exact unclaimed.awaiting
  · cases change with
    | answer | reject =>
        simp only [mapExchange, Exchange.answer, Exchange.failPending,
          conclude_of_none unclaimed.awaiting]
        exact unclaimed.tickets
    | _ => exact unclaimed.tickets
  · cases change with
    | answer place | reject _ place =>
        simp only [mapExchange, Exchange.answer, Exchange.failPending,
          conclude_of_none unclaimed.awaiting]
        rw [shut, place]
        rfl
    | closeInboxes opening worker place rest =>
        subst rest
        cases opening <;> rfl
    | dial place | fail place | spoil place | lose place | forestall place | connect place
    | announce place | publish _ place | notify _ place | sever _ place | fire _ place =>
        simp only [place, Worker.shuts] at shut ⊢
        exact shut

namespace Console

/-- The stages of a run that has no action to register any more. -/
def Stage.Beyond : Stage → Prop
  | opening | subscribing _ | sending (.registering _) _ => False
  | _ => True

namespace Run

inductive Approach (run : Run) : Prop where
  | opening (place : run.stage = .opening) (empty : run.link.exchange.inboxes = [])
  | subscribing (action : Action) (place : run.stage = .subscribing action)
      (asks : run.command.action = some action)
      (watches : ∃ mode tag, run.command = .watch mode tag)
      (follows : ∃ ceased, run.link.worker.Follows ceased)
      (empty : run.link.exchange.inboxes = [])
  | registering (action : Action) (inbox : Option Nat)
      (place : run.stage = .sending (.registering action) inbox)
      (asks : run.command.action = some action)
      (follows : ∃ ceased, run.link.worker.Follows ceased)
      (opens : (inbox = some 0 ∧ (∃ mode tag, run.command = .watch mode tag) ∧
          ∃ chunks, run.link.Stores chunks 0) ∨
        inbox = none ∧ (∀ mode tag, run.command ≠ .watch mode tag) ∧
          run.link.exchange.inboxes = [])

/-- A run that has not registered its action so far, or has none to register any more. -/
inductive Unasked (run : Run) : Prop where
  | before (unclaimed : run.link.Unclaimed) (silent : run.results = []) (approach : Approach run)
  | beyond (place : run.stage.Beyond)

section Unasked

variable {run later : Run} {action : Action} {inbox : Option Nat}

theorem beyond_of_steps (beyond : run.stage.Beyond) (stepped : Steps run later) :
    later.stage.Beyond := by
  cases stepped with
  | begin place | subscribe _ place =>
      rw [place] at beyond
      exact beyond.elim
  | send task next inbox link place change =>
      cases change with
      | unsayable _ ticket | writeFails _ ticket | explain ticket => cases ticket <;> trivial
      | _ => trivial
  | answer _ inbox => cases inbox <;> trivial
  | skip => rw [skipped_eq]; trivial
  | report inbox chunk after place taken =>
      have same := stage_of_take_from taken
      simp only [say, print, same]
      exact beyond
  | closed =>
      unfold closed
      split <;> trivial
  | finish _ failure => cases failure <;> trivial
  | _ => trivial

theorem approach_of_works {cause : Option Arrival} {link : Link} {printed : List Line}
    (approach : Approach run) (change : Link.Works run.link cause link) :
    Approach { run with link, printed } := by
  have empty : run.link.exchange.inboxes = [] → link.exchange.inboxes = [] := by
    intro empty
    rw [← List.length_eq_zero_iff, Link.length_inboxes_of_works change, empty]
    rfl
  cases approach with
  | opening place none => exact .opening place (empty none)
  | subscribing action place asks watches follows none =>
      exact .subscribing action place asks watches (Link.follows_of_works follows change)
        (empty none)
  | registering action inbox place asks follows opens =>
      refine .registering action inbox place asks (Link.follows_of_works follows change) ?_
      rcases opens with ⟨here, watches, chunks, stores⟩ | ⟨here, others, none⟩
      · exact .inl ⟨here, watches, _, Link.stores_of_works stores follows change⟩
      · exact .inr ⟨here, others, empty none⟩

theorem follows_of_ready {link : Link} {opening : Opening} (placed : link.Placed)
    (fired : link.signal.opening = some opening) (ready : opening.result = .ok ()) :
    ∃ ceased, link.worker.Follows ceased := by
  have heralds := placed.heralds
  rw [fired] at heralds
  cases opening with
  | failed | closed => cases ready
  | ready =>
      cases worker : link.worker with
      | finishing stage due => cases due <;> simp_all [Worker.Heralds, Worker.Follows]
      | _ => simp_all [Worker.Heralds, Worker.Follows]

theorem unasked_of_opening (unclaimed : run.link.Unclaimed) (silent : run.results = [])
    (empty : run.link.exchange.inboxes = []) (follows : ∃ ceased, run.link.worker.Follows ceased) :
    Unasked run.opened := by
  unfold opened
  dsimp only
  split
  next mode tag action watches asks =>
    refine .before unclaimed (by simpa using silent) ?_
    exact .subscribing action rfl asks ⟨mode, tag, watches⟩ follows empty
  next command action asks others =>
    refine .before unclaimed (by simpa using silent) ?_
    exact .registering action none rfl asks follows (.inr ⟨rfl, others, empty⟩)
  next => exact .beyond trivial

theorem unasked_of_subscribing (unclaimed : run.link.Unclaimed) (silent : run.results = [])
    (asks : run.command.action = some action) (watches : ∃ mode tag, run.command = .watch mode tag)
    (follows : ∃ ceased, run.link.worker.Follows ceased)
    (empty : run.link.exchange.inboxes = []) :
    Unasked { run with
      link := { run.link with exchange := run.link.exchange.subscribe.2 }
      stage := .sending (Call.act action).begin (some run.link.exchange.subscribe.1) } := by
  refine .before ⟨unclaimed.speaks, placed_of_exchange unclaimed.placed _, unclaimed.awaiting,
    unclaimed.tickets, unclaimed.shut, unclaimed.unsent⟩ silent ?_
  refine .registering action _ rfl asks follows (.inl ⟨?_, watches, _, [], rfl, Nat.le_refl _, ?_⟩)
  · simp [Exchange.subscribe, empty]
  · simp [Exchange.subscribe, empty, unclaimed.shut, Worker.shuts_of_follows follows]

theorem unasked_of_steps (unasked : Unasked run) (stepped : Steps run later) : Unasked later := by
  cases unasked with
  | beyond place => exact .beyond (beyond_of_steps place stepped)
  | before unclaimed silent approach =>
      cases approach with
      | opening place empty =>
          cases stepped with
          | begin _ opening fired ready =>
              exact unasked_of_opening unclaimed silent empty
                (follows_of_ready unclaimed.placed fired ready)
          | giveUp => exact .beyond trivial
          | _ => simp_all
      | subscribing action place asks watches follows empty =>
          cases stepped with
          | subscribe found here =>
              obtain rfl := Stage.subscribing.inj (here.symm.trans place)
              exact unasked_of_subscribing unclaimed silent asks watches follows empty
          | _ => simp_all
      | registering action inbox place asks follows opens =>
          cases stepped with
          | send task next inbox link here change =>
              obtain ⟨rfl, rfl⟩ := Stage.sending.inj (here.symm.trans place)
              cases change <;> exact .beyond trivial
          | _ => simp_all

theorem unasked_of_move {move : Move} (unasked : Unasked run)
    (moved : run.move move = some later) : Unasked later := by
  by_cases own : move = .step
  · subst own
    exact unasked_of_steps unasked (steps_of_step moved)
  · obtain ⟨link, printed, change, rfl, same⟩ := background_of_move moved own
    cases unasked with
    | beyond place => exact .beyond place
    | before unclaimed silent approach =>
        exact .before (Link.unclaimed_of_works unclaimed change) (same.trans silent)
          (approach_of_works approach change)

theorem unasked_of_moves {moves : List Move} (unasked : Unasked run)
    (ran : run.moves moves = some later) : Unasked later := by
  induction moves generalizing run with
  | nil =>
      cases ran
      exact unasked
  | cons move others ih =>
      obtain ⟨next, moved, continued⟩ := moves_cons_eq_some.mp ran
      exact ih (unasked_of_move unasked moved) continued

theorem unasked_of_begin (invocation : Invocation) : Unasked (begin invocation) := by
  unfold begin
  dsimp only
  split
  · exact .beyond trivial
  · rw [Link.call_start_of_disconnected rfl]
    exact .before ⟨rfl, placed_of_dialing _ _, rfl, rfl, rfl, fun _ => rfl⟩ rfl
      (.opening rfl rfl)

end Unasked

end Run

end Console

end WatchLink
