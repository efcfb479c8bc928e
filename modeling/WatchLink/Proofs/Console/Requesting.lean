import WatchLink.Proofs.Console.Following
import WatchLink.Proofs.Dealings.Refusals

/-!
# Asking to be told

Before its request has gone out, a run that watches has sent nothing: it waits until its link is
open, opens its inbox, claims a ticket and writes. A request that cannot be written is given up, and
the run leaves without a word. So a server that has got anything from such a run has got the
request. If it has been silent until then, the inbox is empty and the ticket unanswered.
-/

namespace WatchLink

set_option autoImplicit false

/-- The places of a worker that opens its link, or has opened it and heard nothing yet. -/
def Worker.Opens (phase : Phase) : Worker → Prop
  | dialing | publishing => phase = .connecting
  | announcing | reading => True
  | _ => False

def Task.Mute : Task → Prop
  | registering _ | writing _ _ => False
  | _ => True

theorem Task.mute_refuse (cause : ClientError) (ticket : Option Nat) :
    (refuse cause ticket).Mute := by
  cases ticket <;> trivial

section Mute

variable {host : Host} {link changed : Link} {task next : Task}

theorem Task.mute_of_changes (mute : task.Mute) (change : Changes host link task next changed) :
    next.Mute := by
  cases change with
  | register | registerTwice | nothingToWriteTo | write | unsayable | writeFails => exact mute.elim
  | explain ticket => exact mute_refuse _ ticket
  | _ => trivial

/-- Under the later revisions, hanging up is not a message. -/
theorem Task.sent_of_mute (mute : task.Mute) (modern : link.revision ≠ .v1)
    (change : Changes host link task next changed) : changed.sent = link.sent := by
  cases change with
  | write | writeFails => exact mute.elim
  | hangUp =>
      have silent : link.revision.supportsClose = false := by
        cases revision : link.revision with
        | v1 => exact (modern revision).elim
        | v2 | v3 => rfl
      simp only [takeLeave, silent, Bool.false_eq_true, if_false, List.append_nil]
  | _ => rfl

end Mute

theorem Link.sent_of_works {cause : Option Arrival} {link changed : Link}
    (modern : link.revision ≠ .v1) (change : Works link cause changed) :
    changed.sent = link.sent := by
  have silent : link.handshake = [] := by
    unfold handshake
    cases revision : link.revision with
    | v1 => exact (modern revision).elim
    | v2 | v3 => rfl
  cases change <;> simp only [silent, List.append_nil] <;> rfl

section Quiet

variable {cause : Option Arrival} {link changed : Link}

/-- A worker that reads does nothing before the server does. -/
theorem Link.not_reading_of_works (quiet : cause = none ∨ cause = some .accepted)
    (change : Works link cause changed) : link.worker ≠ .reading := by
  cases change with
  | lose place arrival ends =>
      rcases quiet with none | accepted
      · cases none
      · cases accepted
        simp at ends
  | answer => simp at quiet
  | _ => simp [*]

theorem Link.opens_of_works (quiet : cause = none ∨ cause = some .accepted)
    (opens : link.worker.Opens link.phase) (change : Works link cause changed) :
    changed.worker.Opens changed.phase ∧ changed.exchange = link.exchange := by
  have busy := not_reading_of_works quiet change
  cases change with
  | dial place =>
      rw [place] at opens
      exact ⟨opens, rfl⟩
  | forestall place closed =>
      rw [place, closed] at opens
      cases opens
  | connect | announce => exact ⟨trivial, rfl⟩
  | fail | spoil => simp at quiet
  | lose place | answer place => exact (busy place).elim
  | publish _ place | notify _ place | sever _ place | reject _ place | closeInboxes _ _ place
  | fire _ place =>
      rw [place] at opens
      exact opens.elim

end Quiet

namespace Console

def Stage.Astray : Stage → Prop
  | sending (.explaining _) _ | sending (.releasing _) _
  | sending (.finished (.refused _)) _ => True
  | leaving task _ => task.Mute
  | finished _ => True
  | _ => False

namespace Run

inductive Preparing (action : Action) (run : Run) : Prop where
  | opening (place : run.stage = .opening) (opens : run.link.worker.Opens run.link.phase)
      (fresh : run.link.exchange = { revision := run.link.revision })
  | subscribing (place : run.stage = .subscribing action) (reading : run.link.worker = .reading)
      (fresh : run.link.exchange = { revision := run.link.revision })
  | registering (place : run.stage = .sending (.registering action) (some 0))
      (reading : run.link.worker = .reading)
      (subscribed : run.link.exchange = { revision := run.link.revision, inboxes := [{}] })
  | writing (place : run.stage = .sending (.writing action (some 0)) (some 0))
      (reading : run.link.worker = .reading)
      (registered : run.link.exchange = .attended run.link.revision [] false {})

inductive Asking (action : Action) (run : Run) : Prop where
  | preparing (placed : run.link.Placed) (prepares : Preparing action run)
      (unsent : run.link.sent = [])
  | requested (lead : List Line) (attends : Attends lead [] false run)
  | astray (strays : run.stage.Astray) (unsent : run.link.sent = [])

section Asking

variable {run later : Run} {mode : WatchMode} {tag : Option UInt64} {action : Action}

theorem asking_of_works {cause : Option Arrival} {link : Link}
    (quiet : cause = none ∨ cause = some .accepted) (modern : run.link.revision ≠ .v1)
    (asking : Asking action run) (change : Link.Works run.link cause link) :
    Asking action { run with link } := by
  have sent := Link.sent_of_works modern change
  have busy := Link.not_reading_of_works quiet change
  cases asking with
  | preparing placed prepares unsent =>
      refine .preparing (Link.placed_of_works placed change) ?_ (sent.trans unsent)
      cases prepares with
      | opening place opens fresh =>
          obtain ⟨opensStill, same⟩ := Link.opens_of_works quiet opens change
          refine .opening place opensStill ?_
          dsimp only
          rw [same, fresh, Link.revision_of_works change]
      | subscribing place reading | registering place reading | writing place reading =>
          exact (busy reading).elim
  | requested lead attends =>
      rcases quiet with rfl | rfl
      · exact .requested lead (attends_of_work attends change)
      · cases change with
        | dial place =>
            have follows := attends.follows
            rw [place] at follows
            exact follows.elim
        | lose place => exact (busy place).elim
  | astray strays unsent => exact .astray strays (sent.trans unsent)

theorem astray_of_steps (strays : run.stage.Astray) (stepped : Steps run later) :
    later.stage.Astray ∧ (run.link.revision ≠ .v1 → later.link.sent = run.link.sent) := by
  cases stepped with
  | send task next inbox link place change =>
      rw [place] at strays
      cases change with
      | explain ticket => cases ticket <;> exact ⟨trivial, fun _ => rfl⟩
      | release => exact ⟨trivial, fun _ => rfl⟩
      | _ => exact strays.elim
  | unsent cause inbox place => exact ⟨trivial, fun _ => rfl⟩
  | leave task next failure link place change =>
      rw [place] at strays
      exact ⟨Task.mute_of_changes strays change,
        fun modern => Task.sent_of_mute strays modern change⟩
  | finish receipt failure place => cases failure <;> exact ⟨trivial, fun _ => rfl⟩
  | _ => simp_all [Stage.Astray]

/-- The request goes out, or it is given up. -/
theorem asking_of_writing {task : Task} {link : Link} (watches : run.command = .watch mode tag)
    (modern : run.link.revision ≠ .v1) (placed : run.link.Placed)
    (reading : run.link.worker = .reading)
    (registered : run.link.exchange = .attended run.link.revision [] false {})
    (unsent : run.link.sent = [])
    (change : Task.Changes .grants run.link (.writing action (some 0)) task link) :
    Asking action { run with link, stage := .sending task (some 0) } := by
  have placedStill := Link.placed_of_changes placed (by simp) change
  cases change with
  | nothingToWriteTo | unsayable => exact .astray trivial unsent
  | writeFails _ _ _ _ _ _ _ refused => cases refused
  | write _ _ bytes writable encoded =>
      refine .requested run.printed
        ⟨⟨mode, tag, watches⟩, modern, placedStill, ?_, by simp, by simp, ?_⟩
      · dsimp only
        rw [reading]
        rfl
      · refine .asked (.inl rfl) ⟨[], ?_, ?_⟩ rfl
        · dsimp only
          rw [reading]
          rfl
        · dsimp only
          rw [registered, reading]
          rfl

theorem asking_of_preparing (watches : run.command = .watch mode tag)
    (modern : run.link.revision ≠ .v1) (placed : run.link.Placed)
    (prepares : Preparing (.setWatchMode mode tag) run) (unsent : run.link.sent = [])
    (stepped : Steps run later) : Asking (.setWatchMode mode tag) later := by
  cases prepares with
  | opening place opens fresh =>
      cases stepped with
      | begin _ opening fired ready =>
          have reading : run.link.worker = .reading := by
            have heralds := placed.heralds
            rw [fired] at heralds
            cases worker : run.link.worker <;> simp_all [Worker.Opens, Worker.Heralds]
          simp only [opened, watches, Command.action]
          exact .preparing placed (.subscribing rfl reading fresh) unsent
      | giveUp => exact .astray trivial unsent
      | _ => simp_all
  | subscribing place reading fresh =>
      cases stepped with
      | subscribe action found =>
          obtain rfl := Stage.subscribing.inj (found.symm.trans place)
          refine .preparing (placed_of_exchange placed _) (.registering ?_ reading ?_) unsent
          · rw [fresh]
            rfl
          · dsimp only
            rw [fresh]
            rfl
      | _ => simp_all
  | registering place reading subscribed =>
      cases stepped with
      | send task next inbox link found change =>
          obtain ⟨rfl, rfl⟩ := Stage.sending.inj (found.symm.trans place)
          cases change with
          | registerTwice _ taken =>
              rw [subscribed] at taken
              exact (taken rfl).elim
          | register _ ticket exchange registered =>
              rw [subscribed] at registered
              cases registered
              exact .preparing (placed_of_exchange placed _) (.writing rfl reading rfl) unsent
      | _ => simp_all
  | writing place reading registered =>
      cases stepped with
      | send task next inbox link found change =>
          obtain ⟨rfl, rfl⟩ := Stage.sending.inj (found.symm.trans place)
          exact asking_of_writing watches modern placed reading registered unsent change
      | _ => simp_all

theorem asking_of_step (watches : run.command = .watch mode tag)
    (modern : run.link.revision ≠ .v1) (asking : Asking (.setWatchMode mode tag) run)
    (stepped : run.step = some later) : Asking (.setWatchMode mode tag) later := by
  have steps := steps_of_step stepped
  cases asking with
  | preparing placed prepares unsent =>
      exact asking_of_preparing watches modern placed prepares unsent steps
  | requested lead attends => exact .requested lead (attends_of_step attends stepped).1
  | astray strays unsent =>
      obtain ⟨still, sent⟩ := astray_of_steps strays steps
      exact .astray still ((sent modern).trans unsent)

theorem placed_of_dialing (settings : Settings) (exchange : Exchange) :
    ({ settings, phase := .connecting, worker := .dialing, exchange } : Link).Placed := by
  refine ⟨nofun, rfl, fun _ => rfl, fun _ => ⟨rfl, ?_⟩, False.elim⟩
  exact Phase.noConfusion

theorem kept_of_begin (invocation : Invocation) :
    (begin invocation).command = invocation.command ∧
      (begin invocation).link.revision = invocation.revision := by
  unfold begin
  dsimp only
  split
  · exact ⟨rfl, rfl⟩
  · rw [Link.call_start_of_disconnected rfl]
    exact ⟨rfl, rfl⟩

theorem asking_of_begin (invocation : Invocation) (action : Action) :
    Asking action (begin invocation) := by
  unfold begin
  dsimp only
  split
  · exact .astray trivial rfl
  · rw [Link.call_start_of_disconnected rfl]
    exact .preparing (placed_of_dialing _ _) (.opening rfl rfl rfl) rfl

/-- Until the server has something to answer, a run that watches is asking. -/
theorem asking_of_moves {moves : List Move} (watches : run.command = .watch mode tag)
    (modern : run.link.revision ≠ .v1)
    (quiet : ∀ arrival ∈ moves.filterMap Move.arrival?, arrival = .accepted)
    (ran : run.moves moves = some later) (asking : Asking (.setWatchMode mode tag) run) :
    Asking (.setWatchMode mode tag) later := by
  induction moves generalizing run with
  | nil =>
      cases ran
      exact asking
  | cons move others ih =>
      obtain ⟨next, moved, continued⟩ := moves_cons_eq_some.mp ran
      have quietStill : ∀ arrival ∈ others.filterMap Move.arrival?, arrival = .accepted := by
        intro arrival member
        apply quiet
        simp only [List.mem_filterMap] at member ⊢
        obtain ⟨found, present, same⟩ := member
        exact ⟨found, List.mem_cons_of_mem move present, same⟩
      cases move with
      | step =>
          obtain ⟨command, settings⟩ := kept_of_steps (steps_of_step moved)
          have modernStill : next.link.revision ≠ .v1 := by rwa [Link.revision, settings]
          exact ih (command.trans watches) modernStill quietStill continued
            (asking_of_step watches modern asking moved)
      | work =>
          obtain ⟨link, worked, rfl⟩ := worked_of_move moved
          have change := Link.works_of_work worked
          have watchesStill : ({ run with link } : Run).command = .watch mode tag := watches
          exact ih watchesStill (Link.revision_of_works change ▸ modern) quietStill continued
            (asking_of_works (.inl rfl) modern asking change)
      | arrive arrival =>
          obtain rfl := quiet arrival (by simp [Move.arrival?])
          obtain ⟨link, change, rfl⟩ := works_of_peace (.inl rfl) moved
          have watchesStill : ({ run with link } : Run).command = .watch mode tag := watches
          exact ih watchesStill (Link.revision_of_works change ▸ modern) quietStill continued
            (asking_of_works (.inr rfl) modern asking change)

theorem printed_of_unheard {lead : List Line} {ceased : Bool}
    (attends : Attends lead [] ceased run) : run.printed = lead := by
  cases attends.standing with
  | asked place holds printed => exact printed
  | answered response place answers | leaving response place answers
  | finished response place answers =>
      obtain ⟨first, others, impossible, _⟩ := answers
      cases impossible
  | following response taken place answers =>
      obtain ⟨first, others, impossible, _⟩ := answers
      cases impossible

/-- A server that has got something has got the request, and nothing has come in so far. -/
theorem attends_of_sent {moves : List Move} {invocation : Invocation}
    (watches : invocation.command = .watch mode tag) (modern : invocation.revision ≠ .v1)
    (quiet : ∀ arrival ∈ moves.filterMap Move.arrival?, arrival = .accepted)
    (ran : (begin invocation).moves moves = some later) (sent : later.link.sent ≠ []) :
    Attends later.printed [] false later := by
  obtain ⟨command, revision⟩ := kept_of_begin invocation
  have asking := asking_of_moves (command.trans watches) (revision ▸ modern) quiet ran
    (asking_of_begin invocation _)
  cases asking with
  | preparing _ _ unsent => exact (sent unsent).elim
  | requested lead attends =>
      rw [printed_of_unheard attends]
      exact attends
  | astray _ unsent => exact (sent unsent).elim

end Asking

end Run

end Console

end WatchLink
