import WatchLink.Console.Schedule
import WatchLink.Proofs.Traffic.Changes

/-!
# What one moment of a run can be

`Run.Steps` lists everything that a run can do from one moment to the next, each with the stage in
which it does it. A run cannot go on by itself for ever: every such moment brings down the number
that `Run.remaining` counts.
-/

namespace WatchLink

set_option autoImplicit false

namespace Exchange

def backlog (exchange : Exchange) : Nat :=
  (exchange.inboxes.flatMap fun inbox => inbox.feed.queued).length

theorem backlog_close_inboxes (exchange : Exchange) :
    exchange.closeInboxes.backlog = exchange.backlog := by
  simp only [backlog, closeInboxes, Inbox.detach, List.flatMap_map]

theorem backlog_conclude (exchange : Exchange) (progress : Progress) :
    (exchange.conclude progress).backlog = exchange.backlog := by
  unfold conclude
  split <;> rfl

theorem backlog_register {exchange after : Exchange} {ticket : Nat}
    (registered : exchange.register = .ok (ticket, after)) : after.backlog = exchange.backlog := by
  unfold register at registered
  split at registered
  · cases registered
  · cases registered
    rfl

theorem backlog_subscribe (exchange : Exchange) :
    exchange.subscribe.2.backlog = exchange.backlog := by
  simp [backlog, subscribe, Feed.queued]

theorem backlog_collect {exchange after : Exchange} {ticket : Nat} {outcome : Option Outcome}
    (collected : exchange.collect ticket = (outcome, after)) :
    after.backlog = exchange.backlog := by
  unfold collect at collected
  split at collected <;> cases collected <;> rfl

theorem backlog_set_inbox {exchange : Exchange} {number : Nat} {before : Inbox}
    (there : exchange.inboxes[number]? = some before) (after : Inbox) :
    (exchange.setInbox number after).backlog + before.feed.queued.length =
      exchange.backlog + after.feed.queued.length := by
  simp only [backlog, setInbox]
  generalize exchange.inboxes = inboxes at there
  induction inboxes generalizing number with
  | nil => simp at there
  | cons first others ih =>
      cases number with
      | zero =>
          cases there
          simp only [List.set_cons_zero, List.flatMap_cons, List.length_append]
          omega
      | succ number =>
          have present : others[number]? = some before := by simpa using there
          have inner := ih present
          simp only [List.set_cons_succ, List.flatMap_cons, List.length_append]
          omega

end Exchange

theorem Task.remaining_of_changes {host : Host} {link changed : Link} {task next : Task}
    (change : Changes host link task next changed) : next.remaining < task.remaining := by
  cases change with
  | write | writeFails | unsayable | explain => grind [remaining, remaining_refuse_le, sentReceipt]
  | _ => simp only [remaining]; omega

theorem Task.backlog_of_changes {host : Host} {link changed : Link} {task next : Task}
    (change : Changes host link task next changed) :
    changed.exchange.backlog = link.exchange.backlog := by
  cases change with
  | register action ticket exchange registered => exact Exchange.backlog_register registered
  | subscribe => exact Exchange.backlog_subscribe link.exchange
  | retire | closeInboxes => exact Exchange.backlog_close_inboxes link.exchange
  | release | reject => exact Exchange.backlog_conclude link.exchange _
  | _ => rfl

theorem Link.revision_of_works {cause : Option Arrival} {link changed : Link}
    (change : Works link cause changed) : changed.revision = link.revision := by
  cases change <;> rfl

namespace Console

namespace Run

variable {run later last : Run}

inductive Steps (run : Run) : Run → Prop where
  | begin (place : run.stage = .opening) (opening : Opening)
      (fired : run.link.signal.opening = some opening) (ready : opening.result = .ok ()) :
      Steps run run.opened
  | giveUp (place : run.stage = .opening) (opening : Opening) (cause : ClientError)
      (fired : run.link.signal.opening = some opening) (failed : opening.result = .error cause) :
      Steps run (run.leave (some cause))
  | subscribe (action : Action) (place : run.stage = .subscribing action) :
      Steps run { run with
        link := { run.link with exchange := run.link.exchange.subscribe.2 }
        stage := .sending (Call.act action).begin (some run.link.exchange.subscribe.1) }
  | send (task next : Task) (inbox : Option Nat) (link : Link)
      (place : run.stage = .sending task inbox)
      (change : Task.Changes .grants run.link task next link) :
      Steps run { run with link, stage := .sending next inbox }
  | sent (ticket : Nat) (inbox : Option Nat)
      (place : run.stage = .sending (.finished (.number ticket)) inbox) :
      Steps run (run.enter (.awaiting ticket inbox))
  | unsent (cause : ClientError) (inbox : Option Nat)
      (place : run.stage = .sending (.finished (.refused cause)) inbox) :
      Steps run (run.leave (some cause))
  | unclaimed (inbox : Option Nat) (place : run.stage = .sending (.finished .done) inbox) :
      Steps run (run.leave none)
  | answer (ticket : Nat) (inbox : Option Nat) (response : Response) (exchange : Exchange)
      (place : run.stage = .awaiting ticket inbox)
      (collected : run.link.exchange.collect ticket = (some (.ok response), exchange)) :
      Steps run ({ run with link := { run.link with exchange } }.answered response inbox)
  | fail (ticket : Nat) (inbox : Option Nat) (cause : ClientError) (exchange : Exchange)
      (place : run.stage = .awaiting ticket inbox)
      (collected : run.link.exchange.collect ticket = (some (.error cause), exchange)) :
      Steps run ({ run with link := { run.link with exchange } }.leave (some cause))
  | skip (response : Response) (inbox : Nat) (taking : Taking) (after : Run)
      (place : run.stage = .skipping response inbox)
      (taken : run.takeFrom inbox = some (taking, after)) :
      Steps run (after.skipped response inbox)
  | report (inbox : Nat) (chunk : Bytes) (after : Run) (place : run.stage = .following inbox)
      (taken : run.takeFrom inbox = some (.chunk chunk, after)) :
      Steps run (after.say (pushLine chunk))
  | stop (inbox : Nat) (taking : Taking) (after : Run) (place : run.stage = .following inbox)
      (taken : run.takeFrom inbox = some (taking, after)) (dry : ∀ chunk, taking ≠ .chunk chunk) :
      Steps run ((after.log .info "Server closed the connection").leave none)
  | close (task next : Task) (link : Link) (place : run.stage = .closing task)
      (change : Task.Changes .grants run.link task next link) :
      Steps run { run with link, stage := .closing next }
  | closed (receipt : Receipt) (place : run.stage = .closing (.finished receipt)) :
      Steps run run.closed
  | leave (task next : Task) (failure : Option ClientError) (link : Link)
      (place : run.stage = .leaving task failure)
      (change : Task.Changes .grants run.link task next link) :
      Steps run { run with link, stage := .leaving next failure }
  | finish (receipt : Receipt) (failure : Option ClientError)
      (place : run.stage = .leaving (.finished receipt) failure) :
      Steps run (run.finish failure)

theorem advance_eq_some {task : Task} {resume : Task → Stage} {ended : Receipt → Run → Run}
    (advanced : run.advance task resume ended = some later) :
    (∃ receipt, task = .finished receipt ∧ later = ended receipt run) ∨
      ∃ next link, Task.Changes .grants run.link task next link ∧
        later = { run with link, stage := resume next } := by
  unfold advance at advanced
  split at advanced
  next receipt reported =>
    left
    cases task with
    | finished outcome =>
        cases reported
        cases advanced
        exact ⟨receipt, rfl, rfl⟩
    | _ => cases reported
  next =>
    right
    obtain ⟨⟨next, link⟩, changed, rfl⟩ := Option.map_eq_some_iff.mp advanced
    exact ⟨next, link, Task.changes_of_advance changed, rfl⟩

theorem steps_of_step (stepped : run.step = some later) : Steps run later := by
  unfold step at stepped
  split at stepped
  next place =>
    obtain ⟨opening, fired, outcome⟩ := Option.map_eq_some_iff.mp stepped
    split at outcome
    next ready =>
      subst outcome
      exact .begin place opening fired ready
    next cause failed =>
      subst outcome
      exact .giveUp place opening cause fired failed
  next action place =>
    cases stepped
    exact .subscribe action place
  next task inbox place =>
    rcases advance_eq_some stepped with ⟨receipt, rfl, rfl⟩ | ⟨next, link, change, rfl⟩
    · cases receipt with
      | number ticket => exact .sent ticket inbox place
      | refused cause => exact .unsent cause inbox place
      | done => exact .unclaimed inbox place
    · exact .send task next inbox link place change
  next ticket inbox place =>
    split at stepped
    · cases stepped
    next outcome exchange collected =>
      cases outcome with
      | ok response =>
          cases stepped
          exact .answer ticket inbox response exchange place collected
      | error cause =>
          cases stepped
          exact .fail ticket inbox cause exchange place collected
  next response inbox place =>
    obtain ⟨⟨taking, after⟩, taken, rfl⟩ := Option.map_eq_some_iff.mp stepped
    exact .skip response inbox taking after place taken
  next inbox place =>
    obtain ⟨⟨taking, after⟩, taken, outcome⟩ := Option.map_eq_some_iff.mp stepped
    cases taking with
    | chunk chunk =>
        cases outcome
        exact .report inbox chunk after place taken
    | empty | disconnected =>
        cases outcome
        exact .stop inbox _ after place taken (by simp)
  next task place =>
    rcases advance_eq_some stepped with ⟨receipt, rfl, rfl⟩ | ⟨next, link, change, rfl⟩
    · exact .closed receipt place
    · exact .close task next link place change
  next task failure place =>
    rcases advance_eq_some stepped with ⟨receipt, rfl, rfl⟩ | ⟨next, link, change, rfl⟩
    · exact .finish receipt failure place
    · exact .leave task next failure link place change
  · cases stepped

section Taking

variable {number : Nat} {inbox : Inbox} {taking : Taking} {after : Run}

theorem take_from_of_next (there : run.link.exchange.inboxes[number]? = some inbox)
    (held : inbox.held = true) {chunk : Bytes} {feed : Feed Bytes}
    (next : inbox.feed.next = some (chunk, feed)) :
    run.takeFrom number = some (.chunk chunk, { run with
      link := { run.link with
        exchange := run.link.exchange.setInbox number { inbox with feed } } }) := by
  simp only [takeFrom, Exchange.useInbox, there, held, Inbox.take, next, Bool.not_true,
    Bool.false_eq_true, if_false]

theorem take_from_of_dry (there : run.link.exchange.inboxes[number]? = some inbox)
    (held : inbox.held = true) (dry : inbox.feed.next = none) :
    run.takeFrom number = if inbox.attached then none else some (.disconnected, run) := by
  have same : run.link.exchange.setInbox number inbox = run.link.exchange := by
    obtain ⟨bound, here⟩ := List.getElem?_eq_some_iff.mp there
    subst here
    rw [Exchange.setInbox, List.set_getElem_self]
  cases attached : inbox.attached <;>
    simp [takeFrom, Exchange.useInbox, there, held, Inbox.take, dry, attached, same]

theorem take_from_of_gone
    (gone : ∀ inbox, run.link.exchange.inboxes[number]? = some inbox → inbox.held = false) :
    run.takeFrom number = some (.disconnected, run) := by
  unfold takeFrom Exchange.useInbox
  cases there : run.link.exchange.inboxes[number]? with
  | none => rfl
  | some inbox => simp [gone inbox there]

/-- What is taken is the next chunk of the inbox, or the news that there will not be one. -/
theorem take_from_cases (taken : run.takeFrom number = some (taking, after)) :
    (taking = .disconnected ∧ after = run) ∨
      ∃ inbox chunk feed, run.link.exchange.inboxes[number]? = some inbox ∧
        inbox.feed.next = some (chunk, feed) ∧ taking = .chunk chunk ∧
          after = { run with
            link := { run.link with
              exchange := run.link.exchange.setInbox number { inbox with feed } } } := by
  by_cases gone : ∀ inbox, run.link.exchange.inboxes[number]? = some inbox → inbox.held = false
  · rw [take_from_of_gone gone] at taken
    cases taken
    exact .inl ⟨rfl, rfl⟩
  · push Not at gone
    obtain ⟨inbox, there, held⟩ := gone
    have held : inbox.held = true := by simpa using held
    cases next : inbox.feed.next with
    | some item =>
        rw [take_from_of_next there held next] at taken
        cases taken
        exact .inr ⟨inbox, item.1, item.2, there, next, rfl, rfl⟩
    | none =>
        rw [take_from_of_dry there held next] at taken
        split at taken
        · cases taken
        · cases taken
          exact .inl ⟨rfl, rfl⟩

end Taking

theorem stage_of_take_from {number : Nat} {taking : Taking} {after : Run}
    (taken : run.takeFrom number = some (taking, after)) : after.stage = run.stage := by
  rcases take_from_cases taken with ⟨_, rfl⟩ | ⟨inbox, chunk, feed, _, _, _, rfl⟩ <;> rfl

theorem skipped_eq (response : Response) (inbox : Nat) (run : Run) :
    run.skipped response inbox = { run with
      stage := .following inbox
      printed := run.printed ++
        if response.trailing.isEmpty then [] else [.plain (pushLine response.trailing)] } := by
  unfold skipped
  split
  · simp only [enter, List.append_nil]
  · rfl

/-- What a run was begun with is never changed. -/
theorem kept_of_steps (stepped : Steps run later) :
    later.command = run.command ∧ later.link.settings = run.link.settings := by
  have unchanged {number : Nat} {taking : Taking} {after : Run}
      (taken : run.takeFrom number = some (taking, after)) :
      after.command = run.command ∧ after.link.settings = run.link.settings := by
    rcases take_from_cases taken with ⟨_, rfl⟩ | ⟨inbox, chunk, feed, _, _, _, rfl⟩ <;>
      exact ⟨rfl, rfl⟩
  cases stepped with
  | begin =>
      unfold opened
      dsimp only
      split <;> exact ⟨rfl, rfl⟩
  | send _ _ _ _ _ change | close _ _ _ _ change | leave _ _ _ _ _ change =>
      cases change <;> exact ⟨rfl, rfl⟩
  | answer _ inbox => cases inbox <;> exact ⟨rfl, rfl⟩
  | skip response _ _ after _ taken =>
      have same := unchanged taken
      rwa [skipped_eq]
  | report _ _ after _ taken | stop _ _ after _ taken =>
      have same := unchanged taken
      exact same
  | closed =>
      unfold Run.closed
      split <;> exact ⟨rfl, rfl⟩
  | finish _ failure => cases failure <;> exact ⟨rfl, rfl⟩
  | _ => exact ⟨rfl, rfl⟩

/-! ## A run goes on by itself for a while only -/

theorem queued_eq_backlog (exchange : Exchange) :
    exchange.inboxes.foldl (fun sum inbox => sum + inbox.feed.queued.length) 0 =
      exchange.backlog := by
  rw [Exchange.backlog, List.length_flatMap, List.sum_eq_foldl, List.foldl_map]

theorem backlog_of_take_from {number : Nat} {taking : Taking} {after : Run}
    (taken : run.takeFrom number = some (taking, after)) :
    after.link.exchange.backlog ≤ run.link.exchange.backlog ∧
      ∀ chunk, taking = .chunk chunk →
        after.link.exchange.backlog < run.link.exchange.backlog := by
  rcases take_from_cases taken with ⟨rfl, rfl⟩ | ⟨inbox, chunk, feed, there, next, rfl, rfl⟩
  · exact ⟨Nat.le_refl _, by simp⟩
  · have counted := Exchange.backlog_set_inbox there { inbox with feed }
    have shorter := congrArg List.length (Feed.next_some next).1
    simp only [List.length_cons] at shorter counted
    constructor
    · dsimp only
      omega
    · intro _ _
      dsimp only
      omega

theorem remaining_opened_le (run : Run) :
    run.opened.remaining ≤ run.link.exchange.backlog + 17 := by
  unfold opened
  cases run.command <;>
    simp only [Command.action, remaining, queued_eq_backlog, enter, log, print, Call.begin,
      Task.remaining] <;> omega

theorem remaining_answered_le (response : Response) (inbox : Option Nat) (run : Run) :
    (run.answered response inbox).remaining ≤ run.link.exchange.backlog + 10 := by
  cases inbox <;>
    simp only [answered, remaining, queued_eq_backlog, enter, say, print, Call.begin,
      Task.remaining] <;> omega

theorem remaining_skipped (response : Response) (inbox : Nat) (run : Run) :
    (run.skipped response inbox).remaining = run.link.exchange.backlog + 6 := by
  simp only [skipped, remaining, queued_eq_backlog, enter]
  split <;> rfl

theorem remaining_leave (failure : Option ClientError) (run : Run) :
    (run.leave failure).remaining = 5 := rfl

theorem remaining_closed (run : Run) : run.closed.remaining = 5 := by
  unfold closed
  split <;> rfl

theorem remaining_finish (failure : Option ClientError) (run : Run) :
    (run.finish failure).remaining = 0 := by
  cases failure <;> rfl

/-- Every moment brings a run nearer to where it waits or has finished. -/
theorem remaining_of_steps (stepped : Steps run later) : later.remaining < run.remaining := by
  cases stepped with
  | begin place =>
      have opened := remaining_opened_le run
      simp only [remaining, queued_eq_backlog, place] at opened ⊢
      omega
  | giveUp place =>
      rw [remaining_leave]
      simp only [remaining, place]
      omega
  | subscribe action place =>
      have kept := Exchange.backlog_subscribe run.link.exchange
      simp only [remaining, queued_eq_backlog, place, kept, Call.begin, Task.remaining]
      omega
  | send task next inbox link place change =>
      have kept := Task.backlog_of_changes change
      have nearer := Task.remaining_of_changes change
      simp only [remaining, queued_eq_backlog, place, kept]
      omega
  | sent ticket inbox place =>
      simp only [enter, remaining, queued_eq_backlog, place, Task.remaining]
      omega
  | unsent _ inbox place | unclaimed inbox place =>
      rw [remaining_leave]
      simp only [remaining, place]
      omega
  | answer ticket inbox response exchange place collected =>
      have kept := Exchange.backlog_collect collected
      have answered := remaining_answered_le response inbox
        { run with link := { run.link with exchange } }
      simp only [kept] at answered
      simp only [remaining, queued_eq_backlog, place] at answered ⊢
      omega
  | fail ticket inbox cause exchange place =>
      rw [remaining_leave]
      simp only [remaining, place]
      omega
  | skip response inbox taking after place taken =>
      have kept := (backlog_of_take_from taken).1
      rw [remaining_skipped]
      simp only [remaining, queued_eq_backlog, place]
      omega
  | report inbox chunk after place taken =>
      have fewer := (backlog_of_take_from taken).2 chunk rfl
      have still := stage_of_take_from taken
      simp only [say, print, remaining, queued_eq_backlog, still, place]
      omega
  | stop inbox taking after place =>
      rw [remaining_leave]
      simp only [remaining, place]
      omega
  | close task next link place change | leave task next failure link place change =>
      have nearer := Task.remaining_of_changes change
      simp only [remaining, place]
      omega
  | closed receipt place =>
      rw [remaining_closed]
      simp only [remaining, place]
      omega
  | finish receipt failure place =>
      rw [remaining_finish]
      simp only [remaining, place]
      omega

/-! ## Schedules -/

def Move.arrival? : Move → Option Arrival
  | arrive arrival => some arrival
  | _ => none

theorem moves_cons_eq_some {first : Move} {others : List Move} :
    run.moves (first :: others) = some last ↔
      ∃ next, run.move first = some next ∧ next.moves others = some last := by
  simp [moves, Option.bind_eq_some_iff]

theorem works_of_peace {arrival : Arrival}
    (peace : arrival = .accepted ∨ (∃ bytes, arrival = .chunk bytes) ∨ arrival = .ended)
    (moved : run.move (.arrive arrival) = some later) :
    ∃ link, Link.Works run.link (some arrival) link ∧ later = { run with link } := by
  simp only [move, hear, Option.map_eq_some_iff] at moved
  obtain ⟨link, heard, rfl⟩ := moved
  refine ⟨link, Link.works_of_hear heard, ?_⟩
  rcases peace with rfl | ⟨bytes, rfl⟩ | rfl <;> rfl

theorem worked_of_move (moved : run.move .work = some later) :
    ∃ link, run.link.work = some link ∧ later = { run with link } := by
  simp only [move, Option.map_eq_some_iff] at moved
  obtain ⟨link, worked, rfl⟩ := moved
  exact ⟨link, worked, rfl⟩

end Run

end Console

end WatchLink
