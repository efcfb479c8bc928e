import WatchLink.Proofs.Console.Following

/-!
# Runs under way, in any schedule

Once the link of a run is open, the worker and the network may do anything at any moment: chunks
come in before the request and after it, and the stream ends when it likes. `Underway` is what holds
of a run throughout, whatever comes; `Link.Awaits` says what has become of its ticket, and
`Link.Stores` what is in its inbox. A run that is left to itself and its worker comes to rest.
-/

namespace WatchLink

set_option autoImplicit false

def Arrival.chunk? : Arrival → Option Bytes
  | chunk bytes => some bytes
  | _ => none

/-- Any change of a call that sends an action or closes a link. -/
def Task.Ordinary : Task → Prop
  | starting | failing _ | retiring _ | subscribing | listening | awaiting => False
  | _ => True

theorem Task.ordinary_refuse (cause : ClientError) (ticket : Option Nat) :
    (refuse cause ticket).Ordinary := by
  cases ticket <;> trivial

section Ordinary

variable {host : Host} {link changed : Link} {task next : Task}

theorem Task.ordinary_of_changes (ordinary : task.Ordinary)
    (change : Changes host link task next changed) : next.Ordinary := by
  cases change with
  | start | startFails | startLate | fireFailure | retire | subscribe | listen | learn =>
      exact ordinary.elim
  | unsayable _ ticket | writeFails _ ticket | explain ticket => exact ordinary_refuse _ ticket
  | _ => trivial

theorem Task.worker_of_ordinary (ordinary : task.Ordinary)
    (change : Changes host link task next changed) : changed.worker = link.worker := by
  cases change with
  | start => exact ordinary.elim
  | _ => rfl

theorem Task.length_inboxes_of_ordinary (ordinary : task.Ordinary)
    (change : Changes host link task next changed) :
    changed.exchange.inboxes.length = link.exchange.inboxes.length := by
  have others : task ≠ .subscribing ∧ task ≠ .listening := by
    constructor <;> rintro rfl <;> exact ordinary.elim
  have counted : changed.exchange.count (.inbox 0) = link.exchange.count (.inbox 0) :=
    count_of_changes change others
  exact counted

theorem Task.exchange_revision_of_changes (change : Changes host link task next changed) :
    changed.exchange.revision = link.exchange.revision := by
  cases change with
  | register action ticket exchange registered =>
      rw [(Exchange.register_ok registered).2.2]
  | release | reject => exact Exchange.revision_conclude _ _
  | _ => rfl

theorem Task.revision_of_changes (change : Changes host link task next changed) :
    changed.revision = link.revision := by
  cases change <;> rfl

end Ordinary

namespace Link

variable {link changed : Link} {cause : Option Arrival} {heard chunks : List Bytes} {taken : Nat}

theorem exchange_revision_of_works (change : Works link cause changed) :
    changed.exchange.revision = link.exchange.revision := by
  cases change with
  | answer | reject => exact Exchange.revision_conclude _ _
  | _ => rfl

theorem length_inboxes_of_works (change : Works link cause changed) :
    changed.exchange.inboxes.length = link.exchange.inboxes.length := by
  have counted : changed.exchange.count (.inbox 0) = link.exchange.count (.inbox 0) :=
    count_of_works change
  exact counted

theorem sealed_of_sealed_works (sealed : link.worker.Sealed) (change : Works link cause changed) :
    changed.worker.Sealed ∧ cause = none := by
  cases change with
  | closeInboxes opening worker place rest =>
      subst rest
      cases opening <;> exact ⟨trivial, rfl⟩
  | reject | fire => exact ⟨trivial, rfl⟩
  | _ => simp_all [Worker.Sealed]

/-- Whatever comes, the worker of an open link goes on following the stream, or it has ceased. -/
theorem follows_of_works (follows : ∃ ceased, link.worker.Follows ceased)
    (change : Works link cause changed) : ∃ ceased, changed.worker.Follows ceased := by
  obtain ⟨ceased, follows⟩ := follows
  cases cause with
  | none => exact ⟨ceased, follows_of_work follows change⟩
  | some arrival =>
      cases change with
      | lose => exact ⟨true, rfl⟩
      | answer => exact ⟨false, rfl⟩
      | dial place | fail place | spoil place =>
          rw [place] at follows
          exact follows.elim

/-! ## The ticket -/

/-- What has become of the only ticket of a run, by the chunks that have come in since it was
registered: the first of them is its response. -/
inductive Awaits (link : Link) : List Bytes → Prop where
  | waiting (outstanding : link.exchange.awaiting = some 0)
      (ticket : link.exchange.tickets = [{}]) : Awaits link []
  | interrupted (concluded : link.exchange.awaiting = none)
      (ticket : link.exchange.tickets = [{ progress := .resolved (.error .interrupted) }])
      (sealed : link.worker.Sealed) : Awaits link []
  | answered (first : Bytes) (others : List Bytes) (concluded : link.exchange.awaiting = none)
      (ticket : link.exchange.tickets =
        [{ progress := .resolved (Exchange.outcomeOf link.exchange.revision first) }]) :
      Awaits link (first :: others)

theorem Awaits.carry (awaits : link.Awaits heard)
    (awaiting : changed.exchange.awaiting = link.exchange.awaiting)
    (tickets : changed.exchange.tickets = link.exchange.tickets)
    (revision : changed.exchange.revision = link.exchange.revision)
    (sealed : link.worker.Sealed → changed.worker.Sealed) : changed.Awaits heard := by
  cases awaits with
  | waiting outstanding ticket =>
      exact .waiting (awaiting.trans outstanding) (tickets.trans ticket)
  | interrupted concluded ticket gone =>
      exact .interrupted (awaiting.trans concluded) (tickets.trans ticket) (sealed gone)
  | answered first others concluded ticket =>
      refine .answered first others (awaiting.trans concluded) ?_
      rw [tickets, ticket, revision]

theorem conclude_of_none {exchange : Exchange} (concluded : exchange.awaiting = none)
    (progress : Progress) : exchange.conclude progress = exchange := by
  simp [Exchange.conclude, concluded]

theorem tickets_conclude_of_waiting {exchange : Exchange} (outstanding : exchange.awaiting = some 0)
    (ticket : exchange.tickets = [{}]) (progress : Progress) :
    (exchange.conclude progress).tickets = [{ progress }] := by
  simp [Exchange.conclude, outstanding, Exchange.setProgress, ticket]

theorem awaits_of_works (awaits : link.Awaits heard) (change : Works link cause changed) :
    changed.Awaits (heard ++ (cause.bind Arrival.chunk?).toList) := by
  have sealed := fun gone => (sealed_of_sealed_works gone change).1
  have revision := exchange_revision_of_works change
  cases change with
  | answer place bytes =>
      simp only [Option.bind_some, Arrival.chunk?, Option.toList_some]
      cases awaits with
      | waiting outstanding ticket =>
          refine .answered bytes [] (Exchange.awaiting_conclude _ _) ?_
          rw [revision]
          exact tickets_conclude_of_waiting outstanding ticket _
      | interrupted _ _ gone =>
          rw [place] at gone
          exact gone.elim
      | answered first others concluded ticket =>
          have same : link.exchange.answer bytes = link.exchange :=
            conclude_of_none concluded _
          refine .answered first (others ++ [bytes]) ?_ ?_ <;>
            simp only [mapExchange, same, concluded, ticket]
  | reject opening place =>
      simp only [Option.bind_none, Option.toList_none, List.append_nil]
      cases awaits with
      | waiting outstanding ticket =>
          exact .interrupted (Exchange.awaiting_conclude _ _)
            (tickets_conclude_of_waiting outstanding ticket _) trivial
      | interrupted concluded ticket gone =>
          refine .interrupted ?_ ?_ trivial <;>
            simp only [mapExchange, Exchange.failPending, conclude_of_none concluded, concluded,
              ticket]
      | answered first others concluded ticket =>
          refine .answered first others ?_ ?_ <;>
            simp only [mapExchange, Exchange.failPending, conclude_of_none concluded, concluded,
              ticket]
  | lose place arrival ends =>
      have chunkless : arrival.chunk? = none := by
        rcases ends with rfl | ⟨reason, rfl⟩ <;> rfl
      simp only [Option.bind_some, chunkless, Option.toList_none, List.append_nil]
      exact awaits.carry rfl rfl rfl sealed
  | _ =>
      simp only [Option.bind_some, Option.bind_none, Arrival.chunk?, Option.toList_none,
        List.append_nil]
      exact awaits.carry rfl rfl rfl sealed

/-! ## The inbox -/

/-- What is in the only inbox of a run: these chunks have come in for it, and are in it or on their
way to it, and so many of them have been taken. -/
def Stores (chunks : List Bytes) (taken : Nat) (link : Link) : Prop :=
  ∃ arrived, chunks = arrived ++ link.worker.waiting (.inbox 0) ∧ taken ≤ arrived.length ∧
    link.exchange.inboxes =
      [{ feed := { arrived, taken }, attached := link.worker.isLive }]

theorem Stores.carry (stores : link.Stores chunks taken)
    (inboxes : changed.exchange.inboxes = link.exchange.inboxes)
    (waiting : changed.worker.waiting (.inbox 0) = link.worker.waiting (.inbox 0))
    (live : changed.worker.isLive = link.worker.isLive) : changed.Stores chunks taken := by
  obtain ⟨arrived, split, within, here⟩ := stores
  exact ⟨arrived, by rw [waiting, split], within, by rw [inboxes, here, live]⟩

theorem stores_of_works (stores : link.Stores chunks taken)
    (follows : ∃ ceased, link.worker.Follows ceased) (change : Works link cause changed) :
    changed.Stores (chunks ++ (cause.bind Arrival.chunk?).toList) taken := by
  obtain ⟨ceased, follows⟩ := follows
  cases change with
  | answer place bytes =>
      obtain ⟨arrived, split, within, here⟩ := stores
      simp only [place, Worker.waiting, List.append_nil] at split
      refine ⟨arrived, ?_, within, ?_⟩
      · rw [split]
        rfl
      · simp only [mapExchange, Exchange.answer, Exchange.inboxes_conclude, here, place]
        rfl
  | publish bytes place =>
      obtain ⟨arrived, split, within, here⟩ := stores
      refine ⟨arrived ++ [bytes], ?_, ?_, ?_⟩
      · simpa [place, Worker.waiting] using split
      · rw [List.length_append]
        omega
      · simp only [mapExchange, Exchange.publish, here, place]
        rfl
  | closeInboxes opening worker place rest =>
      obtain ⟨arrived, split, within, here⟩ := stores
      rw [place] at follows split here
      cases opening with
      | some opening => exact follows.elim
      | none =>
          subst rest
          refine ⟨arrived, ?_, within, ?_⟩
          · simpa [Worker.waiting] using split
          · simp only [mapExchange, Exchange.closeInboxes, here]
            rfl
  | reject opening place =>
      simp only [Option.bind_none, Option.toList_none, List.append_nil]
      exact stores.carry (Exchange.inboxes_conclude _ _) (by rw [place]; rfl) (by rw [place]; rfl)
  | lose place arrival ends =>
      have chunkless : arrival.chunk? = none := by
        rcases ends with rfl | ⟨reason, rfl⟩ <;> rfl
      simp only [Option.bind_some, chunkless, Option.toList_none, List.append_nil]
      exact stores.carry rfl (by rw [place]; rfl) (by rw [place]; rfl)
  | notify bytes place | sever opening place =>
      simp only [Option.bind_none, Option.toList_none, List.append_nil]
      exact stores.carry rfl (by rw [place]; rfl) (by rw [place]; rfl)
  | dial place | fail place | spoil place | forestall place | connect place | announce place
  | fire _ place =>
      rw [place] at follows
      exact follows.elim

/-- A worker that waits has handed over everything it has read. -/
theorem waiting_of_work_eq_none (asleep : link.work = none) :
    link.worker.waiting (.inbox 0) = [] := by
  rcases waits_of_work_eq_none asleep with place | place | place | place <;> rw [place] <;> rfl

/-- The chunks that wait in the inbox of a run, and the one that is on its way there. -/
def incoming (link : Link) : List Bytes :=
  (link.exchange.inboxes.flatMap fun inbox => inbox.feed.queued) ++
    link.worker.waiting (.inbox 0)

theorem incoming_of_stores (stores : link.Stores chunks taken) :
    link.incoming = chunks.drop taken := by
  obtain ⟨arrived, split, within, here⟩ := stores
  simp [incoming, here, split, Feed.queued, List.drop_append_of_le_length within]

end Link

namespace Console

def Line.plain? : Line → Option String
  | plain text => some text
  | log _ _ _ => none

/-- The stages of a run whose link is open, and that has opened its inbox if it opens one. -/
def Stage.Underway : Stage → Prop
  | opening | subscribing _ => False
  | sending task _ | closing task | leaving task _ => task.Ordinary
  | _ => True

namespace Run

def results (run : Run) : List String := run.printed.filterMap Line.plain?

def Move.chunk? (move : Move) : Option Bytes := move.arrival?.bind Arrival.chunk?

section Results

variable (run : Run)

@[simp] theorem results_say (text : String) : (run.say text).results = run.results ++ [text] := by
  simp [results, say, print, Line.plain?]

@[simp] theorem results_log (severity : Severity) (text : String) :
    (run.log severity text).results = run.results := by
  simp [results, log, print, Line.plain?]

@[simp] theorem results_enter (stage : Stage) : (run.enter stage).results = run.results := rfl

@[simp] theorem results_leave (failure : Option ClientError) :
    (run.leave failure).results = run.results := rfl

@[simp] theorem results_finish (failure : Option ClientError) :
    (run.finish failure).results = run.results := by
  cases failure <;> simp [finish]

@[simp] theorem results_answered (response : Response) (inbox : Option Nat) :
    (run.answered response inbox).results =
      run.results ++ [run.command.responseLine response] := by
  cases inbox <;> simp [answered]

end Results

variable {run later last : Run} {move : Move}

/-- What a move of the worker or the network comes to: a change of the link, and log lines. -/
theorem background_of_move (moved : run.move move = some later) (other : move ≠ .step) :
    ∃ link printed, Link.Works run.link move.arrival? link ∧
      later = { run with link, printed } ∧ later.results = run.results := by
  cases move with
  | step => exact (other rfl).elim
  | work =>
      obtain ⟨link, worked, rfl⟩ := worked_of_move moved
      exact ⟨link, run.printed, Link.works_of_work worked, rfl, rfl⟩
  | arrive arrival =>
      simp only [Run.move, hear, Option.map_eq_some_iff] at moved
      obtain ⟨link, heard, rfl⟩ := moved
      have change := Link.works_of_hear heard
      cases arrival with
      | unreachable | unusable =>
          exact ⟨link, _, change, rfl, by simp [results, print, Line.plain?]⟩
      | broken reason =>
          dsimp only
          split
          · exact ⟨link, _, change, rfl, rfl⟩
          · exact ⟨link, _, change, rfl, by simp [results, print, Line.plain?]⟩
      | _ => exact ⟨link, _, change, rfl, rfl⟩

theorem kept_of_moves {moves : List Move} (ran : run.moves moves = some last) :
    last.command = run.command ∧ last.link.settings = run.link.settings := by
  induction moves generalizing run with
  | nil =>
      cases ran
      exact ⟨rfl, rfl⟩
  | cons move others ih =>
      obtain ⟨next, moved, continued⟩ := moves_cons_eq_some.mp ran
      obtain ⟨command, settings⟩ := ih continued
      have kept : next.command = run.command ∧ next.link.settings = run.link.settings := by
        by_cases own : move = .step
        · subst own
          exact kept_of_steps (steps_of_step moved)
        · obtain ⟨link, printed, change, rfl, _⟩ := background_of_move moved own
          exact ⟨rfl, (Link.grows_of_works change).settings⟩
      exact ⟨command.trans kept.1, settings.trans kept.2⟩

structure Underway (run : Run) : Prop where
  active : ∃ action, run.command.action = some action
  stage : run.stage.Underway
  speaks : run.link.exchange.revision = run.link.revision
  placed : run.link.Placed
  follows : ∃ ceased, run.link.worker.Follows ceased
  few : run.link.exchange.inboxes.length ≤ 1

section Underway

theorem Underway.carry (underway : Underway run) (command : later.command = run.command)
    (stage : later.stage.Underway) {exchange : Exchange}
    (link : later.link = { run.link with exchange })
    (revision : exchange.revision = run.link.exchange.revision)
    (inboxes : exchange.inboxes.length = run.link.exchange.inboxes.length) : Underway later where
  active := by rw [command]; exact underway.active
  stage := stage
  speaks := by rw [link]; exact revision.trans underway.speaks
  placed := by rw [link]; exact placed_of_exchange underway.placed exchange
  follows := by rw [link]; exact underway.follows
  few := by rw [link]; exact inboxes.trans_le underway.few

theorem Underway.advance (underway : Underway run) {task next : Task} {link : Link} {stage : Stage}
    (ordinary : task.Ordinary) (goes : stage.Underway)
    (change : Task.Changes .grants run.link task next link) :
    Underway { run with link, stage } ∧ link.worker = run.link.worker := by
  have same := Task.worker_of_ordinary ordinary change
  refine ⟨⟨underway.active, goes, ?_, ?_, ?_, ?_⟩, same⟩
  · rw [Task.exchange_revision_of_changes change, Task.revision_of_changes change]
    exact underway.speaks
  · refine Link.placed_of_changes underway.placed ?_ change
    rintro reason rfl
    exact ordinary.elim
  · rw [same]
    exact underway.follows
  · rw [Task.length_inboxes_of_ordinary ordinary change]
    exact underway.few

theorem exchange_of_collect {exchange after : Exchange} {ticket : Nat} {outcome : Option Outcome}
    (collected : exchange.collect ticket = (outcome, after)) :
    after.revision = exchange.revision ∧ after.inboxes = exchange.inboxes := by
  unfold Exchange.collect at collected
  split at collected <;> cases collected <;> exact ⟨rfl, rfl⟩

theorem exchange_of_take_from {number : Nat} {taking : Taking} {after : Run}
    (taken : run.takeFrom number = some (taking, after)) :
    ∃ exchange, after = { run with link := { run.link with exchange } } ∧
      exchange.revision = run.link.exchange.revision ∧
      exchange.inboxes.length = run.link.exchange.inboxes.length := by
  rcases take_from_cases taken with ⟨_, rfl⟩ | ⟨inbox, chunk, feed, _, _, _, rfl⟩
  · exact ⟨_, rfl, rfl, rfl⟩
  · exact ⟨_, rfl, rfl, by simp [Exchange.setInbox]⟩

/-- A run goes on by itself in the same way, and leaves the worker where it is. -/
theorem underway_of_steps (underway : Underway run) (stepped : Steps run later) :
    Underway later ∧ later.link.worker = run.link.worker := by
  have stage := underway.stage
  cases stepped with
  | begin place | giveUp place | subscribe _ place =>
      rw [place] at stage
      exact stage.elim
  | send task next inbox link place change | close task next link place change
  | leave task next failure link place change =>
      rw [place] at stage
      exact underway.advance stage (Task.ordinary_of_changes stage change) change
  | sent | unsent | unclaimed => exact ⟨underway.carry rfl trivial rfl rfl rfl, rfl⟩
  | answer ticket inbox response exchange place collected =>
      obtain ⟨revision, inboxes⟩ := exchange_of_collect collected
      cases inbox <;>
        exact ⟨underway.carry rfl trivial rfl revision (congrArg List.length inboxes), rfl⟩
  | fail ticket inbox cause exchange place collected =>
      obtain ⟨revision, inboxes⟩ := exchange_of_collect collected
      exact ⟨underway.carry rfl trivial rfl revision (congrArg List.length inboxes), rfl⟩
  | skip response inbox taking after place taken =>
      obtain ⟨exchange, rfl, revision, inboxes⟩ := exchange_of_take_from taken
      rw [skipped_eq]
      exact ⟨underway.carry rfl trivial rfl revision inboxes, rfl⟩
  | report inbox chunk after place taken =>
      obtain ⟨exchange, rfl, revision, inboxes⟩ := exchange_of_take_from taken
      exact ⟨underway.carry rfl stage rfl revision inboxes, rfl⟩
  | stop inbox taking after place taken =>
      obtain ⟨exchange, rfl, revision, inboxes⟩ := exchange_of_take_from taken
      exact ⟨underway.carry rfl trivial rfl revision inboxes, rfl⟩
  | closed receipt place =>
      unfold closed
      split <;> exact ⟨underway.carry rfl trivial rfl rfl rfl, rfl⟩
  | finish receipt failure place =>
      cases failure <;> exact ⟨underway.carry rfl trivial rfl rfl rfl, rfl⟩

theorem underway_of_works {cause : Option Arrival} {link : Link} {printed : List Line}
    (underway : Underway run) (change : Link.Works run.link cause link) :
    Underway { run with link, printed } where
  active := underway.active
  stage := underway.stage
  speaks := by
    rw [Link.exchange_revision_of_works change, Link.revision_of_works change]
    exact underway.speaks
  placed := Link.placed_of_works underway.placed change
  follows := Link.follows_of_works underway.follows change
  few := by
    rw [Link.length_inboxes_of_works change]
    exact underway.few

theorem underway_of_move (underway : Underway run) (moved : run.move move = some later) :
    Underway later := by
  by_cases own : move = .step
  · subst own
    exact (underway_of_steps underway (steps_of_step moved)).1
  · obtain ⟨link, printed, change, rfl, _⟩ := background_of_move moved own
    exact underway_of_works underway change

/-- What a run takes from its inbox: the next chunk that has come in, if it has arrived; otherwise
it waits until the inbox is closed. -/
theorem take_from_of_stores {chunks : List Bytes} {taken : Nat}
    (stores : run.link.Stores chunks taken) :
    (∃ chunk exchange, chunks[taken]? = some chunk ∧
      run.takeFrom 0 = some (.chunk chunk, { run with link := { run.link with exchange } }) ∧
        ({ run.link with exchange } : Link).Stores chunks (taken + 1)) ∨
      chunks.drop taken = run.link.worker.waiting (.inbox 0) ∧
        run.takeFrom 0 = if run.link.worker = .ended then some (.disconnected, run) else none := by
  obtain ⟨arrived, split, within, here⟩ := stores
  rcases take_from_of_inbox here with ⟨chunk, next, takes⟩ | ⟨all, takes⟩
  · have bound := (List.getElem?_eq_some_iff.mp next).1
    refine .inl ⟨chunk, _, ?_, takes, arrived, split, bound, ?_⟩
    · rw [split, List.getElem?_append_left bound, next]
    · simp [Exchange.setInbox, here]
  · refine .inr ⟨?_, takes⟩
    rw [split, List.drop_append_of_le_length within, List.drop_eq_nil_of_le all, List.nil_append]

/-! ## Left to itself -/

/-- What a run and its worker can still do by themselves. A chunk that the worker has still to put
into the inbox is one more that the run may print. -/
def labour (run : Run) : Nat := run.remaining + 2 * run.link.worker.remaining

theorem backlog_publish_le (exchange : Exchange) (chunk : Bytes) :
    (exchange.publish chunk).backlog ≤ exchange.backlog + exchange.inboxes.length := by
  simp only [Exchange.backlog, Exchange.publish, List.flatMap_map, List.length_flatMap]
  induction exchange.inboxes with
  | nil => simp
  | cons inbox others ih =>
      have here : (inbox.accept chunk).feed.queued.length ≤ inbox.feed.queued.length + 1 := by
        unfold Inbox.accept
        split <;> simp only [Feed.queued, Feed.push, List.length_drop, List.length_append,
          List.length_singleton] <;> omega
      simp only [List.map_cons, List.sum_cons, List.length_cons]
      omega

theorem backlog_of_work {link changed : Link} (few : link.exchange.inboxes.length ≤ 1)
    (change : Link.Works link none changed) :
    changed.exchange.backlog ≤ link.exchange.backlog + 1 := by
  cases change with
  | publish bytes =>
      have more := backlog_publish_le link.exchange bytes
      simp only [Link.mapExchange]
      omega
  | reject => exact (Exchange.backlog_conclude _ _).trans_le (Nat.le_succ _)
  | closeInboxes => exact (Exchange.backlog_close_inboxes _).trans_le (Nat.le_succ _)
  | _ => exact Nat.le_succ _

theorem labour_of_steps (stepped : Steps run later)
    (same : later.link.worker = run.link.worker) : later.labour < run.labour := by
  have nearer := remaining_of_steps stepped
  rw [labour, labour, same]
  omega

theorem labour_of_work {link : Link} (few : run.link.exchange.inboxes.length ≤ 1)
    (worked : run.link.work = some link) : ({ run with link } : Run).labour < run.labour := by
  have nearer := Link.work_remaining worked
  have more := backlog_of_work few (Link.works_of_work worked)
  have stage : ({ run with link } : Run).remaining ≤ run.remaining + 1 := by
    simp only [remaining, queued_eq_backlog]
    cases run.stage <;> simp only <;> omega
  simp only [labour]
  omega

theorem labour_of_move (underway : Underway run) (own : move.arrival? = none)
    (moved : run.move move = some later) : later.labour < run.labour := by
  cases move with
  | step =>
      have steps := steps_of_step moved
      exact labour_of_steps steps (underway_of_steps underway steps).2
  | work =>
      obtain ⟨link, worked, rfl⟩ := worked_of_move moved
      exact labour_of_work underway.few worked
  | arrive arrival => cases own

/-- Where every move of the run and its worker takes labour away, there are no more of them than
that. -/
theorem length_of_falling_moves (keeps : Run → Prop)
    (falls : ∀ {before after : Run} {move : Move}, keeps before → move.arrival? = none →
      before.move move = some after → keeps after ∧ after.labour < before.labour)
    {moves : List Move} (holds : keeps run) (own : ∀ move ∈ moves, move.arrival? = none)
    (ran : run.moves moves = some last) : moves.length ≤ run.labour := by
  induction moves generalizing run with
  | nil => exact Nat.zero_le _
  | cons move others ih =>
      obtain ⟨next, moved, continued⟩ := moves_cons_eq_some.mp ran
      obtain ⟨still, nearer⟩ := falls holds (own move List.mem_cons_self) moved
      have within := ih still (fun other member => own other (List.mem_cons_of_mem _ member))
        continued
      rw [List.length_cons]
      omega

theorem length_of_own_moves {moves : List Move} (underway : Underway run)
    (own : ∀ move ∈ moves, move.arrival? = none) (ran : run.moves moves = some last) :
    moves.length ≤ run.labour := by
  refine length_of_falling_moves Underway (fun current mine moved => ?_) underway own ran
  exact ⟨underway_of_move current moved, labour_of_move current mine moved⟩

end Underway

end Run

end Console

end WatchLink
