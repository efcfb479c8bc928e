import WatchLink.Proofs.Console.Registering
import WatchLink.Proofs.Console.Scheduling

/-!
# One action goes out

A run whose command sends an action and does not watch writes the message of that action once, and
nothing else, whatever the worker and the network do meanwhile. `Delivering` says how far such a run
has come; `delivers_of_errand` is what the server gets of it.
-/

namespace WatchLink

set_option autoImplicit false

def Arrival.Peaceful : Arrival → Prop
  | accepted | chunk _ => True
  | _ => False

namespace Link

variable {link later : Link} {cause : Option Arrival} {opening : Opening}

def Clear (link : Link) : Prop :=
  match link.worker with
  | .dialing | .publishing => link.phase = .connecting
  | .announcing | .reading | .publishingChunk _ | .notifying _ => link.writable = true
  | _ => False

theorem clear_of_works (peaceful : ∀ arrival, cause = some arrival → arrival.Peaceful)
    (clear : link.Clear) (change : Works link cause later) : later.Clear := by
  unfold Clear at clear
  cases change with
  | dial place =>
      rw [place] at clear
      exact clear
  | fail place reason | spoil place reason => exact (peaceful _ rfl).elim
  | lose place arrival ends =>
      have refuted := peaceful arrival rfl
      rcases ends with rfl | ⟨reason, rfl⟩ <;> exact refuted.elim
  | forestall place closed => simp [place, closed] at clear
  | connect => rfl
  | answer place | announce place | publish _ place | notify _ place =>
      rw [place] at clear
      exact clear
  | sever _ place | reject _ place | closeInboxes _ _ place | fire _ place =>
      simp [place] at clear

/-- Where the signal has fired on such a link, the link can be written to. -/
theorem writable_of_clear (placed : link.Placed) (clear : link.Clear)
    (fired : link.signal.opening = some opening) : opening = .ready ∧ link.writable = true := by
  have heralds := placed.heralds
  unfold Clear at clear
  rw [fired] at heralds
  cases worker : link.worker <;> simp_all [Worker.Heralds]

theorem fired_of_works (fired : link.signal.opening = some opening)
    (change : Works link cause later) : later.signal.opening = some opening := by
  cases change with
  | announce | fire => exact Signal.opening_fire_of_some fired _
  | _ => exact fired

end Link

namespace Console

/-- The stages of a run that has nothing to write any more. -/
def Stage.Silent : Stage → Prop
  | opening | subscribing _ => False
  | sending task _ | closing task | leaving task _ => task.Mute ∧ task.Ordinary
  | _ => True

namespace Run

variable {run later last : Run} {action : Action} {message : Bytes} {calm : Prop}

/-- What a run leaves as it is when it goes on by itself. -/
structure Leaves (run later : Run) : Prop where
  worker : later.link.worker = run.link.worker
  inboxes : later.link.exchange.inboxes.length = run.link.exchange.inboxes.length

theorem leaves_of_changes {task next : Task} {link : Link} {stage : Stage}
    (ordinary : task.Ordinary) (change : Task.Changes .grants run.link task next link) :
    Leaves run { run with link, stage } where
  worker := Task.worker_of_ordinary ordinary change
  inboxes := Task.length_inboxes_of_ordinary ordinary change

theorem silent_of_steps (modern : run.link.revision ≠ .v1) (silent : run.stage.Silent)
    (stepped : Steps run later) :
    later.stage.Silent ∧ later.link.sent = run.link.sent ∧ Leaves run later := by
  cases stepped with
  | begin place | giveUp place | subscribe _ place =>
      rw [place] at silent
      exact silent.elim
  | send task next inbox link place change | close task next link place change
  | leave task next failure link place change =>
      rw [place] at silent
      obtain ⟨mute, ordinary⟩ := silent
      exact ⟨⟨Task.mute_of_changes mute change, Task.ordinary_of_changes ordinary change⟩,
        Task.sent_of_mute mute modern change, leaves_of_changes ordinary change⟩
  | sent | unsent | unclaimed => exact ⟨by trivial, rfl, rfl, rfl⟩
  | answer ticket inbox response exchange place collected =>
      have inboxes := congrArg List.length (exchange_of_collect collected).2
      cases inbox with
      | none => exact ⟨⟨trivial, trivial⟩, rfl, rfl, inboxes⟩
      | some inbox => exact ⟨trivial, rfl, rfl, inboxes⟩
  | fail ticket inbox cause exchange place collected =>
      have inboxes := congrArg List.length (exchange_of_collect collected).2
      exact ⟨⟨trivial, trivial⟩, rfl, rfl, inboxes⟩
  | skip response inbox taking after place taken =>
      obtain ⟨exchange, rfl, _, inboxes⟩ := exchange_of_take_from taken
      rw [skipped_eq]
      exact ⟨trivial, rfl, rfl, inboxes⟩
  | report inbox chunk after place taken =>
      obtain ⟨exchange, rfl, _, inboxes⟩ := exchange_of_take_from taken
      exact ⟨silent, rfl, rfl, inboxes⟩
  | stop inbox taking after place taken =>
      obtain ⟨exchange, rfl, _, inboxes⟩ := exchange_of_take_from taken
      exact ⟨⟨trivial, trivial⟩, rfl, rfl, inboxes⟩
  | closed receipt place =>
      unfold closed
      split <;> exact ⟨⟨trivial, trivial⟩, rfl, rfl, rfl⟩
  | finish receipt failure place =>
      cases failure <;> exact ⟨trivial, rfl, rfl, rfl⟩

/-! ## How far the action has come -/

/-- The run is to send this action, of which this is the message, and does not watch. -/
structure Errand (action : Action) (message : Bytes) (run : Run) : Prop where
  asks : run.command.action = some action
  single : ∀ mode tag, run.command ≠ .watch mode tag
  modern : run.link.revision ≠ .v1
  encoded : action.encode run.link.revision = .ok message

theorem Errand.carry (errand : Errand action message run) (command : later.command = run.command)
    (settings : later.link.settings = run.link.settings) : Errand action message later := by
  have revision : later.link.revision = run.link.revision := congrArg Settings.revision settings
  refine ⟨?_, ?_, ?_, ?_⟩
  · rw [command]
    exact errand.asks
  · rw [command]
    exact errand.single
  · rw [revision]
    exact errand.modern
  · rw [revision]
    exact errand.encoded

/-- Where a run can stand that has its action still to write. -/
inductive Poised (action : Action) (run : Run) : Prop where
  | opening (place : run.stage = .opening) (unclaimed : run.link.Unclaimed)
  | registering (place : run.stage = .sending (.registering action) none)
      (unclaimed : run.link.Unclaimed) (ready : run.link.signal.opening = some .ready)
  | writing (ticket : Nat) (place : run.stage = .sending (.writing action (some ticket)) none)
      (placed : run.link.Placed) (unsent : run.link.sent = [])
      (ready : run.link.signal.opening = some .ready)

/-- How far a run has come with its action. Where the network is calm, nothing can come in the way
of a link that has been set to work. -/
inductive Delivering (action : Action) (message : Bytes) (calm : Prop) (run : Run) : Prop where
  | poised (stands : Poised action run) (clear : calm → run.link.Clear)
  | said (silent : run.stage.Silent) (sent : run.link.sent = message)
  | unsaid (silent : run.stage.Silent) (unsent : run.link.sent = [])
      (idle : calm → run.link.worker = .absent)

theorem unsent_of_poised (modern : run.link.revision ≠ .v1) (poised : Poised action run) :
    run.link.sent = [] := by
  cases poised with
  | opening _ unclaimed | registering _ unclaimed => exact unclaimed.unsent modern
  | writing _ _ _ unsent => exact unsent

theorem opened_of_errand (errand : Errand action message run) :
    ∃ printed, run.opened =
      { run with stage := .sending (.registering action) none, printed } := by
  have asks := errand.asks
  have single := errand.single
  unfold opened
  dsimp only
  split
  next watches _ => exact (single _ _ watches).elim
  next found _ =>
    cases found.symm.trans asks
    exact ⟨_, rfl⟩
  next found =>
    cases found.symm.trans asks

/-- The action is registered, and written once the link is open. -/
theorem delivering_of_poised (errand : Errand action message run) (poised : Poised action run)
    (clear : calm → run.link.Clear) (stepped : Steps run later) :
    Delivering action message calm later ∧ Leaves run later := by
  cases poised with
  | opening place unclaimed =>
      cases stepped with
      | begin _ opening fired ready =>
          have here : opening = .ready := by cases opening <;> first | rfl | cases ready
          subst here
          obtain ⟨printed, same⟩ := opened_of_errand errand
          rw [same]
          exact ⟨.poised (.registering rfl unclaimed fired) clear, rfl, rfl⟩
      | giveUp _ opening cause fired failed =>
          refine ⟨.unsaid ⟨trivial, trivial⟩ (unclaimed.unsent errand.modern) ?_, rfl, rfl⟩
          -- On a clear link the signal fires for nothing but an open link.
          intro smooth
          obtain ⟨rfl, _⟩ := Link.writable_of_clear unclaimed.placed (clear smooth) fired
          cases failed
      | _ => simp_all
  | registering place unclaimed ready =>
      cases stepped with
      | send task next inbox link found change =>
          obtain ⟨rfl, rfl⟩ := Stage.sending.inj (found.symm.trans place)
          have ordinary : (Task.registering action).Ordinary := trivial
          refine ⟨?_, leaves_of_changes ordinary change⟩
          cases change with
          | registerTwice _ taken => exact (taken unclaimed.awaiting).elim
          | register _ ticket exchange registered =>
              refine .poised (.writing ticket rfl ?_ ?_ ready) clear
              · exact placed_of_exchange unclaimed.placed exchange
              · exact unclaimed.unsent errand.modern
      | _ => simp_all
  | writing ticket place placed unsent ready =>
      cases stepped with
      | send task next inbox link found change =>
          obtain ⟨rfl, rfl⟩ := Stage.sending.inj (found.symm.trans place)
          have ordinary : (Task.writing action (some ticket)).Ordinary := trivial
          refine ⟨?_, leaves_of_changes ordinary change⟩
          cases change with
          | nothingToWriteTo _ _ unwritable =>
              refine .unsaid ⟨trivial, trivial⟩ unsent fun smooth => ?_
              have writable := (Link.writable_of_clear placed (clear smooth) ready).2
              cases writable.symm.trans unwritable
          | write _ _ bytes writable encoded =>
              cases encoded.symm.trans errand.encoded
              exact .said ⟨trivial, trivial⟩ (by simp [unsent])
          | unsayable _ _ cause writable unsaid => cases unsaid.symm.trans errand.encoded
          | writeFails _ _ _ _ _ _ _ refused => cases refused
      | _ => simp_all

theorem delivering_of_steps (errand : Errand action message run)
    (delivering : Delivering action message calm run) (stepped : Steps run later) :
    Delivering action message calm later ∧ Leaves run later := by
  cases delivering with
  | poised stands clear => exact delivering_of_poised errand stands clear stepped
  | said silent sent =>
      obtain ⟨still, same, leaves⟩ := silent_of_steps errand.modern silent stepped
      exact ⟨.said still (same.trans sent), leaves⟩
  | unsaid silent unsent idle =>
      obtain ⟨still, same, leaves⟩ := silent_of_steps errand.modern silent stepped
      exact ⟨.unsaid still (same.trans unsent) fun smooth => leaves.worker.trans (idle smooth),
        leaves⟩

theorem poised_of_works {cause : Option Arrival} {link : Link} {printed : List Line}
    (modern : run.link.revision ≠ .v1) (poised : Poised action run)
    (change : Link.Works run.link cause link) : Poised action { run with link, printed } := by
  cases poised with
  | opening place unclaimed => exact .opening place (Link.unclaimed_of_works unclaimed change)
  | registering place unclaimed ready =>
      exact .registering place (Link.unclaimed_of_works unclaimed change)
        (Link.fired_of_works ready change)
  | writing ticket place placed unsent ready =>
      exact .writing ticket place (Link.placed_of_works placed change)
        ((Link.sent_of_works modern change).trans unsent) (Link.fired_of_works ready change)

/-- What the worker and the network do stops the action only before it is written, and only where
the network is not calm. -/
theorem delivering_of_works {cause : Option Arrival} {link : Link} {printed : List Line}
    (modern : run.link.revision ≠ .v1)
    (peaceful : calm → run.link.sent = [] → ∀ arrival, cause = some arrival → arrival.Peaceful)
    (delivering : Delivering action message calm run)
    (change : Link.Works run.link cause link) :
    Delivering action message calm { run with link, printed } := by
  have sent := Link.sent_of_works modern change
  cases delivering with
  | poised stands clear =>
      refine .poised (poised_of_works modern stands change) fun smooth => ?_
      exact Link.clear_of_works (peaceful smooth (unsent_of_poised modern stands)) (clear smooth)
        change
  | said silent same => exact .said silent (sent.trans same)
  | unsaid silent unsent idle =>
      exact .unsaid silent (sent.trans unsent) fun smooth =>
        ((Link.begun_of_works change).1 (idle smooth)).elim

/-! ## Over a whole schedule -/

/-- The network ends no link by which nothing has been sent. -/
def Patient (run : Run) (moves : List Move) : Prop :=
  ∀ before arrival behind reached, moves = before ++ .arrive arrival :: behind →
    run.moves before = some reached → reached.link.sent = [] → arrival.Peaceful

theorem Patient.tail {move : Move} {others : List Move} (patient : Patient run (move :: others))
    (moved : run.move move = some later) : Patient later others := by
  intro before arrival behind reached split ran unsent
  exact patient (move :: before) arrival behind reached (by rw [split]; rfl)
    (moves_cons_eq_some.mpr ⟨later, moved, ran⟩) unsent

theorem patient_of_accepted {moves : List Move}
    (only : ∀ arrival, .arrive arrival ∈ moves → arrival = .accepted) : Patient run moves := by
  rintro before arrival behind reached rfl ran unsent
  obtain rfl := only arrival (by simp)
  trivial

structure Goes (action : Action) (message : Bytes) (calm : Prop) (run later : Run) : Prop where
  errand : Errand action message later
  delivering : Delivering action message calm later
  inboxes : later.link.exchange.inboxes.length = run.link.exchange.inboxes.length
  heard : ¬run.link.worker.Unheard → ¬later.link.worker.Unheard

theorem goes_of_move {move : Move} (errand : Errand action message run)
    (peaceful : calm → run.link.sent = [] → ∀ arrival, move = .arrive arrival → arrival.Peaceful)
    (delivering : Delivering action message calm run) (moved : run.move move = some later) :
    Goes action message calm run later ∧
      ∀ arrival, move = .arrive arrival → ¬later.link.worker.Unheard := by
  by_cases own : move = .step
  · subst own
    have steps := steps_of_step moved
    obtain ⟨command, settings⟩ := kept_of_steps steps
    obtain ⟨still, leaves⟩ := delivering_of_steps errand delivering steps
    refine ⟨⟨errand.carry command settings, still, leaves.inboxes, ?_⟩, nofun⟩
    rw [leaves.worker]
    exact id
  · obtain ⟨link, printed, change, rfl, _⟩ := background_of_move moved own
    have heard := Link.not_unheard_of_works change
    refine ⟨⟨errand.carry rfl (Link.grows_of_works change).settings, ?_,
      Link.length_inboxes_of_works change, fun _ => heard⟩, fun _ _ => heard⟩
    refine delivering_of_works errand.modern ?_ delivering change
    intro smooth unsent arrival comes
    refine peaceful smooth unsent arrival ?_
    cases move with
    | arrive found => exact congrArg Move.arrive (Option.some.inj comes)
    | step | work => cases comes

theorem goes_of_moves {moves : List Move} (errand : Errand action message run)
    (patient : calm → Patient run moves) (delivering : Delivering action message calm run)
    (ran : run.moves moves = some last) :
    Goes action message calm run last ∧
      ∀ arrival, .arrive arrival ∈ moves → ¬last.link.worker.Unheard := by
  -- The network is patient in the rest of the schedule, too, so each move hands all of it on.
  induction moves generalizing run with
  | nil =>
      cases ran
      exact ⟨⟨errand, delivering, rfl, id⟩, nofun⟩
  | cons move others ih =>
      obtain ⟨next, moved, continued⟩ := moves_cons_eq_some.mp ran
      have peaceful : calm → run.link.sent = [] →
          ∀ arrival, move = .arrive arrival → arrival.Peaceful := by
        rintro smooth unsent arrival rfl
        exact patient smooth [] arrival others run rfl rfl unsent
      obtain ⟨first, heard⟩ := goes_of_move errand peaceful delivering moved
      obtain ⟨rest, heardLater⟩ := ih first.errand (fun smooth => (patient smooth).tail moved)
        first.delivering continued
      refine ⟨⟨rest.errand, rest.delivering, rest.inboxes.trans first.inboxes,
        fun before => rest.heard (first.heard before)⟩, ?_⟩
      intro arrival member
      rcases List.mem_cons.mp member with here | there
      · exact rest.heard (heard arrival here.symm)
      · exact heardLater arrival there

/-- Such a run that has come to rest has delivered its message. -/
theorem sent_of_rest (delivering : Delivering action message True run)
    (heard : ¬run.link.worker.Unheard) (still : run.step = none)
    (asleep : run.link.work = none) : run.link.sent = message := by
  cases delivering with
  | said _ sent => exact sent
  | unsaid _ _ idle =>
      rw [idle trivial] at heard
      exact (heard trivial).elim
  | poised stands clear =>
      cases stands with
      | opening place unclaimed =>
          have unfired : run.link.signal.opening = none := by
            simpa [step, place] using still
          have reading : run.link.worker = .reading := by
            have usable := clear trivial
            rcases Link.waits_of_work_eq_none asleep with worker | worker | worker | worker
            · simp [Link.Clear, worker] at usable
            · rw [worker] at heard
              exact (heard trivial).elim
            · exact worker
            · simp [Link.Clear, worker] at usable
          have heralds := unclaimed.placed.heralds
          rw [reading, unfired] at heralds
          cases heralds
      | registering place =>
          simp only [step, place, advance, Task.receipt?, Task.advance] at still
          split at still <;> cases still
      | writing ticket place =>
          simp only [step, place, advance, Task.receipt?, Task.advance] at still
          split at still
          · cases still
          · split at still <;> cases still

/-- What is left to a run and its worker to do brings it to rest. -/
theorem length_of_own_moves_of_delivering {moves : List Move} (errand : Errand action message run)
    (delivering : Delivering action message False run)
    (few : run.link.exchange.inboxes.length ≤ 1) (own : ∀ move ∈ moves, move.Own)
    (ran : run.moves moves = some last) : moves.length ≤ run.labour := by
  refine length_of_falling_moves (fun current => Errand action message current ∧
    Delivering action message False current ∧ current.link.exchange.inboxes.length ≤ 1) ?_
    ⟨errand, delivering, few⟩ own ran
  rintro before after move ⟨current, stands, narrow⟩ mine moved
  have goes := (goes_of_move current False.elim stands moved).1
  refine ⟨⟨goes.errand, goes.delivering, goes.inboxes.trans_le narrow⟩, ?_⟩
  cases move with
  | step =>
      have steps := steps_of_step moved
      exact labour_of_steps steps (delivering_of_steps current stands steps).2.worker
  | work =>
      obtain ⟨link, worked, rfl⟩ := worked_of_move moved
      exact labour_of_work narrow worked
  | arrive arrival => cases mine

theorem sent_of_silent_moves {moves : List Move} (modern : run.link.revision ≠ .v1)
    (silent : run.stage.Silent) (ran : run.moves moves = some last) :
    last.link.sent = run.link.sent := by
  induction moves generalizing run with
  | nil =>
      cases ran
      rfl
  | cons move others ih =>
      obtain ⟨next, moved, continued⟩ := moves_cons_eq_some.mp ran
      by_cases own : move = .step
      · subst own
        have steps := steps_of_step moved
        obtain ⟨still, same, _⟩ := silent_of_steps modern silent steps
        have revision : next.link.revision = run.link.revision :=
          congrArg Settings.revision (kept_of_steps steps).2
        exact (ih (revision ▸ modern) still continued).trans same
      · obtain ⟨link, printed, change, rfl, _⟩ := background_of_move moved own
        have still : ({ run with link, printed } : Run).stage.Silent := silent
        exact (ih (Link.revision_of_works change ▸ modern) still continued).trans
          (Link.sent_of_works modern change)

/-! ## What the server gets -/

/-- A run that is begun so gives the server this message and nothing else. -/
structure Delivers (invocation : Invocation) (message : Bytes) : Prop where
  /-- Whatever the worker and the network do, nothing else is ever sent. -/
  only : ∀ moves last, (begin invocation).moves moves = some last →
    last.link.sent = [] ∨ last.link.sent = message
  /-- A server that accepts, and ends no link by which nothing has been sent, has the message once
  the run and its worker have nothing to do. -/
  surely : ∀ moves last, (begin invocation).moves moves = some last →
    .arrive .accepted ∈ moves → Patient (begin invocation) moves →
      last.step = none → last.link.work = none → last.link.sent = message
  /-- Left to themselves, they soon have nothing to do. -/
  soon : ∀ moves last, (begin invocation).moves moves = some last →
    ∃ bound, ∀ more final, (∀ move ∈ more, move.Own) → last.moves more = some final →
      more.length ≤ bound
  /-- So it is where the program takes its turns with a server that accepts. -/
  performed : invocation.host ≠ "" → ∀ turns,
    ((begin invocation).account .accepts turns).sent = message

theorem begin_cases (invocation : Invocation) :
    (invocation.host = "" ∧ (begin invocation).stage = .finished 1 ∧
        (begin invocation).link =
          { settings := (begin invocation).link.settings
            exchange := { revision := invocation.revision } }) ∨
      (begin invocation).stage = .opening ∧
        (begin invocation).link =
          { settings := (begin invocation).link.settings
            phase := .connecting
            worker := .dialing
            exchange := { revision := invocation.revision } } := by
  unfold begin
  dsimp only
  split
  next refused =>
    refine .inl ⟨?_, rfl, rfl⟩
    by_contra named
    simp [Settings.validate, named] at refused
  next =>
    rw [Link.call_start_of_disconnected rfl]
    exact .inr ⟨rfl, rfl⟩

theorem errand_of_begin {invocation : Invocation}
    (asks : invocation.command.action = some action)
    (single : ∀ mode tag, invocation.command ≠ .watch mode tag) (modern : invocation.revision ≠ .v1)
    (encoded : action.encode invocation.revision = .ok message) :
    Errand action message (begin invocation) := by
  obtain ⟨command, revision⟩ := kept_of_begin invocation
  rw [← command] at asks single
  rw [← revision] at modern encoded
  exact ⟨asks, single, modern, encoded⟩

/-- A run whose settings are no good has nothing to write, and its link stays as it was. -/
theorem delivering_of_begin (invocation : Invocation) :
    Delivering action message calm (begin invocation) := by
  rcases begin_cases invocation with ⟨_, place, link⟩ | ⟨place, link⟩
  · refine .unsaid ?_ ?_ fun _ => ?_
    · rw [place]
      trivial
    · rw [link]
    · rw [link]
  · refine .poised (.opening place ?_) fun _ => ?_
    · have revision := (kept_of_begin invocation).2
      rw [link]
      exact ⟨revision.symm, placed_of_dialing _ _, rfl, rfl, rfl, fun _ => rfl⟩
    · rw [link]
      rfl

/-- Where the program takes its turns, the server that has accepted has the message at once. -/
theorem said_of_dial (errand : Errand action message run)
    (delivering : ∀ calm, Delivering action message calm run)
    (dialing : run.link.worker = .dialing) :
    Goes action message True run (run.dial .accepts) ∧
      (run.dial .accepts).link.sent = message := by
  obtain ⟨heard, hears⟩ : ∃ heard, run.hear .accepted = some heard := by
    simp [hear, Link.hear, dialing]
  have moved : run.move (.arrive .accepted) = some heard := hears
  have dialed : run.dial .accepts = heard.goOn := by rw [dial, deal, hears, Option.getD_some]
  have first := (goes_of_move errand False.elim (delivering False) moved).1
  -- That both come to rest needs no calm; what has been sent by then does.
  have rests : heard.goOn.step = none ∧ heard.goOn.link.work = none := by
    refine at_rest_of_go_on (fun current =>
      Errand action message current ∧ Delivering action message False current) ?_ ?_
    · rintro before after ⟨current, goes⟩ stepped
      obtain ⟨command, settings⟩ := kept_of_steps stepped
      obtain ⟨still, leaves⟩ := delivering_of_steps current goes stepped
      exact ⟨⟨current.carry command settings, still⟩, leaves.worker⟩
    · obtain ⟨moves, _, ran⟩ := leads_work_at_most heard.link.worker.remaining heard
      have goes := (goes_of_moves first.errand False.elim first.delivering ran).1
      exact ⟨goes.errand, goes.delivering⟩
  obtain ⟨moves, own, ran⟩ := leads_go_on heard
  have ranOn : run.moves (.arrive .accepted :: moves) = some heard.goOn :=
    moves_cons_eq_some.mpr ⟨heard, moved, ran⟩
  have patient : Patient run (.arrive .accepted :: moves) := by
    refine patient_of_accepted fun arrival member => ?_
    rcases List.mem_cons.mp member with here | there
    · exact Move.arrive.inj here
    · cases own _ there
  obtain ⟨goes, reached⟩ := goes_of_moves errand (fun _ => patient) (delivering True) ranOn
  rw [dialed]
  exact ⟨goes, sent_of_rest goes.delivering (reached _ List.mem_cons_self) rests.1 rests.2⟩

theorem sent_of_said {moves : List Move} (errand : Errand action message run)
    (delivering : Delivering action message calm run) (sent : run.link.sent = message)
    (nonempty : message ≠ []) (ran : run.moves moves = some last) : last.link.sent = message := by
  cases delivering with
  | poised stands =>
      rw [unsent_of_poised errand.modern stands] at sent
      exact (nonempty sent.symm).elim
  | said silent | unsaid silent =>
      exact (sent_of_silent_moves errand.modern silent ran).trans sent

theorem delivers_of_errand {invocation : Invocation}
    (asks : invocation.command.action = some action)
    (single : ∀ mode tag, invocation.command ≠ .watch mode tag) (modern : invocation.revision ≠ .v1)
    (encoded : action.encode invocation.revision = .ok message) (nonempty : message ≠ []) :
    Delivers invocation message where
  only moves last ran := by
    have errand := errand_of_begin asks single modern encoded
    have goes := (goes_of_moves errand False.elim (delivering_of_begin invocation) ran).1
    cases goes.delivering with
    | poised stands => exact .inl (unsent_of_poised goes.errand.modern stands)
    | said _ sent => exact .inr sent
    | unsaid _ unsent => exact .inl unsent
  surely moves last ran accepted patient still asleep := by
    have errand := errand_of_begin asks single modern encoded
    obtain ⟨goes, heard⟩ :=
      goes_of_moves errand (fun _ => patient) (delivering_of_begin invocation) ran
    exact sent_of_rest goes.delivering (heard _ accepted) still asleep
  soon moves last ran := by
    have errand := errand_of_begin asks single modern encoded
    have goes := (goes_of_moves errand False.elim (delivering_of_begin invocation) ran).1
    have few : last.link.exchange.inboxes.length ≤ 1 := by
      rw [goes.inboxes]
      rcases begin_cases invocation with ⟨_, _, link⟩ | ⟨_, link⟩ <;> rw [link] <;>
        exact Nat.zero_le _
    exact ⟨last.labour, fun more final own ranOn =>
      length_of_own_moves_of_delivering goes.errand goes.delivering few own ranOn⟩
  performed named turns := by
    have errand := errand_of_begin asks single modern encoded
    obtain ⟨place, link⟩ :=
      (begin_cases invocation).resolve_left fun refused => named refused.1
    have dialing : (begin invocation).link.worker = .dialing := by rw [link]
    obtain ⟨goes, sent⟩ :=
      said_of_dial errand (fun _ => delivering_of_begin invocation) dialing
    obtain ⟨moves, _, ran⟩ := leads_turns ((begin invocation).dial .accepts) turns
    exact sent_of_said goes.errand goes.delivering sent nonempty ran

end Run

end Console

end WatchLink
