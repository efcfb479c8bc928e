import WatchLink.Proofs.Console.Registering

/-!
# What a run makes of its response

The first chunk that comes in after a run has registered its action is its response. `Stands` says
where the run can stand from then on and what it has printed: until its request has gone out, while
it waits, and after it was answered. A run with an inbox throws the first chunk in it away and
prints a line for each of the others, which is `Tells`.
-/

namespace WatchLink

set_option autoImplicit false

namespace Console

def Stage.Departs : Stage → Prop
  | closing _ | leaving _ none => True
  | finished code => code = 0
  | _ => False

namespace Run

/-- The link of a run that has registered its action, and nothing printed. -/
structure Registered (inbox : Option Nat) (early heard : List Bytes) (run : Run) : Prop where
  awaits : run.link.Awaits heard
  stores : ∀ number, inbox = some number → number = 0 ∧ run.link.Stores (early ++ heard) 0
  silent : run.results = []

def Unanswered (heard : List Bytes) (link : Link) : Prop :=
  (heard = [] ∧ link.worker.Sealed) ∨
    ∃ first others cause, heard = first :: others ∧
      Exchange.outcomeOf link.exchange.revision first = .error cause

structure Dealt (response : Response) (run : Run) : Prop where
  departs : run.stage.Departs
  printed : run.results = [run.command.responseLine response]

def recital (command : Command) (response : Response) (chunks : List Bytes) : List String :=
  command.responseLine response :: (reportable response chunks).map pushLine

/-- What a run with an inbox has done about its response and about the chunks in the inbox, once it
has thrown one of them away. -/
inductive Tells (response : Response) (chunks : List Bytes) (run : Run) : Prop where
  | following (taken : Nat) (place : run.stage = .following 0)
      (stores : run.link.Stores chunks (taken + 1))
      (printed : run.results = recital run.command response (chunks.take (taken + 1)))
  | departed (departs : run.stage.Departs) (ended : run.link.worker = .ended)
      (drained : run.link.exchange.backlog = 0)
      (printed : run.results = recital run.command response chunks)

/-- Where a run can stand once it has registered its action: `early` was in its inbox or on the way
there before, and `heard` has come in since. -/
inductive Stands (inbox : Option Nat) (early heard : List Bytes) (run : Run) : Prop where
  | writing (action : Action) (place : run.stage = .sending (.writing action (some 0)) inbox)
      (registered : Registered inbox early heard run)
      (unsent : run.link.revision ≠ .v1 → run.link.sent = [])
  | awaiting
      (place : run.stage = .sending (.finished (.number 0)) inbox ∨
        run.stage = .awaiting 0 inbox)
      (registered : Registered inbox early heard run)
  | dealt (response : Response) (answers : Answers run.link.exchange.revision heard response)
      (alone : inbox = none) (dealt : Dealt response run)
  | skipping (response : Response) (answers : Answers run.link.exchange.revision heard response)
      (here : inbox = some 0) (place : run.stage = .skipping response 0)
      (stores : run.link.Stores (early ++ heard) 0)
      (printed : run.results = [run.command.responseLine response])
  | tells (response : Response) (answers : Answers run.link.exchange.revision heard response)
      (here : inbox = some 0) (tells : Tells response (early ++ heard) run)
  | astray (strays : run.stage.Astray)
      (lost : (run.link.revision ≠ .v1 → run.link.sent = []) ∨ Unanswered heard run.link)

section Registered

variable {run later last : Run} {inbox : Option Nat} {early heard chunks : List Bytes}
  {response : Response}

theorem registered_of_works {cause : Option Arrival} {link : Link} {printed : List Line}
    (registered : Registered inbox early heard run) (underway : Underway run)
    (change : Link.Works run.link cause link)
    (silent : ({ run with link, printed } : Run).results = run.results) :
    Registered inbox early (heard ++ (cause.bind Arrival.chunk?).toList)
      { run with link, printed } where
  awaits := Link.awaits_of_works registered.awaits change
  stores := by
    intro number here
    obtain ⟨rfl, stores⟩ := registered.stores number here
    rw [← List.append_assoc]
    exact ⟨rfl, Link.stores_of_works stores underway.follows change⟩
  silent := silent.trans registered.silent

theorem unanswered_of_works {cause : Option Arrival} {link changed : Link}
    (unanswered : Unanswered heard link) (change : Link.Works link cause changed) :
    Unanswered (heard ++ (cause.bind Arrival.chunk?).toList) changed := by
  rcases unanswered with ⟨rfl, sealed⟩ | ⟨first, others, failure, rfl, outcome⟩
  · obtain ⟨still, rfl⟩ := Link.sealed_of_sealed_works sealed change
    exact .inl ⟨rfl, still⟩
  · refine .inr ⟨first, others ++ (cause.bind Arrival.chunk?).toList, failure, rfl, ?_⟩
    rw [Link.exchange_revision_of_works change]
    exact outcome

theorem tells_of_works {cause : Option Arrival} {link : Link} {printed : List Line}
    (tells : Tells response chunks run) (underway : Underway run)
    (change : Link.Works run.link cause link)
    (same : ({ run with link, printed } : Run).results = run.results) :
    Tells response (chunks ++ (cause.bind Arrival.chunk?).toList) { run with link, printed } := by
  cases tells with
  | following taken place stores told =>
      refine .following taken place (Link.stores_of_works stores underway.follows change) ?_
      obtain ⟨arrived, split, within, _⟩ := stores
      have enough : taken + 1 ≤ chunks.length := by
        rw [split, List.length_append]
        omega
      rw [same, told, List.take_append_of_le_length enough]
  | departed departs ended => exact (not_ended_of_works change ended).elim

theorem stands_of_works {cause : Option Arrival} {link : Link} {printed : List Line}
    (stands : Stands inbox early heard run) (underway : Underway run)
    (change : Link.Works run.link cause link)
    (same : ({ run with link, printed } : Run).results = run.results) :
    Stands inbox early (heard ++ (cause.bind Arrival.chunk?).toList)
      { run with link, printed } := by
  have unsent : (run.link.revision ≠ .v1 → run.link.sent = []) →
      link.revision ≠ .v1 → link.sent = [] := by
    rw [Link.revision_of_works change]
    intro before modern
    exact (Link.sent_of_works modern change).trans (before modern)
  have revision := Link.exchange_revision_of_works change
  cases stands with
  | writing action place registered before =>
      exact .writing action place (registered_of_works registered underway change same)
        (unsent before)
  | awaiting place registered =>
      exact .awaiting place (registered_of_works registered underway change same)
  | dealt response answers alone dealt =>
      refine .dealt response ?_ alone ⟨dealt.departs, same.trans dealt.printed⟩
      exact revision ▸ answers_append answers _
  | skipping response answers here place stores told =>
      refine .skipping response (revision ▸ answers_append answers _) here place ?_
        (same.trans told)
      rw [← List.append_assoc]
      exact Link.stores_of_works stores underway.follows change
  | tells response answers here tells =>
      refine .tells response (revision ▸ answers_append answers _) here ?_
      rw [← List.append_assoc]
      exact tells_of_works tells underway change same
  | astray strays lost =>
      refine .astray strays ?_
      rcases lost with before | unanswered
      · exact .inl (unsent before)
      · exact .inr (unanswered_of_works unanswered change)

/-! ### The moments of the run itself -/

theorem departs_of_steps (active : ∃ action, run.command.action = some action)
    (departs : run.stage.Departs) (stepped : Steps run later) :
    later.stage.Departs ∧ later.results = run.results ∧
      later.link.exchange.backlog = run.link.exchange.backlog := by
  cases stepped with
  | close task next link place change => exact ⟨trivial, rfl, Task.backlog_of_changes change⟩
  | closed receipt place =>
      unfold closed
      split
      next command =>
        obtain ⟨action, asks⟩ := active
        rw [command] at asks
        cases asks
      next => exact ⟨trivial, rfl, rfl⟩
  | leave task next failure link place change =>
      rw [place] at departs
      cases failure with
      | some cause => exact departs.elim
      | none => exact ⟨trivial, rfl, Task.backlog_of_changes change⟩
  | finish receipt failure place =>
      rw [place] at departs
      cases failure with
      | some cause => exact departs.elim
      | none => exact ⟨rfl, rfl, rfl⟩
  | begin place | giveUp place | subscribe _ place | send _ _ _ _ place | sent _ _ place
  | unsent _ _ place | unclaimed _ place | answer _ _ _ _ place | fail _ _ _ _ place
  | skip _ _ _ _ place | report _ _ _ place | stop _ _ _ place =>
      rw [place] at departs
      exact departs.elim

theorem results_skipped (response : Response) (number : Nat) (run : Run) :
    (run.skipped response number).results =
      run.results ++
        if response.trailing.isEmpty then [] else [pushLine response.trailing] := by
  rw [skipped_eq]
  split <;> simp [results, Line.plain?]

theorem recital_take_one (command : Command) (response : Response) (nonempty : chunks ≠ []) :
    recital command response (chunks.take 1) = [command.responseLine response] ++
      if response.trailing.isEmpty then [] else [pushLine response.trailing] := by
  obtain ⟨first, others, rfl⟩ := List.exists_cons_of_ne_nil nonempty
  simp only [recital, reportable, List.take_succ_cons, List.take_zero, List.tail_cons,
    List.append_nil, List.singleton_append]
  split <;> rfl

theorem recital_take_succ (command : Command) (response : Response) {taken : Nat} {chunk : Bytes}
    (next : chunks[taken + 1]? = some chunk) :
    recital command response (chunks.take (taken + 2)) =
      recital command response (chunks.take (taken + 1)) ++ [pushLine chunk] := by
  simp [recital, reportable_take_succ next]

theorem backlog_of_stores {link : Link} {taken : Nat} (stores : link.Stores chunks taken)
    (all : chunks.length ≤ taken) : link.exchange.backlog = 0 := by
  obtain ⟨arrived, split, within, here⟩ := stores
  rw [split, List.length_append] at all
  simp only [Exchange.backlog, here, List.flatMap_cons, List.flatMap_nil, List.append_nil,
    Feed.queued, List.length_drop]
  omega

/-- The chunk that is thrown away is the first one in the inbox. -/
theorem tells_of_skipping (place : run.stage = .skipping response 0)
    (stores : run.link.Stores chunks 0) (nonempty : chunks ≠ [])
    (told : run.results = [run.command.responseLine response]) (stepped : run.step = some later) :
    (∃ chunk after, chunks.head? = some chunk ∧ run.takeFrom 0 = some (.chunk chunk, after)) ∧
      Tells response chunks later := by
  simp only [step, place, Option.map_eq_some_iff, Prod.exists] at stepped
  obtain ⟨taking, after, taken, rfl⟩ := stepped
  rcases take_from_of_stores stores with ⟨chunk, exchange, next, takes, stored⟩ | ⟨late, takes⟩
  · rw [takes] at taken
    cases taken
    refine ⟨⟨chunk, _, ?_, takes⟩, ?_⟩
    · rw [List.head?_eq_getElem?, next]
    · rw [skipped_eq]
      refine .following 0 rfl stored ?_
      rw [recital_take_one _ _ nonempty, ← told]
      have told := results_skipped response 0 { run with link := { run.link with exchange } }
      rw [skipped_eq] at told
      exact told
  · -- Where the worker is through, nothing is on its way any more.
    split at takes
    next ended =>
      rw [ended] at late
      exact (nonempty (by simpa [Worker.waiting] using late)).elim
    next =>
      rw [takes] at taken
      cases taken

theorem tells_of_steps (underway : Underway run) (tells : Tells response chunks run)
    (stepped : Steps run later) : Tells response chunks later := by
  have still := (underway_of_steps underway stepped).2
  cases tells with
  | following taken place stores told =>
      cases stepped with
      | report number chunk after found taking =>
          obtain rfl := Stage.following.inj (found.symm.trans place)
          rcases take_from_of_stores stores with ⟨next, exchange, here, takes, stored⟩ | ⟨_, takes⟩
          · rw [takes] at taking
            cases taking
            refine .following (taken + 1) place stored ?_
            rw [results_say, recital_take_succ _ _ here]
            exact congrArg (· ++ [pushLine chunk]) told
          · rw [takes] at taking
            split at taking <;> cases taking
      | stop number taking after found takes dry =>
          obtain rfl := Stage.following.inj (found.symm.trans place)
          rcases take_from_of_stores stores with
            ⟨next, exchange, here, takesIt, stored⟩ | ⟨late, takesIt⟩
          · rw [takesIt] at takes
            cases takes
            exact (dry next rfl).elim
          · rw [takesIt] at takes
            split at takes
            next ended =>
              cases takes
              rw [ended] at late
              have all : chunks.length ≤ taken + 1 := by simpa [Worker.waiting] using late
              refine .departed trivial ended (backlog_of_stores stores all) ?_
              rw [List.take_of_length_le all] at told
              rw [results_leave, results_log, told]
              rfl
            next => cases takes
      | _ => simp_all
  | departed departs ended drained told =>
      obtain ⟨departsStill, same, backlog⟩ := departs_of_steps underway.active departs stepped
      refine .departed departsStill (still.trans ended) (backlog.trans drained) ?_
      rw [same, (kept_of_steps stepped).1]
      exact told

/-- What a run that waits for its response gets, and what is left in its inbox. -/
theorem collect_of_registered {outcome : Outcome} {exchange : Exchange}
    (registered : Registered inbox early heard run)
    (collected : run.link.exchange.collect 0 = (some outcome, exchange)) :
    ((heard = [] ∧ run.link.worker.Sealed ∧ outcome = .error .interrupted) ∨
        ∃ first others, heard = first :: others ∧
          outcome = Exchange.outcomeOf run.link.exchange.revision first) ∧
      ∀ number, inbox = some number →
        number = 0 ∧ ({ run.link with exchange } : Link).Stores (early ++ heard) 0 := by
  obtain ⟨revision, inboxes⟩ := exchange_of_collect collected
  have progress : (run.link.exchange.progress 0).due = some outcome := by
    rw [← Exchange.collect_fst, collected]
  constructor
  · cases registered.awaits with
    | waiting outstanding ticket =>
        simp [Exchange.progress, ticket, Progress.due] at progress
    | interrupted concluded ticket sealed =>
        simp only [Exchange.progress, ticket, Progress.due] at progress
        exact .inl ⟨rfl, sealed, (Option.some.inj progress).symm⟩
    | answered first others concluded ticket =>
        simp only [Exchange.progress, ticket, Progress.due] at progress
        exact .inr ⟨first, others, rfl, (Option.some.inj progress).symm⟩
  · intro number here
    obtain ⟨rfl, stores⟩ := registered.stores number here
    exact ⟨rfl, stores.carry inboxes rfl rfl⟩

theorem stands_of_awaiting (registered : Registered inbox early heard run)
    (place : run.stage = .awaiting 0 inbox) (stepped : Steps run later) :
    Stands inbox early heard later := by
  cases stepped with
  | answer ticket number response exchange found collected =>
      obtain ⟨rfl, rfl⟩ := Stage.awaiting.inj (found.symm.trans place)
      obtain ⟨got, stored⟩ := collect_of_registered registered collected
      have revision := (exchange_of_collect collected).1
      rcases got with ⟨_, _, impossible⟩ | ⟨first, others, rfl, outcome⟩
      · cases impossible
      have answers : Answers exchange.revision (first :: others) response := by
        rw [revision]
        exact ⟨first, others, rfl, outcome.symm⟩
      have told :
          ({ run with link := { run.link with exchange } }.answered response number).results =
            [run.command.responseLine response] := by
        rw [results_answered]
        exact congrArg (· ++ [run.command.responseLine response]) registered.silent
      cases number with
      | none => exact .dealt response answers rfl ⟨trivial, told⟩
      | some number =>
          obtain ⟨rfl, stores⟩ := stored number rfl
          exact .skipping response answers rfl rfl stores told
  | fail ticket number cause exchange found collected =>
      obtain ⟨rfl, rfl⟩ := Stage.awaiting.inj (found.symm.trans place)
      obtain ⟨got, _⟩ := collect_of_registered registered collected
      have revision := (exchange_of_collect collected).1
      refine .astray trivial (.inr ?_)
      rcases got with ⟨unheard, sealed, _⟩ | ⟨first, others, rfl, outcome⟩
      · exact .inl ⟨unheard, sealed⟩
      · refine .inr ⟨first, others, cause, rfl, ?_⟩
        rw [outcome]
        exact congrArg (Exchange.outcomeOf · first) revision
  | _ => simp_all

theorem stands_of_writing {action : Action} (registered : Registered inbox early heard run)
    (unsent : run.link.revision ≠ .v1 → run.link.sent = [])
    (place : run.stage = .sending (.writing action (some 0)) inbox) (stepped : Steps run later) :
    Stands inbox early heard later := by
  cases stepped with
  | send task next number link found change =>
      obtain ⟨rfl, rfl⟩ := Stage.sending.inj (found.symm.trans place)
      cases change with
      | nothingToWriteTo | unsayable => exact .astray trivial (.inl unsent)
      | writeFails _ _ _ _ _ _ _ refused => cases refused
      | write _ _ bytes =>
          refine .awaiting (.inl rfl) ⟨?_, ?_, registered.silent⟩
          · exact registered.awaits.carry rfl rfl rfl id
          · intro number here
            obtain ⟨first, stores⟩ := registered.stores number here
            exact ⟨first, stores.carry rfl rfl rfl⟩
  | _ => simp_all

theorem stands_of_step (underway : Underway run) (stands : Stands inbox early heard run)
    (moved : run.step = some later) : Stands inbox early heard later := by
  have stepped := steps_of_step moved
  obtain ⟨underwayStill, worker⟩ := underway_of_steps underway stepped
  have settings := (kept_of_steps stepped).2
  have revision : later.link.revision = run.link.revision := congrArg Settings.revision settings
  have spoken : later.link.exchange.revision = run.link.exchange.revision := by
    rw [underwayStill.speaks, underway.speaks, revision]
  cases stands with
  | writing action place registered unsent =>
      exact stands_of_writing registered unsent place stepped
  | awaiting place registered =>
      rcases place with place | place
      · cases stepped with
        | sent ticket number found =>
            obtain ⟨finished, rfl⟩ := Stage.sending.inj (found.symm.trans place)
            cases finished
            exact .awaiting (.inr rfl)
              ⟨registered.awaits, registered.stores, registered.silent⟩
        | send task next number link found change =>
            obtain ⟨rfl, rfl⟩ := Stage.sending.inj (found.symm.trans place)
            cases change
        | _ => simp_all
      · exact stands_of_awaiting registered place stepped
  | dealt response answers alone dealt =>
      obtain ⟨departs, same, _⟩ := departs_of_steps underway.active dealt.departs stepped
      refine .dealt response (spoken ▸ answers) alone ⟨departs, ?_⟩
      rw [same, (kept_of_steps stepped).1]
      exact dealt.printed
  | skipping response answers here place stores told =>
      have nonempty : early ++ heard ≠ [] := by
        obtain ⟨first, others, rfl, _⟩ := answers
        simp
      exact .tells response (spoken ▸ answers) here
        (tells_of_skipping place stores nonempty told moved).2
  | tells response answers here tells =>
      exact .tells response (spoken ▸ answers) here (tells_of_steps underway tells stepped)
  | astray strays lost =>
      obtain ⟨still, sent⟩ := astray_of_steps strays stepped
      refine .astray still ?_
      rcases lost with unsent | ⟨unheard, sealed⟩ | ⟨first, others, cause, same, outcome⟩
      · left
        rw [revision]
        exact fun modern => (sent modern).trans (unsent modern)
      · exact .inr (.inl ⟨unheard, worker ▸ sealed⟩)
      · exact .inr (.inr ⟨first, others, cause, same, spoken ▸ outcome⟩)

end Registered

/-! ### Whole schedules -/

section Schedules

variable {run last : Run} {inbox : Option Nat} {early heard : List Bytes} {moves : List Move}

/-- What is said of the chunks that have come in, and of each move with the chunk that comes in with
it, holds along a schedule. -/
theorem chunks_induction (holds : List Bytes → Run → Prop)
    (goesOn : ∀ {heard : List Bytes} {run later : Run} {move : Move}, holds heard run →
      run.move move = some later → holds (heard ++ move.chunk?.toList) later)
    (begins : holds heard run) (ran : run.moves moves = some last) :
    holds (heard ++ moves.filterMap Move.chunk?) last := by
  induction moves generalizing run heard with
  | nil =>
      cases ran
      simpa using begins
  | cons move others ih =>
      obtain ⟨next, moved, continued⟩ := moves_cons_eq_some.mp ran
      have held := ih (goesOn begins moved) continued
      rw [List.append_assoc] at held
      cases chunk : move.chunk? <;> simpa [List.filterMap_cons, chunk] using held

theorem stands_of_moves (underway : Underway run) (stands : Stands inbox early heard run)
    (ran : run.moves moves = some last) :
    Underway last ∧ Stands inbox early (heard ++ moves.filterMap Move.chunk?) last := by
  refine chunks_induction (fun heard run => Underway run ∧ Stands inbox early heard run)
    ?_ ⟨underway, stands⟩ ran
  intro heard run later move ⟨underway, stands⟩ moved
  refine ⟨underway_of_move underway moved, ?_⟩
  by_cases own : move = .step
  · subst own
    simpa [Move.chunk?, Move.arrival?] using stands_of_step underway stands moved
  · obtain ⟨link, printed, change, rfl, same⟩ := background_of_move moved own
    exact stands_of_works stands underway change same

theorem tells_of_moves {response : Response} {chunks : List Bytes} (underway : Underway run)
    (tells : Tells response chunks run) (ran : run.moves moves = some last) :
    Underway last ∧ Tells response (chunks ++ moves.filterMap Move.chunk?) last := by
  refine chunks_induction (fun chunks run => Underway run ∧ Tells response chunks run)
    ?_ ⟨underway, tells⟩ ran
  intro chunks run later move ⟨underway, tells⟩ moved
  refine ⟨underway_of_move underway moved, ?_⟩
  by_cases own : move = .step
  · subst own
    simpa [Move.chunk?, Move.arrival?] using
      tells_of_steps underway tells (steps_of_step moved)
  · obtain ⟨link, printed, change, rfl, same⟩ := background_of_move moved own
    exact tells_of_works tells underway change same

/-- A run whose request went out and was answered does not come to rest before it has dealt with its
response. -/
theorem answered_of_rest {first : Bytes} {others : List Bytes} {response : Response}
    (stands : Stands inbox early (first :: others) run) (modern : run.link.revision ≠ .v1)
    (requested : run.link.sent ≠ [])
    (outcome : Exchange.outcomeOf run.link.exchange.revision first = .ok response)
    (still : run.step = none) (asleep : run.link.work = none) :
    (inbox = none ∧ Dealt response run) ∨
      inbox = some 0 ∧ Tells response (early ++ first :: others) run := by
  have same {found : Response}
      (answers : Answers run.link.exchange.revision (first :: others) found) :
      found = response := by
    obtain ⟨chunk, rest, split, decoded⟩ := answers
    cases split
    rw [outcome] at decoded
    cases decoded
    rfl
  cases stands with
  | writing action place registered =>
      simp only [step, place, advance, Task.receipt?, Option.map_eq_none_iff,
        Task.advance_eq_none_iff] at still
      simp at still
  | awaiting place registered =>
      rcases place with place | place
      · simp [step, place, advance, Task.receipt?] at still
      · cases registered.awaits with
        | answered _ _ _ ticket =>
            have progress : run.link.exchange.progress 0 = .resolved (.ok response) := by
              simp [Exchange.progress, ticket, outcome]
            simp [step, place, Exchange.collect, progress] at still
  | dealt found answers alone dealt => exact .inl ⟨alone, same answers ▸ dealt⟩
  | skipping found answers here place stores =>
      have waits : run.takeFrom 0 = none := by simpa [step, place] using still
      rcases take_from_of_stores stores with ⟨chunk, exchange, _, takes, _⟩ | ⟨late, _⟩
      · rw [takes] at waits
        cases waits
      · rw [Link.waiting_of_work_eq_none asleep] at late
        simp at late
  | tells found answers here tells => exact .inr ⟨here, same answers ▸ tells⟩
  | astray strays lost =>
      rcases lost with unsent | ⟨unheard, _⟩ | ⟨chunk, rest, cause, split, failed⟩
      · exact (requested (unsent modern)).elim
      · cases unheard
      · cases split
        rw [outcome] at failed
        cases failed

end Schedules

/-- A run that stands right before it registers its action, whatever has come in by then. -/
structure Asked where
  invocation : Invocation
  action : Action
  inbox : Option Nat
  preparing : List Move
  prepared : Run
  ranPreparing : (begin invocation).moves preparing = some prepared
  registering : prepared.stage = .sending (.registering action) inbox

namespace Asked

def early (asked : Asked) : List Bytes := asked.prepared.link.incoming

theorem approach (asked : Asked) :
    asked.prepared.link.Unclaimed ∧ asked.prepared.results = [] ∧
      asked.prepared.command.action = some asked.action ∧
      (∃ ceased, asked.prepared.link.worker.Follows ceased) ∧
      ((asked.inbox = some 0 ∧ (∃ mode tag, asked.prepared.command = .watch mode tag) ∧
          ∃ chunks, asked.prepared.link.Stores chunks 0) ∨
        asked.inbox = none ∧ (∀ mode tag, asked.prepared.command ≠ .watch mode tag) ∧
          asked.prepared.link.exchange.inboxes = []) := by
  cases unasked_of_moves (unasked_of_begin asked.invocation) asked.ranPreparing with
  | beyond place =>
      rw [asked.registering] at place
      exact place.elim
  | before unclaimed silent approach =>
      cases approach with
      | opening place | subscribing action place =>
          rw [asked.registering] at place
          cases place
      | registering action inbox place asks follows opens =>
          obtain ⟨here, rfl⟩ := Stage.sending.inj (asked.registering.symm.trans place)
          cases here
          exact ⟨unclaimed, silent, asks, follows, opens⟩

theorem underway (asked : Asked) : Underway asked.prepared := by
  obtain ⟨unclaimed, _, asks, follows, opens⟩ := asked.approach
  refine ⟨⟨_, asks⟩, ?_, unclaimed.speaks, unclaimed.placed, follows, ?_⟩
  · rw [asked.registering]
    trivial
  · rcases opens with ⟨_, _, chunks, arrived, _, _, here⟩ | ⟨_, _, empty⟩
    · rw [here]
      exact Nat.le_refl 1
    · rw [empty]
      exact Nat.zero_le 1

theorem stands_of_registered (asked : Asked) {later : Run}
    (stepped : asked.prepared.step = some later) : Stands asked.inbox asked.early [] later := by
  obtain ⟨unclaimed, silent, _, _, opens⟩ := asked.approach
  cases steps_of_step stepped with
  | send task next number link place change =>
      obtain ⟨rfl, here⟩ := Stage.sending.inj (place.symm.trans asked.registering)
      subst here
      cases change with
      | registerTwice _ taken => exact (taken unclaimed.awaiting).elim
      | register _ ticket exchange registered =>
          obtain ⟨_, rfl, rfl⟩ := Exchange.register_ok registered
          rw [unclaimed.tickets]
          refine .writing asked.action rfl ⟨.waiting rfl rfl, ?_, silent⟩ unclaimed.unsent
          intro number here
          rcases opens with ⟨there, _, chunks, stores⟩ | ⟨none, _⟩
          · have same := Link.incoming_of_stores stores
            rw [here] at there
            cases there
            refine ⟨rfl, ?_⟩
            rw [early, same, List.drop_zero, List.append_nil]
            exact stores.carry rfl rfl rfl
          · rw [here] at none
            cases none
  | _ => simp_all [asked.registering]

theorem stands (asked : Asked) {moves : List Move} {last : Run}
    (ran : asked.prepared.moves (.step :: moves) = some last) :
    Underway last ∧ Stands asked.inbox asked.early (moves.filterMap Move.chunk?) last := by
  obtain ⟨next, moved, continued⟩ := moves_cons_eq_some.mp ran
  exact stands_of_moves (underway_of_move asked.underway moved)
    (asked.stands_of_registered moved) continued

end Asked

end Run

end Console

end WatchLink
