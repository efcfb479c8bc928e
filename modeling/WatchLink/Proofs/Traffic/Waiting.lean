import WatchLink.Proofs.Traffic.Lifecycle

/-!
# Waiting on a closed link

The signal is fired by the worker, or by the call that was refused a thread for it. A link that is
closed before it was started gets neither, and it can no longer be started: on such a link the
signal is never fired, and whoever waits for it waits for ever. `waits_end_iff_not_foreclosed` says
that nothing else keeps a caller waiting once the link is closed and no worker is running.
-/

namespace WatchLink

set_option autoImplicit false

namespace Traffic

/-- The call that closes the link before any call has started it. -/
def forecloses? (traffic : Traffic) : Move → Option Nat
  | .advance number _ =>
      match traffic.calls[number]? with
      | some (_, .closing) => if traffic.link.phase = .disconnected then some number else none
      | _ => none
  | _ => none

/-- Nobody is left who could fire the signal. -/
structure Foreclosed (traffic : Traffic) : Prop where
  closed : traffic.link.phase = .closed
  workerless : traffic.link.worker = .absent
  unfired : traffic.link.signal.opening = none
  unfailing : traffic.Unfailing

/-- Whoever waits for the opening has been told of it, or is told in its next change. -/
def Served (traffic : Traffic) : Prop :=
  ∀ (number : Nat) (task : Task), traffic.calls[number]? = some (.awaitOpening, task) →
    (∃ receipt, task = .finished receipt) ∨
      ∀ host, ∃ later receipt, traffic.move (.advance number host) = some later ∧
        later.receipt? number = some receipt

/-- Whoever waits for the opening is still waiting, and cannot go on. -/
def Stranded (traffic : Traffic) : Prop :=
  ∀ (number : Nat) (task : Task), traffic.calls[number]? = some (.awaitOpening, task) →
    task = .awaiting ∧ ∀ host, traffic.move (.advance number host) = none

section Moves

variable {traffic later : Traffic} {move : Move}

theorem absent_of_moves (course : traffic.OnCourse) (moved : Moves traffic move later)
    (absent : later.link.worker = .absent) : traffic.link.worker = .absent := by
  rcases worker_of_moves course moved with ⟨_, _, present⟩ | ⟨_, same⟩
  · exact (present absent).elim
  · exact same.mp absent

/-- Without a worker, a link is as it was made or closed. -/
theorem phase_of_moves_absent (course : traffic.OnCourse)
    (known : traffic.link.worker = .absent →
      traffic.link.phase = .disconnected ∨ traffic.link.phase = .closed)
    (moved : Moves traffic move later) (absent : later.link.worker = .absent) :
    later.link.phase = .disconnected ∨ later.link.phase = .closed := by
  have absentBefore := absent_of_moves course moved absent
  cases moved with
  | begin call => exact known absentBefore
  | advance number host call task next link stands change =>
      cases change with
      | start => cases absent
      | startFails | close => exact .inr rfl
      | _ => exact known absentBefore
  | work link change | hear arrival link change =>
      exact ((Link.begun_of_works change).1 absentBefore).elim

/-- A call that is about to fire the signal was so before, or it has just asked for the thread. -/
theorem failing_of_moves (moved : Moves traffic move later) {number : Nat} {call : Call}
    {reason : String} (stands : later.calls[number]? = some (call, .failing reason)) :
    traffic.calls[number]? = some (call, .failing reason) ∨
      traffic.calls[number]? = some (call, .starting) ∧ traffic.link.phase = .disconnected ∧
        ∃ host, move = .advance number host := by
  rcases standing_of_moves moved stands with
    stood | ⟨_, _, begun⟩ | ⟨host, task, own, stood, change⟩
  · exact .inl stood
  · cases call <;> cases begun
  · generalize later.link = link at change
    generalize fails : Task.failing reason = next at change
    cases change with
    | startFails fresh => exact .inr ⟨stood, fresh, host, own⟩
    | unsayable _ ticket | writeFails _ ticket | explain ticket => cases ticket <;> cases fails
    | _ => cases fails

theorem foreclosed_of_moves (foreclosed : traffic.Foreclosed) (moved : Moves traffic move later) :
    later.Foreclosed where
  closed := by
    have forward := rank_of_moves moved
    rw [foreclosed.closed] at forward
    cases phase : later.link.phase <;> simp [phase, Phase.rank] at forward ⊢
  workerless := by
    cases moved with
    | begin call => exact foreclosed.workerless
    | advance number host call task next link stands change =>
        rcases worker_of_changes change with same | ⟨untouched, _⟩
        · exact same.trans foreclosed.workerless
        · rw [foreclosed.closed] at untouched
          cases untouched
    | work link change | hear arrival link change =>
        exact ((Link.begun_of_works change).1 foreclosed.workerless).elim
  unfired := by
    rw [opening_of_moves moved, foreclosed.unfired, Option.none_or]
    cases fires : traffic.fires? move with
    | none => rfl
    | some opening =>
        rcases worker_of_fires foreclosed.unfailing fires with place | place <;>
          simp [foreclosed.workerless] at place
  unfailing number call reason stands := by
    rcases failing_of_moves moved stands with stood | ⟨_, fresh, _⟩
    · exact foreclosed.unfailing number call reason stood
    · rw [foreclosed.closed] at fresh
      cases fresh

/-- Whoever waits on such a link goes on waiting. -/
theorem awaiting_of_moves (foreclosed : traffic.Foreclosed) (moved : Moves traffic move later)
    {number : Nat} {call : Call} (stands : traffic.calls[number]? = some (call, .awaiting)) :
    later.calls[number]? = some (call, .awaiting) := by
  rcases next_standing_of_moves moved stands with still | ⟨host, next, _, _, change⟩
  · exact still
  · generalize later.link = link at change
    cases change with
    | learn opening fired =>
        rw [foreclosed.unfired] at fired
        cases fired

/-- A link that is closed before it was started is left to nobody. -/
theorem foreclosed_of_forecloses (course : traffic.OnCourse) {number : Nat}
    (forecloses : traffic.forecloses? move = some number) (moved : Moves traffic move later) :
    later.Foreclosed := by
  cases moved with
  | advance moving host call task next link stands change =>
      simp only [forecloses?, stands] at forecloses
      split at forecloses
      next closer closing =>
        split at forecloses
        next fresh =>
          cases closing
          obtain ⟨absent, unfired⟩ := course.placed.fresh fresh
          have moved := Moves.advance moving host call _ next link stands change
          cases change with
          | closeAgain closed =>
              rw [closed] at fresh
              cases fresh
          | close =>
              refine ⟨rfl, absent, unfired, ?_⟩
              intro failed caller reason fails
              rcases failing_of_moves moved fails with stood | ⟨starts, _, _, own⟩
              · have closed := (course.failing stood).2
                rw [closed] at fresh
                cases fresh
              · cases own
                rw [stands] at starts
                cases starts
        next => cases forecloses
      next => cases forecloses
  | _ => cases forecloses

/-- There is no other way to such a link. -/
theorem foreclosed_iff_of_moves (course : traffic.OnCourse)
    (known : traffic.link.worker = .absent →
      traffic.link.phase = .disconnected ∨ traffic.link.phase = .closed)
    (moved : Moves traffic move later) :
    later.Foreclosed ↔ traffic.Foreclosed ∨ (traffic.forecloses? move).isSome = true := by
  constructor
  · intro foreclosed
    have absent := absent_of_moves course moved foreclosed.workerless
    rcases known absent with fresh | closed
    · right
      have closed := foreclosed.closed
      cases moved with
      | begin call => simp [fresh] at closed
      | advance number host call task next link stands change =>
          cases change with
          | start => cases closed
          | startFails _ reason =>
              have present := (List.getElem?_eq_some_iff.mp stands).1
              exact (foreclosed.unfailing number call reason (List.getElem?_set_self present)).elim
          | close => simp [forecloses?, stands, fresh]
          | _ => simp [Link.mapExchange, fresh] at closed
      | work link change | hear arrival link change =>
          exact ((Link.begun_of_works change).1 absent).elim
    · left
      have unfired := foreclosed.unfired
      rw [opening_of_moves moved, Option.or_eq_none_iff] at unfired
      refine ⟨closed, absent, unfired.1, ?_⟩
      intro number call reason stood
      rcases next_standing_of_moves moved stood with still | ⟨host, next, rfl, _, _⟩
      · exact foreclosed.unfailing number call reason still
      · simp [fires?, stood] at unfired
  · rintro (before | forecloses)
    · exact foreclosed_of_moves before moved
    · obtain ⟨number, forecloses⟩ := Option.isSome_iff_exists.mp forecloses
      exact foreclosed_of_forecloses course forecloses moved

end Moves

/-! ## Runs -/

section Runs

variable {state last : Traffic} {run : List Move}

theorem foreclosed_of_run (foreclosed : state.Foreclosed) (ran : state.moves run = some last) :
    last.Foreclosed :=
  moves_induction Foreclosed foreclosed_of_moves ran foreclosed

theorem foreclosed_iff_of_run {settings : Settings} {link : Link}
    (created : Link.create settings = .ok link) (ran : ({ link } : Traffic).moves run = some last) :
    (last.link.worker = .absent →
        last.link.phase = .disconnected ∨ last.link.phase = .closed) ∧
      (last.Foreclosed ↔ ({ link } : Traffic).along forecloses? run ≠ []) := by
  refine run_induction
    (fun run state =>
      (state.link.worker = .absent →
          state.link.phase = .disconnected ∨ state.link.phase = .closed) ∧
        (state.Foreclosed ↔ ({ link } : Traffic).along forecloses? run ≠ [])) ?_ ?_ ran
  · have fresh := link_of_create created
    refine ⟨fun _ => .inl (by rw [fresh]), ?_⟩
    constructor
    · intro foreclosed
      have closed := foreclosed.closed
      rw [fresh] at closed
      cases closed
    · intro impossible
      exact (impossible rfl).elim
  · intro front state later move ranFront ⟨known, foreclosed⟩ moved
    have moves := moves_of_move moved
    have course := on_course_of_run (on_course_of_create created) ranFront
    refine ⟨phase_of_moves_absent course known moves, ?_⟩
    rw [foreclosed_iff_of_moves course known moves, foreclosed, along_snoc ranFront]
    cases state.forecloses? move <;> simp

theorem fired_of_run {opening : Opening} (fired : state.link.signal.opening = some opening)
    (ran : state.moves run = some last) : last.link.signal.opening = some opening :=
  moves_induction (fun later => later.link.signal.opening = some opening)
    (fun before moved => by simp [opening_of_moves moved, before]) ran fired

/-- Nobody who waits is told anything before the signal is fired. -/
theorem told_of_run {settings : Settings} {link : Link} (created : Link.create settings = .ok link)
    (ran : ({ link } : Traffic).moves run = some last) {number : Nat} {receipt : Receipt}
    (stands : last.calls[number]? = some (.awaitOpening, .finished receipt)) :
    ∃ opening, last.link.signal.opening = some opening ∧
      receipt = Task.receiptOf opening.result := by
  refine run_induction
    (fun _ state => ∀ (number : Nat) (receipt : Receipt),
      state.calls[number]? = some (.awaitOpening, .finished receipt) →
      ∃ opening, state.link.signal.opening = some opening ∧
        receipt = Task.receiptOf opening.result) ?_ ?_ ran number receipt stands
  · intro number receipt stands
    simp at stands
  · intro front state later move ranFront told moved number receipt stands
    have course := on_course_of_run (on_course_of_create created) ranFront
    exact told_of_moves course.sound told (moves_of_move moved) stands

/-- A call that waits stands where it began, or has returned. -/
theorem awaiting_or_finished (sound : state.Sound) {number : Nat} {task : Task}
    (stands : state.calls[number]? = some (.awaitOpening, task)) :
    task = .awaiting ∨ ∃ receipt, task = .finished receipt := by
  have reaches := sound.reaches number _ task stands
  cases task with
  | awaiting => exact .inl rfl
  | finished receipt => exact .inr ⟨receipt, rfl⟩
  | _ => exact reaches.elim

theorem served_of_fired (sound : state.Sound) {opening : Opening}
    (fired : state.link.signal.opening = some opening) : state.Served := by
  intro number task stands
  rcases awaiting_or_finished sound stands with rfl | finished
  · right
    intro host
    have present := (List.getElem?_eq_some_iff.mp stands).1
    let told : Call × Task := (.awaitOpening, .finished (Task.receiptOf opening.result))
    refine ⟨{ state with calls := state.calls.set number told },
      Task.receiptOf opening.result, ?_, ?_⟩
    · simp [move, stands, Task.advance, fired, told]
    · simp [receipt?, List.getElem?_set_self present, Task.receipt?, told]
  · exact .inl finished

/-- On a foreclosed link everybody who waits has only begun to. -/
theorem stranded_of_foreclosed (sound : state.Sound) (foreclosed : state.Foreclosed)
    (told : ∀ (number : Nat) (receipt : Receipt),
      state.calls[number]? = some (.awaitOpening, .finished receipt) →
      ∃ opening, state.link.signal.opening = some opening ∧
        receipt = Task.receiptOf opening.result) :
    state.Stranded := by
  intro number task stands
  rcases awaiting_or_finished sound stands with rfl | ⟨receipt, rfl⟩
  · refine ⟨rfl, ?_⟩
    intro host
    simp [move, stands, Task.advance, foreclosed.unfired]
  · obtain ⟨opening, fired, _⟩ := told number receipt stands
    rw [foreclosed.unfired] at fired
    cases fired

/-- A link that was closed, whose worker has ended or never was, and on which nobody is about to
fire the signal. -/
theorem fired_or_foreclosed (course : state.OnCourse) (unfailing : state.Unfailing)
    (closed : state.link.phase = .closed)
    (workerless : state.link.worker = .absent ∨ state.link.worker = .ended) :
    state.link.signal.hasFired = true ∨ state.Foreclosed := by
  cases opening : state.link.signal.opening with
  | some fired => exact .inl (by simp [Signal.hasFired, opening])
  | none =>
      rcases workerless with absent | ended
      · exact .inr ⟨closed, absent, opening, unfailing⟩
      · have heralds := course.placed.heralds
        rw [ended, opening] at heralds
        exact (heralds rfl).elim

end Runs

/-- How waiting ends on a link that is closed and has no worker running. -/
structure WaitsEnd (first : Traffic) (run : List Move) (last : Traffic) : Prop where
  /-- Unless a call closed the link before it was started, the signal has fired, or the call that
  was refused a thread is just about to fire it. -/
  fires : first.along forecloses? run = [] ↔
    last.link.signal.hasFired = true ∨ ¬last.Unfailing
  failing : ∀ (number : Nat) (call : Call) (reason : String),
    last.calls[number]? = some (call, .failing reason) → ∀ host, ∃ later,
      last.move (.advance number host) = some later ∧ later.link.signal.hasFired = true
  served : last.link.signal.hasFired = true → ∀ (more : List Move) (final : Traffic),
    last.moves more = some final → final.Served
  stranded : first.along forecloses? run ≠ [] → ∀ (more : List Move) (final : Traffic),
    last.moves more = some final → final.link.signal.hasFired = false ∧ final.Stranded

/-- Once a link is closed and no worker is running, the signal has fired and everybody who waits for
it, then or later, is told, unless a call closed the link before any had started it. On such a link
nothing that can still be done fires the signal, and nobody who waits is ever told. -/
theorem waits_end_iff_not_foreclosed {settings : Settings} {link : Link} {run : List Move}
    {last : Traffic} (created : Link.create settings = .ok link)
    (ran : ({ link } : Traffic).moves run = some last) (closed : last.link.phase = .closed)
    (workerless : last.link.worker = .absent ∨ last.link.worker = .ended) :
    WaitsEnd { link } run last := by
  have course := on_course_of_run (on_course_of_create created) ran
  have foreclosed := (foreclosed_iff_of_run created ran).2
  exact {
    fires := by
      constructor
      · intro never
        by_cases unfailing : last.Unfailing
        · rcases fired_or_foreclosed course unfailing closed workerless with fired | impossible
          · exact .inl fired
          · exact (foreclosed.mp impossible never).elim
        · exact .inr unfailing
      · intro heard
        by_contra done
        have nobody := foreclosed.mpr done
        rcases heard with fired | fails
        · simp [Signal.hasFired, nobody.unfired] at fired
        · exact fails nobody.unfailing
    failing := by
      intro number call reason stands host
      let fired := last.link.signal.fire (.failed last.link.settings.address reason)
      refine ⟨{ link := { last.link with signal := fired },
                calls := last.calls.set number (call, .retiring reason) }, ?_, ?_⟩
      · simp [move, stands, Task.advance, fired]
      · simp [fired, Signal.fire, Signal.hasFired]
    served := by
      intro fired more final ranOn
      obtain ⟨opening, fired⟩ := Option.isSome_iff_exists.mp fired
      exact served_of_fired (on_course_of_run course ranOn).sound (fired_of_run fired ranOn)
    stranded := by
      intro done more final ranOn
      have nobody := foreclosed_of_run (foreclosed.mpr done) ranOn
      have ranAll : ({ link } : Traffic).moves (run ++ more) = some final := by
        simp [moves_append, ran, ranOn]
      refine ⟨by simp [Signal.hasFired, nobody.unfired], ?_⟩
      exact stranded_of_foreclosed (on_course_of_run course ranOn).sound nobody
        (fun _ _ stands => told_of_run created ranAll stands) }

theorem waits_end_of_closed_in_dialing :
    untouched.moves closedInDialing = some closedBeforeOpening ∧
      closedBeforeOpening.link.phase = .closed ∧ closedBeforeOpening.link.worker = .ended ∧
      WaitsEnd untouched closedInDialing closedBeforeOpening := by
  have created : Link.create {} = .ok untouched.link := rfl
  have ran : untouched.moves closedInDialing = some closedBeforeOpening := rfl
  exact ⟨ran, rfl, rfl, waits_end_iff_not_foreclosed created ran rfl (.inr rfl)⟩

def closedUnstarted : List Move :=
  [.begin .close, .advance 0 .grants, .advance 0 .grants, .advance 0 .grants, .advance 0 .grants,
    .begin .awaitOpening]

def waitingUnstarted : Traffic where
  link :=
    { settings := {}
      phase := .closed
      exchange := { revision := .v2, closed := true } }
  calls := [(.close, .finished .done), (.awaitOpening, .awaiting)]

/-- The close has returned, the link is closed and has no worker, and the caller who waits is never
told of anything, whatever is done and whatever happens from then on. -/
theorem waits_forever_after_closed_unstarted :
    Link.create {} = .ok untouched.link ∧
      untouched.moves closedUnstarted = some waitingUnstarted ∧
      waitingUnstarted.receipt? 0 = some .done ∧
      waitingUnstarted.link.phase = .closed ∧ waitingUnstarted.link.worker = .absent ∧
      ∀ (more : List Move) (final : Traffic), waitingUnstarted.moves more = some final →
        final.link.signal.hasFired = false ∧ final.receipt? 1 = none := by
  have created : Link.create {} = .ok untouched.link := rfl
  have ran : untouched.moves closedUnstarted = some waitingUnstarted := rfl
  have foreclosed : waitingUnstarted.Foreclosed :=
    (foreclosed_iff_of_run created ran).2.mpr (by decide)
  refine ⟨created, ran, rfl, rfl, rfl, ?_⟩
  intro more final ranOn
  have waits := moves_induction
    (fun state => state.Foreclosed ∧ state.calls[1]? = some (.awaitOpening, .awaiting))
    (fun known moved =>
      ⟨foreclosed_of_moves known.1 moved, awaiting_of_moves known.1 moved known.2⟩)
    ranOn ⟨foreclosed, rfl⟩
  simp [Signal.hasFired, waits.1.unfired, receipt?, waits.2, Task.receipt?]

end Traffic

end WatchLink
