import WatchLink.Proofs.Traffic.Sound

/-!
# Which chunk answers an action

As long as nobody closes a link, its slot is touched from outside by the chunks that arrive, and by
the calls that give up an action they could not send. The latter give up whatever ticket is
outstanding. So a sent action is answered by the first chunk that arrives after it was registered,
unless a call that was under way even before gives the ticket up first; `answered_iff_not_released`
says so for every order of moves.
-/

namespace WatchLink

set_option autoImplicit false

/-- What empties the slot of an unclosed link. -/
inductive Touch where
  | chunk (bytes : Bytes)
  | release (number : Nat)
  deriving DecidableEq, Repr

/-- What has come of the ticket that was outstanding, after the first touch there was. -/
def Touch.leaves (revision : Revision) : Option Touch → Progress
  | none => .waiting
  | some (chunk bytes) => .resolved (Exchange.outcomeOf revision bytes)
  | some (release _) => .spent

theorem Touch.leaves_ne_waiting (revision : Revision) (touch : Touch) :
    leaves revision (some touch) ≠ .waiting := by
  cases touch <;> simp [leaves]

def Move.chunk? : Move → Option Bytes
  | arrive (.chunk bytes) => some bytes
  | _ => none

namespace Traffic

variable {traffic later last : Traffic} {move : Move}

def touch? (traffic : Traffic) : Move → Option Touch
  | .arrive (.chunk bytes) => some (.chunk bytes)
  | .advance number _ =>
      match traffic.calls[number]? with
      | some (_, .releasing _) => some (.release number)
      | _ => none
  | _ => none

def touches (traffic : Traffic) : List Move → List Touch
  | [] => []
  | move :: rest =>
      (traffic.touch? move).toList ++
        ((traffic.move move).map fun after => after.touches rest).getD []

/-! ## Single moves -/

theorem revision_of_run {run : List Move} (ran : traffic.moves run = some last) :
    last.link.exchange.revision = traffic.link.exchange.revision :=
  moves_induction
    (fun state => state.link.exchange.revision = traffic.link.exchange.revision)
    (fun same moved => (grows_of_moves moved).exchange.revision.trans same) ran rfl

theorem unclosed_of_run {run : List Move} (ran : traffic.moves run = some later)
    (unclosed : later.link.phase ≠ .closed) : traffic.link.phase ≠ .closed := by
  intro closed
  exact unclosed (moves_induction (fun state => state.link.phase = .closed)
    (fun held moved => (grows_of_moves moved).closed held) ran closed)

/-- On an unclosed link, only a touch empties the slot. -/
theorem awaiting_of_untouched (sound : traffic.Sound) (unclosed : traffic.link.phase ≠ .closed)
    {ticket : Nat} (outstanding : traffic.link.exchange.awaiting = some ticket)
    (moved : Moves traffic move later) (untouched : traffic.touch? move = none) :
    later.link.exchange.awaiting = some ticket := by
  cases moved with
  | begin call => exact outstanding
  | advance number host call task next link stands change =>
      cases change with
      | register _ _ exchange registered =>
          rw [(Exchange.register_ok registered).1] at outstanding
          cases outstanding
      | release => simp [touch?, stands] at untouched
      | reject => exact (unclosed (sound.grounded number call _ stands).1).elim
      | _ => exact outstanding
  | work link change =>
      cases change with
      | reject opening place =>
          have working := sound.working
          simp only [WorkerGrounded, place] at working
          exact (unclosed working.1).elim
      | _ => exact outstanding
  | hear arrival link change =>
      cases change with
      | answer => cases untouched
      | _ => exact outstanding

theorem progress_of_touched (sound : traffic.Sound) {ticket : Nat}
    (outstanding : traffic.link.exchange.awaiting = some ticket)
    (moved : Moves traffic move later) {touch : Touch}
    (touched : traffic.touch? move = some touch) :
    later.link.exchange.progress ticket =
      Touch.leaves traffic.link.exchange.revision (some touch) := by
  have concluded := fun progress =>
    Exchange.progress_conclude_of_awaiting progress sound.coherent outstanding
  cases moved with
  | begin call => cases touched
  | advance number host call task next link stands change =>
      simp only [touch?, stands] at touched
      cases change with
      | release cause =>
          obtain rfl := Option.some.inj touched
          exact concluded _
      | _ => cases touched
  | work link change => cases touched
  | hear arrival link change =>
      cases change with
      | answer place bytes =>
          obtain rfl := Option.some.inj touched
          exact concluded _
      | lose _ _ ends => rcases ends with rfl | ⟨reason, rfl⟩ <;> cases touched
      | _ => cases touched

theorem progress_of_settled (sound : traffic.Sound) {ticket : Nat} {progress : Progress}
    (known : traffic.link.exchange.progress ticket = progress) (come : progress ≠ .waiting)
    (present : ticket < traffic.link.exchange.tickets.length) {run : List Move}
    (ran : traffic.moves run = some last) : last.link.exchange.progress ticket = progress := by
  have kept := moves_induction
    (fun state => state.Sound ∧ ticket < state.link.exchange.tickets.length ∧
      state.link.exchange.progress ticket = progress)
    (fun ⟨held, here, same⟩ moved => by
      have keeps := (grows_of_moves moved).exchange.keeps held.coherent
      refine ⟨sound_of_moves held moved, Nat.lt_of_lt_of_le here keeps.1, ?_⟩
      rw [keeps.2 ticket here (by rw [same]; exact come), same])
    ran ⟨sound, present, known⟩
  exact kept.2.2

theorem undecided_of_changes {host : Host} {link changed : Link} {task next : Task}
    (change : Task.Changes host link task next changed) (taken : link.exchange.awaiting ≠ none)
    (undecided : next.Undecided) : task.Undecided := by
  cases change with
  | register _ _ exchange registered => exact (taken (Exchange.register_ok registered).1).elim
  | nothingToWriteTo action held => cases held <;> exact undecided
  | unsayable action held | writeFails action held | explain held =>
      cases held with
      | none => exact undecided.elim
      | some claimed => exact trivial
  | _ => exact undecided.elim

theorem undecided_of_moves (moved : Moves traffic move later)
    (taken : traffic.link.exchange.awaiting ≠ none) {number : Nat} {call : Call} {next : Task}
    (stands : later.calls[number]? = some (call, next)) (undecided : next.Undecided) :
    ∃ task, traffic.calls[number]? = some (call, task) ∧ task.Undecided := by
  rcases standing_of_moves moved stands with stood | ⟨_, _, began⟩ | ⟨host, task, _, stood, change⟩
  · exact ⟨next, stood, undecided⟩
  · subst began
    cases call <;> exact undecided.elim
  · exact ⟨task, stood, undecided_of_changes change taken undecided⟩

theorem finished_of_run {number : Nat} {call : Call} {receipt : Receipt}
    (stands : traffic.calls[number]? = some (call, .finished receipt)) {run : List Move}
    (ran : traffic.moves run = some last) :
    last.calls[number]? = some (call, .finished receipt) := by
  refine moves_induction (fun state => state.calls[number]? = some (call, .finished receipt))
    ?_ ran stands
  intro state after move held moved
  rcases next_standing_of_moves moved held with stood | ⟨host, next, _, _, change⟩
  · exact stood
  · cases change

/-! ## Runs -/

theorem touches_cons (moved : traffic.move move = some later) (rest : List Move) :
    traffic.touches (move :: rest) = (traffic.touch? move).toList ++ later.touches rest := by
  simp [touches, moved]

/-- A run without a touch leaves the slot taken; whoever has registered then had registered at its
beginning, and no chunk arrives in it. -/
theorem waits_of_untouched (sound : traffic.Sound) {ticket : Nat}
    (outstanding : traffic.link.exchange.awaiting = some ticket) {run : List Move}
    (ran : traffic.moves run = some last) (unclosed : last.link.phase ≠ .closed)
    (untouched : traffic.touches run = []) :
    last.link.exchange.awaiting = some ticket ∧
      (∀ (number : Nat) (call : Call) (next : Task), last.calls[number]? = some (call, next) →
        next.Undecided → ∃ task, traffic.calls[number]? = some (call, task) ∧ task.Undecided) ∧
      run.findSome? Move.chunk? = none := by
  induction run generalizing traffic with
  | nil =>
      cases ran
      exact ⟨outstanding, fun number call next stands undecided => ⟨next, stands, undecided⟩, rfl⟩
  | cons move rest ih =>
      obtain ⟨after, moved, finished⟩ := moves_cons_eq_some ran
      have moves := moves_of_move moved
      rw [touches_cons moved, List.append_eq_nil_iff] at untouched
      obtain ⟨first, others⟩ := untouched
      have none : traffic.touch? move = none := by simpa using first
      have usable : traffic.link.phase ≠ .closed := unclosed_of_run ran unclosed
      have still := awaiting_of_untouched sound usable outstanding moves none
      obtain ⟨waits, undecided, chunkless⟩ :=
        ih (sound_of_moves sound moves) still finished others
      refine ⟨waits, ?_, ?_⟩
      · intro number call next stands isUndecided
        obtain ⟨task, stood, wasUndecided⟩ := undecided number call next stands isUndecided
        exact undecided_of_moves moves (by simp [outstanding]) stood wasUndecided
      · have silent : move.chunk? = Option.none := by
          cases move with
          | arrive arrival =>
              cases arrival with
              | chunk bytes => cases none
              | _ => rfl
          | _ => rfl
        simp [silent, chunkless]

/-- The first touch of a run, with what comes before and after it. -/
theorem first_touch {run : List Move} (ran : traffic.moves run = some last) {touch : Touch}
    (first : (traffic.touches run).head? = some touch) :
    ∃ (front rest : List Move) (move : Move) (reached after : Traffic),
      run = front ++ move :: rest ∧ traffic.moves front = some reached ∧
        traffic.touches front = [] ∧ reached.move move = some after ∧
        reached.touch? move = some touch ∧ after.moves rest = some last := by
  induction run generalizing traffic with
  | nil => cases first
  | cons move rest ih =>
      obtain ⟨after, moved, finished⟩ := moves_cons_eq_some ran
      rw [touches_cons moved] at first
      cases here : traffic.touch? move with
      | some found =>
          rw [here] at first
          obtain rfl : found = touch := Option.some.inj first
          exact ⟨[], rest, move, traffic, after, rfl, rfl, rfl, moved, here, finished⟩
      | none =>
          rw [here] at first
          obtain ⟨front, others, next, reached, beyond, split, ranFront, untouched, movedNext,
            touched, ranRest⟩ := ih finished first
          refine ⟨move :: front, others, next, reached, beyond, by rw [split]; rfl, ?_, ?_,
            movedNext, touched, ranRest⟩
          · simp [moves, moved, ranFront]
          · simp [touches_cons moved, here, untouched]

/-- On an unclosed link the first touch alone decides what comes of the outstanding ticket. -/
theorem progress_of_first_touch (sound : traffic.Sound) {ticket : Nat}
    (outstanding : traffic.link.exchange.awaiting = some ticket) {run : List Move}
    (ran : traffic.moves run = some last) (unclosed : last.link.phase ≠ .closed) :
    last.link.exchange.progress ticket =
      Touch.leaves last.link.exchange.revision (traffic.touches run).head? := by
  have soundLast := sound_of_run sound ran
  cases first : (traffic.touches run).head? with
  | none =>
      have untouched := List.head?_eq_none_iff.mp first
      obtain ⟨waits, _⟩ := waits_of_untouched sound outstanding ran unclosed untouched
      exact (soundLast.coherent ticket).mpr waits
  | some touch =>
      obtain ⟨front, rest, move, reached, after, _, ranFront, untouched, moved, touched, ranRest⟩ :=
        first_touch ran first
      have soundReached := sound_of_run sound ranFront
      have soundAfter := sound_of_moves soundReached (moves_of_move moved)
      have openAfter := unclosed_of_run ranRest unclosed
      have openReached : reached.link.phase ≠ .closed := fun closed =>
        openAfter ((grows_of_moves (moves_of_move moved)).closed closed)
      obtain ⟨waits, _⟩ := waits_of_untouched sound outstanding ranFront openReached untouched
      have come := progress_of_touched soundReached waits (moves_of_move moved) touched
      have grows := (grows_of_moves (moves_of_move moved)).exchange
      have present := Exchange.lt_length_of_progress_eq_waiting
        ((soundReached.coherent ticket).mpr waits)
      have presentAfter := Nat.lt_of_lt_of_le present (grows.keeps soundReached.coherent).1
      rw [← grows.revision, ← revision_of_run ranRest] at come
      exact progress_of_settled soundAfter come (Touch.leaves_ne_waiting _ touch) presentAfter
        ranRest

theorem chunk_of_first_touch (sound : traffic.Sound) {ticket : Nat}
    (outstanding : traffic.link.exchange.awaiting = some ticket) {run : List Move}
    (ran : traffic.moves run = some last) (unclosed : last.link.phase ≠ .closed) {bytes : Bytes}
    (first : (traffic.touches run).head? = some (.chunk bytes)) :
    run.findSome? Move.chunk? = some bytes := by
  obtain ⟨front, rest, move, reached, after, split, ranFront, untouched, moved, touched, ranRest⟩ :=
    first_touch ran first
  have openReached : reached.link.phase ≠ .closed := fun closed =>
    unclosed_of_run ranRest unclosed ((grows_of_moves (moves_of_move moved)).closed closed)
  obtain ⟨_, _, chunkless⟩ := waits_of_untouched sound outstanding ranFront openReached untouched
  have arrives : move.chunk? = some bytes := by
    cases move with
    | begin call => cases touched
    | work => cases touched
    | advance number host =>
        simp only [touch?] at touched
        split at touched <;> cases touched
    | arrive arrival =>
        cases arrival with
        | chunk others => simpa [touch?, Move.chunk?] using touched
        | _ => cases touched
  simp [split, chunkless, arrives]

theorem ticket_of_run {number ticket : Nat} {call : Call} {task : Task}
    (stands : traffic.calls[number]? = some (call, task)) (claims : task.ticket? = some ticket)
    {run : List Move} (ran : traffic.moves run = some last) :
    ∃ next, last.calls[number]? = some (call, next) ∧
      (next.ticket? = some ticket ∨ (∃ cause, next = .releasing cause) ∨
        ∃ cause, next = .finished (.refused cause)) := by
  refine moves_induction
    (fun state => ∃ next, state.calls[number]? = some (call, next) ∧
      (next.ticket? = some ticket ∨ (∃ cause, next = .releasing cause) ∨
        ∃ cause, next = .finished (.refused cause))) ?_ ran ⟨task, stands, .inl claims⟩
  intro state after move ⟨current, stood, holds⟩ moved
  rcases next_standing_of_moves moved stood with still | ⟨host, next, _, still, change⟩
  · exact ⟨current, still, holds⟩
  · refine ⟨next, still, ?_⟩
    generalize after.link = link at change
    rcases holds with claimed | ⟨cause, rfl⟩ | ⟨cause, rfl⟩
    · rcases ticket_of_changes change claimed with claimedStill | releasing
      · exact .inl claimedStill
      · exact .inr (.inl releasing)
    · cases change
      exact .inr (.inr ⟨cause, rfl⟩)
    · cases change

/-- What registering comes to: the slot is taken by the ticket that the call will report. -/
theorem awaiting_of_registered {begun registered : Traffic}
    {number ticket : Nat} {host : Host} {action : Action}
    (stands : begun.calls[number]? = some (.act action, .registering action))
    (moved : Moves begun (.advance number host) registered) {run : List Move}
    (ran : registered.moves run = some last)
    (sent : last.calls[number]? = some (.act action, .finished (.number ticket))) :
    registered.link.exchange.awaiting = some ticket := by
  have present := (List.getElem?_eq_some_iff.mp stands).1
  cases moved with
  | advance _ _ call task next link stood change =>
      rw [stands] at stood
      cases stood
      cases change with
      | register _ made exchange free =>
          obtain ⟨current, still, holds⟩ :=
            ticket_of_run (List.getElem?_set_self present) rfl ran
          rw [sent] at still
          cases still
          rcases holds with claimed | ⟨cause, impossible⟩ | ⟨cause, impossible⟩
          · obtain rfl : ticket = made := Option.some.inj claimed
            exact Exchange.awaiting_of_register free
          · cases impossible
          · cases impossible
      | registerTwice =>
          have ended := finished_of_run (List.getElem?_set_self present) ran
          rw [sent] at ended
          cases ended

/-- A call that gives up a ticket of another one had registered before that one did. -/
theorem undecided_of_first_release {begun registered : Traffic} (sound : begun.Sound)
    {number ticket other : Nat} {host : Host} {action : Action}
    (stands : begun.calls[number]? = some (.act action, .registering action))
    (moved : Moves begun (.advance number host) registered) {run : List Move}
    (ran : registered.moves run = some last)
    (sent : last.calls[number]? = some (.act action, .finished (.number ticket)))
    (unclosed : last.link.phase ≠ .closed)
    (first : (registered.touches run).head? = some (.release other)) :
    other ≠ number ∧ ∃ (older : Action) (task : Task),
      begun.calls[other]? = some (.act older, task) ∧ task.Undecided := by
  have soundRegistered := sound_of_moves sound moved
  have outstanding := awaiting_of_registered stands moved ran sent
  obtain ⟨front, rest, move, reached, after, _, ranFront, untouched, movedFirst, touched,
    ranRest⟩ := first_touch ran first
  have soundReached := sound_of_run soundRegistered ranFront
  have movesFirst := moves_of_move movedFirst
  have openReached : reached.link.phase ≠ .closed := fun closed =>
    unclosed_of_run ranRest unclosed ((grows_of_moves movesFirst).closed closed)
  obtain ⟨_, undecided, _⟩ :=
    waits_of_untouched soundRegistered outstanding ranFront openReached untouched
  cases movesFirst with
  | advance releasing _ call task next link stood change =>
      simp only [touch?, stood] at touched
      have present := (List.getElem?_eq_some_iff.mp stood).1
      cases change with
      | release cause =>
          obtain rfl : releasing = other := by simpa using touched
          have different : releasing ≠ number := by
            rintro rfl
            have ended := finished_of_run (List.getElem?_set_self present) ranRest
            rw [sent] at ended
            cases ended
          refine ⟨different, ?_⟩
          have reaches := soundReached.reaches releasing call _ stood
          obtain ⟨task, stoodBefore, wasUndecided⟩ := undecided releasing call _ stood trivial
          cases call with
          | act older =>
              rcases standing_of_moves moved stoodBefore with stoodFirst | ⟨impossible, _⟩ |
                ⟨_, _, impossible, _⟩
              · exact ⟨older, task, stoodFirst, wasUndecided⟩
              · cases impossible
              · cases impossible
                exact (different rfl).elim
          | _ => exact reaches.elim
      | _ => cases touched
  | work link change => cases touched
  | begin call => cases touched
  | hear arrival link change => cases arrival <;> cases touched

/-- On a link that nobody has closed, an action that was sent is still awaited or was answered by
the first chunk that arrived after it registered, just where no other call gave up the slot before
that chunk. Where one did, the ticket comes to nothing; and that call had registered before. -/
theorem answered_iff_not_released
    {begun registered last : Traffic} {number ticket : Nat} {host : Host} {action : Action}
    {run : List Move}
    (reachable : begun.Reachable)
    (stands : begun.calls[number]? = some (.act action, .registering action))
    (moved : begun.move (.advance number host) = some registered)
    (ran : registered.moves run = some last)
    (sent : last.calls[number]? = some (.act action, .finished (.number ticket)))
    (unclosed : last.link.phase ≠ .closed) :
    ((last.link.exchange.awaiting = some ticket ∨
        ∃ chunk, run.findSome? Move.chunk? = some chunk ∧
          last.link.exchange.progress ticket =
            .resolved (Exchange.outcomeOf last.link.revision chunk)) ↔
      ∀ other, (registered.touches run).head? ≠ some (.release other)) ∧
    ∀ other, (registered.touches run).head? = some (.release other) →
      last.link.exchange.progress ticket = .spent ∧ other ≠ number ∧
        ∃ (older : Action) (task : Task),
          begun.calls[other]? = some (.act older, task) ∧ task.Undecided := by
  have sound := sound_of_reachable reachable
  have moves := moves_of_move moved
  have soundRegistered := sound_of_moves sound moves
  have soundLast := sound_of_run soundRegistered ran
  have outstanding := awaiting_of_registered stands moves ran sent
  have come := progress_of_first_touch soundRegistered outstanding ran unclosed
  rw [soundLast.spoken] at come
  constructor
  · constructor
    · intro answered other first
      rw [first] at come
      rcases answered with awaited | ⟨chunk, _, resolved⟩
      · rw [(soundLast.coherent ticket).mpr awaited] at come
        cases come
      · rw [resolved] at come
        cases come
    · intro unreleased
      cases first : (registered.touches run).head? with
      | none =>
          left
          rw [first] at come
          exact (soundLast.coherent ticket).mp come
      | some touch =>
          rw [first] at come
          cases touch with
          | release other => exact (unreleased other first).elim
          | chunk bytes =>
              right
              exact ⟨bytes, chunk_of_first_touch soundRegistered outstanding ran unclosed first,
                come⟩
  · intro other first
    rw [first] at come
    exact ⟨come, undecided_of_first_release sound stands moves ran sent unclosed first⟩

/-- An open link. The first action has registered, its ticket was answered by a chunk that meant
nothing to it, and it is about to find that the revision cannot express it; a ping is about to
register. -/
def strayed : Traffic where
  link :=
    { settings := {}
      phase := .connected
      writable := true
      exchange :=
        { revision := .v2, tickets := [{ progress := .resolved (Exchange.outcomeOf .v2 [0]) }] }
      signal := { opening := some .ready }
      worker := .reading }
  calls :=
    [(.start, .finished .done), (.act .close, .writing .close (some 0)),
      (.act .ping, .registering .ping)]

theorem reachable_strayed : strayed.Reachable :=
  ⟨{}, { settings := {}, exchange := { revision := .v2 } },
    [.begin .start, .advance 0 .grants, .arrive .accepted, .work, .work, .begin (.act .close),
      .advance 1 .grants, .arrive (.chunk [0]), .work, .work, .begin (.act .ping)], rfl, rfl⟩

def strayedRegistered : Traffic where
  link :=
    { strayed.link with
      exchange :=
        { strayed.link.exchange with
          awaiting := some 1
          tickets := strayed.link.exchange.tickets ++ [{}] } }
  calls := strayed.calls.set 2 (.act .ping, .writing .ping (some 1))

def strayedAnswered : Traffic where
  link :=
    { strayedRegistered.link.mapExchange (Exchange.answer [0]) with
      worker := .publishingChunk [0]
      sent := [0] }
  calls := strayed.calls.set 2 (.act .ping, .finished (.number 1))

theorem ping_answered_of_chunk_first :
    strayedRegistered.moves [.advance 2 .grants, .arrive (.chunk [0])] = some strayedAnswered ∧
      (strayedAnswered.link.exchange.awaiting = some 1 ∨
        ∃ chunk, [Move.advance 2 .grants, .arrive (.chunk [0])].findSome? Move.chunk? = some chunk ∧
          strayedAnswered.link.exchange.progress 1 =
            .resolved (Exchange.outcomeOf strayedAnswered.link.revision chunk)) := by
  have registered : strayed.move (.advance 2 .grants) = some strayedRegistered := rfl
  have ran : strayedRegistered.moves [.advance 2 .grants, .arrive (.chunk [0])] =
      some strayedAnswered := rfl
  have unclosed : strayedAnswered.link.phase ≠ .closed := by
    change Phase.connected ≠ .closed
    decide
  have first : (strayedRegistered.touches [.advance 2 .grants, .arrive (.chunk [0])]).head? =
      some (.chunk [0]) := rfl
  have condition := answered_iff_not_released reachable_strayed rfl registered ran rfl unclosed
  refine ⟨ran, condition.1.mpr ?_⟩
  intro other
  rw [first]
  simp

/-- The ping comes to nothing where the first action is given up before its chunk arrives. -/
theorem ping_released_by_stray :
    (strayed.moves
        [.advance 2 .grants, .advance 2 .grants, .advance 1 .grants, .advance 1 .grants]).map
      (fun last => (last.link.phase, last.receipt? 2, last.link.exchange.awaiting,
        (last.link.exchange.collect 1).1)) =
      some (.connected, some (.number 1), none, some (.error .interrupted)) ∧
    strayed.Reachable :=
  ⟨rfl, reachable_strayed⟩

end Traffic

end WatchLink
