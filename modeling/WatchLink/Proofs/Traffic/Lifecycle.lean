import WatchLink.Proofs.Traffic.Closing
import WatchLink.Proofs.Traffic.Runs

/-!
# The life of a link

Whoever starts a link, closes it or waits for its opening, and in whatever order the worker and the
network go on in between: the phase only moves forward, one worker is started and the signal fires
once. `lifecycle_of_run` collects this. What the signal does not promise is that it comes first: a
call can send an action after the link became usable and before the worker says so, which is
`ready_iff_announced`.
-/

namespace WatchLink

set_option autoImplicit false

def Phase.rank : Phase → Nat
  | disconnected => 0
  | connecting => 1
  | connected => 2
  | closed => 3

namespace Traffic

def spawns? (traffic : Traffic) : Move → Option Nat
  | .advance number .grants =>
      match traffic.calls[number]? with
      | some (_, .starting) => if traffic.link.phase = .disconnected then some number else none
      | _ => none
  | _ => none

/-- What the signal is to fire with, whether or not it has been fired before. -/
def fires? (traffic : Traffic) : Move → Option Opening
  | .advance number _ =>
      match traffic.calls[number]? with
      | some (_, .failing reason) => some (.failed traffic.link.settings.address reason)
      | _ => none
  | .work =>
      match traffic.link.worker with
      | .announcing => some .ready
      | .signalling opening => some opening
      | _ => none
  | _ => none

section Moves

variable {traffic later : Traffic} {move : Move}

theorem rank_of_moves (moved : Moves traffic move later) :
    traffic.link.phase.rank ≤ later.link.phase.rank := by
  cases moved with
  | begin call => exact Nat.le_refl _
  | advance number host call task next link stands change =>
      cases change with
      | start fresh | startFails fresh => simp [fresh, Phase.rank]
      | close => cases traffic.link.phase <;> simp [Phase.rank]
      | _ => exact Nat.le_refl _
  | work link change =>
      cases change with
      | connect place unclosed => cases phase : traffic.link.phase <;> simp_all [Phase.rank]
      | sever => cases traffic.link.phase <;> simp [Phase.rank]
      | _ => exact Nat.le_refl _
  | hear arrival link change => cases change <;> exact Nat.le_refl _

/-- The signal keeps what it was fired with first. -/
theorem opening_of_moves (moved : Moves traffic move later) :
    later.link.signal.opening = traffic.link.signal.opening.or (traffic.fires? move) := by
  cases moved with
  | begin call => simp [fires?]
  | advance number host call task next link stands change =>
      simp only [fires?, stands]
      cases change with
      | fireFailure reason => rfl
      | _ => simp
  | work link change =>
      cases change with
      | announce place | fire _ place => simp [fires?, place, Signal.fire]
      | forestall place | connect place | publish _ place | notify _ place | sever _ place
        | reject _ place | closeInboxes _ _ place => simp [fires?, place]
  | hear arrival link change => cases change <;> simp [fires?]

def Unfailing (traffic : Traffic) : Prop :=
  ∀ (number : Nat) (call : Call) (reason : String),
    traffic.calls[number]? ≠ some (call, .failing reason)

theorem unfailing_of_moves (course : traffic.OnCourse) (unfailing : traffic.Unfailing)
    (granted : traffic.refuses? move ≠ some .start) (moved : Moves traffic move later) :
    later.Unfailing := by
  intro number call reason stands
  rcases standing_of_moves moved stands with
    stood | ⟨_, _, begun⟩ | ⟨host, task, own, stood, change⟩
  · exact unfailing number call reason stood
  · cases call <;> cases begun
  · have reaches := course.sound.reaches number call task stood
    generalize later.link = link at change
    generalize fails : Task.failing reason = next at change
    cases change with
    | startFails fresh reason written refused =>
        cases call with
        | start => exact granted (by simp [own, refused, refuses?, stood])
        | _ => exact reaches.elim
    | unsayable _ ticket | writeFails _ ticket | explain ticket => cases ticket <;> cases fails
    | _ => cases fails

theorem worker_of_fires (unfailing : traffic.Unfailing) {opening : Opening}
    (fires : traffic.fires? move = some opening) :
    traffic.link.worker = .announcing ∨ traffic.link.worker = .signalling opening := by
  cases move with
  | begin call => cases fires
  | arrive arrival => cases fires
  | advance number host =>
      simp only [fires?] at fires
      split at fires
      next call reason stands => exact (unfailing number call reason stands).elim
      next => cases fires
  | work =>
      simp only [fires?] at fires
      split at fires
      next place => exact .inl place
      next due place =>
        cases fires
        exact .inr place
      next => cases fires

theorem unfired_of_fires (course : traffic.OnCourse) (unfailing : traffic.Unfailing)
    {opening : Opening} (fires : traffic.fires? move = some opening) :
    traffic.link.signal.opening = none := by
  have heralds := course.placed.heralds
  rcases worker_of_fires unfailing fires with place | place
  · rw [place] at heralds
    exact heralds
  · rw [place] at heralds
    exact heralds.1

/-- Only a link without a worker spawns one, and then it has one. -/
theorem worker_of_moves (course : traffic.OnCourse) (moved : Moves traffic move later) :
    ((traffic.spawns? move).isSome = true ∧ traffic.link.worker = .absent ∧
        later.link.worker ≠ .absent) ∨
      traffic.spawns? move = none ∧
        (later.link.worker = .absent ↔ traffic.link.worker = .absent) := by
  cases moved with
  | begin call => exact .inr ⟨rfl, Iff.rfl⟩
  | advance number host call task next link stands change =>
      cases change with
      | start fresh granted =>
          left
          simp [spawns?, granted, stands, fresh, (course.placed.fresh fresh).1]
      | startFails fresh reason written refused =>
          right
          simp [spawns?, refused]
      | startLate used =>
          right
          cases host <;> simp [spawns?, stands, used]
      | _ =>
          right
          cases host <;> simp [spawns?, stands, Link.mapExchange]
  | work link change | hear arrival link change =>
      obtain ⟨before, after⟩ := Link.begun_of_works change
      exact .inr ⟨rfl, by simp [before, after]⟩

theorem told_of_moves (sound : traffic.Sound)
    (told : ∀ (number : Nat) (receipt : Receipt),
      traffic.calls[number]? = some (.awaitOpening, .finished receipt) →
      ∃ opening, traffic.link.signal.opening = some opening ∧
        receipt = Task.receiptOf opening.result)
    (moved : Moves traffic move later) {number : Nat} {receipt : Receipt}
    (stands : later.calls[number]? = some (.awaitOpening, .finished receipt)) :
    ∃ opening, later.link.signal.opening = some opening ∧
      receipt = Task.receiptOf opening.result := by
  have kept : ∀ {opening}, traffic.link.signal.opening = some opening →
      later.link.signal.opening = some opening := by
    intro opening fired
    simp [opening_of_moves moved, fired]
  rcases standing_of_moves moved stands with stood | ⟨_, _, begun⟩ | ⟨host, task, _, stood, change⟩
  · obtain ⟨opening, fired, same⟩ := told number receipt stood
    exact ⟨opening, kept fired, same⟩
  · cases begun
  · have reaches := sound.reaches number _ task stood
    generalize reported : Task.finished receipt = next at change
    generalize later.link = link at change kept ⊢
    cases change with
    | learn opening fired =>
        cases reported
        exact ⟨opening, kept fired, rfl⟩
    | unsayable | writeFails | explain => exact reaches.elim
    | start | startLate | retire | registerTwice | write | release | subscribe | listen
      | closeAgain | closeInboxes => exact reaches.elim
    | _ => cases reported

end Moves

/-! ## Runs -/

structure Lives (first : Traffic) (run : List Move) (last : Traffic) : Prop where
  course : last.OnCourse
  unfailing : last.Unfailing
  idle : last.link.worker = .absent → last.link.signal.opening = none
  spawned : (first.along spawns? run).length = if last.link.worker = .absent then 0 else 1
  fired : first.along fires? run = last.link.signal.opening.toList
  told : ∀ (number : Nat) (receipt : Receipt),
    last.calls[number]? = some (.awaitOpening, .finished receipt) →
    ∃ opening, last.link.signal.opening = some opening ∧ receipt = Task.receiptOf opening.result
  connected : last.link.Opened →
    ∃ (front back : List Move) (state : Traffic), run = front ++ back ∧
      first.moves front = some state ∧ state.link.phase = .connected ∧
      state.link.writable = true ∧ state.link.signal.opening = none

theorem lives_of_create {settings : Settings} {link : Link}
    (created : Link.create settings = .ok link) : Lives { link } [] { link } := by
  have fresh := link_of_create created
  exact {
    course := on_course_of_create created
    unfailing := fun number call reason => by simp
    idle := fun _ => by rw [fresh]
    spawned := by simp [fresh, along]
    fired := by simp [fresh, along]
    told := fun number receipt stands => by simp at stands
    connected := fun opened => (not_greeted_of_create created (.inr opened)).elim }

section Lives

variable {first state later last : Traffic} {front run : List Move} {move : Move}

theorem idle_of_lives (lives : Lives first front state) (moved : Moves state move later)
    (absent : later.link.worker = .absent) : later.link.signal.opening = none := by
  rcases worker_of_moves lives.course moved with ⟨_, _, present⟩ | ⟨_, same⟩
  · exact (present absent).elim
  · have absentBefore := same.mp absent
    have unfired := lives.idle absentBefore
    rw [opening_of_moves moved, unfired, Option.none_or]
    cases fires : state.fires? move with
    | none => rfl
    | some opening =>
        rcases worker_of_fires lives.unfailing fires with place | place <;>
          simp [place] at absentBefore

theorem spawned_of_lives (ran : first.moves front = some state) (lives : Lives first front state)
    (moved : Moves state move later) :
    (first.along spawns? (front ++ [move])).length =
      if later.link.worker = .absent then 0 else 1 := by
  rw [along_snoc ran, List.length_append, lives.spawned]
  rcases worker_of_moves lives.course moved with ⟨spawns, absent, present⟩ | ⟨none, same⟩
  · obtain ⟨number, spawns⟩ := Option.isSome_iff_exists.mp spawns
    simp [spawns, absent, present]
  · simp [none, same]

theorem fired_of_lives (ran : first.moves front = some state) (lives : Lives first front state)
    (moved : Moves state move later) :
    first.along fires? (front ++ [move]) = later.link.signal.opening.toList := by
  rw [along_snoc ran, lives.fired, opening_of_moves moved]
  cases fires : state.fires? move with
  | none => simp
  | some opening => simp [unfired_of_fires lives.course lives.unfailing fires]

theorem connected_of_lives (ran : first.moves (front ++ [move]) = some later)
    (lives : Lives first front state) (moved : Moves state move later)
    (opened : later.link.Opened) :
    ∃ (before after : List Move) (reached : Traffic), front ++ [move] = before ++ after ∧
      first.moves before = some reached ∧ reached.link.phase = .connected ∧
      reached.link.writable = true ∧ reached.link.signal.opening = none := by
  by_cases openedBefore : state.link.Opened
  · obtain ⟨before, after, reached, split, ranBefore, facts⟩ := lives.connected openedBefore
    exact ⟨before, after ++ [move], reached, by rw [split, List.append_assoc], ranBefore, facts⟩
  · refine ⟨front ++ [move], [], later, by simp, ran, ?_⟩
    cases moved with
    | begin call => exact (openedBefore opened).elim
    | advance number host call task next link stands change =>
        exact (openedBefore (Link.opened_of_opened_changes change opened)).elim
    | work link change | hear arrival link change =>
        exact (Link.connected_of_opened lives.course.placed openedBefore change opened).2

theorem lives_of_moves (ran : first.moves front = some state) (lives : Lives first front state)
    (granted : state.refuses? move ≠ some .start) (moved : state.move move = some later) :
    Lives first (front ++ [move]) later := by
  have moves := moves_of_move moved
  have ranOn := moves_snoc ran moved
  exact {
    course := on_course_of_moves lives.course moves
    unfailing := unfailing_of_moves lives.course lives.unfailing granted moves
    idle := idle_of_lives lives moves
    spawned := spawned_of_lives ran lives moves
    fired := fired_of_lives ran lives moves
    told := fun _ _ stands => told_of_moves lives.course.sound lives.told moves stands
    connected := connected_of_lives ranOn lives moves }

theorem lives_of_run {settings : Settings} {link : Link} (created : Link.create settings = .ok link)
    (ran : ({ link } : Traffic).moves run = some last)
    (granted : .start ∉ ({ link } : Traffic).along refuses? run) : Lives { link } run last := by
  refine run_induction
    (fun run state =>
      .start ∉ ({ link } : Traffic).along refuses? run → Lives { link } run state)
    (fun _ => lives_of_create created) ?_ ran granted
  intro front state later move ranFront lives moved grantedAll
  obtain ⟨grantedFront, grantedMove⟩ := not_mem_of_snoc ranFront grantedAll
  exact lives_of_moves ranFront (lives grantedFront) grantedMove moved

theorem rank_of_run (ran : first.moves run = some last) :
    first.link.phase.rank ≤ last.link.phase.rank :=
  moves_induction (fun state => first.link.phase.rank ≤ state.link.phase.rank)
    (fun so moved => Nat.le_trans so (rank_of_moves moved)) ran (Nat.le_refl _)

/-- Where the signal was fired for a link that did not open, the worker has torn it down. -/
theorem ended_of_unopened (lives : Lives first run last) {opening : Opening}
    (fired : last.link.signal.opening = some opening) (unready : opening ≠ .ready) :
    last.link.worker = .ended := by
  have heralds := lives.course.placed.heralds
  rw [fired] at heralds
  cases place : last.link.worker with
  | absent =>
      rw [lives.idle place] at fired
      cases fired
  | ended => rfl
  | finishing stage due =>
      rw [place] at heralds
      cases due with
      | none => exact (unready (Option.some.inj heralds)).elim
      | some => cases heralds.1
  | signalling due =>
      rw [place] at heralds
      cases heralds.1
  | _ => simp_all [Worker.Heralds]

/-- On a link that was torn down, a send that has not returned comes to nothing. -/
theorem send_refused_of_torn_down (sound : state.Sound) (torn : state.TornDown)
    (ran : state.moves run = some last) {number : Nat} {action : Action} {task : Task}
    (unended : ∀ receipt, state.calls[number]? ≠ some (.send action, .finished receipt))
    (stands : last.calls[number]? = some (.send action, task)) :
    task = .finished (.refused .linkClosed) ∨ task.GoesOn last.link := by
  have doomed := (moves_induction
    (fun later => later.Severed ∧ ∀ task, later.calls[number]? = some (.send action, task) →
      task.Doomed 0 (.send action)) ?_ ran ⟨(sound.torn torn).1, ?_⟩).2 task stands
  · exact Task.goes_on_of_doomed_send doomed
  -- Doom is what every later move preserves: the call has yet to find the write half gone, or has.
  · intro before after move ⟨severed, doomed⟩ moved
    refine ⟨severed_of_moves severed moved, ?_⟩
    intro next stands
    rcases standing_of_moves moved stands with
      stood | ⟨_, _, begun⟩ | ⟨host, task, _, stood, change⟩
    · exact doomed next stood
    · rw [begun]
      exact Task.doomed_begin 0 _
    · exact Task.doomed_of_changes severed.1 severed.2 (Nat.zero_le _) (doomed task stood) change
  · intro task stood
    have reaches := sound.reaches number _ task stood
    cases task with
    | writing written ticket =>
        obtain ⟨rfl, rfl⟩ := reaches
        exact .inl rfl
    | explaining ticket =>
        obtain rfl : ticket = none := reaches
        exact .inr (.inl rfl)
    | finished receipt => exact (unended receipt stood).elim
    | _ => exact reaches.elim

end Lives

structure Lifecycle (first : Traffic) (run : List Move) (last : Traffic) : Prop where
  forward : ∀ (front back : List Move) (state : Traffic), run = front ++ back →
    first.moves front = some state → state.link.phase.rank ≤ last.link.phase.rank
  spawned : (first.along spawns? run).length ≤ 1
  /-- The signal is fired at most once, and it keeps what it was fired with. -/
  fired : first.along fires? run = last.link.signal.opening.toList
  told : ∀ (number : Nat) (receipt : Receipt),
    last.calls[number]? = some (.awaitOpening, .finished receipt) →
    ∃ opening, last.link.signal.opening = some opening ∧ receipt = Task.receiptOf opening.result
  ready : last.link.signal.opening = some .ready →
    .arrive .accepted ∈ run ∧ last.link.handshake <+: last.link.sent ∧
      ∃ (front back : List Move) (state : Traffic), run = front ++ back ∧
        first.moves front = some state ∧ state.link.phase = .connected ∧
        state.link.writable = true ∧ state.link.signal.opening = none
  otherwise : ∀ opening, last.link.signal.opening = some opening → opening ≠ .ready →
    last.link.phase = .closed ∧ last.link.writable = false ∧ last.link.exchange.closed = true ∧
      (∀ inbox ∈ last.link.exchange.inboxes, inbox.attached = false) ∧
      ∀ (more : List Move) (final : Traffic) (number : Nat) (action : Action) (task : Task),
        last.moves more = some final →
        (∀ receipt, last.calls[number]? ≠ some (.send action, .finished receipt)) →
        final.calls[number]? = some (.send action, task) →
        task = .finished (.refused .linkClosed) ∨ task.GoesOn final.link

/-- However starting, closing and waiting are mixed with everything else, as long as the host grants
a thread: the phase only moves forward, one worker is started at most, and the signal fires at most
once. Everybody who waits is told what it was fired with. It is fired for an open link only if the
server accepted the client and the link was usable; where it is fired otherwise, the link has been
torn down, and whoever has a send under way or begins one is told that the link is closed. -/
theorem lifecycle_of_run {settings : Settings} {link : Link} {run : List Move} {last : Traffic}
    (created : Link.create settings = .ok link)
    (ran : ({ link } : Traffic).moves run = some last)
    (granted : .start ∉ ({ link } : Traffic).along refuses? run) :
    Lifecycle { link } run last := by
  have lives := lives_of_run created ran granted
  have sound := lives.course.sound
  exact {
    forward := by
      intro front back state split ranFront
      rw [split, moves_append, ranFront] at ran
      exact rank_of_run ran
    spawned := by
      rw [lives.spawned]
      split <;> omega
    fired := lives.fired
    told := lives.told
    ready := by
      intro fired
      obtain ⟨accepted, shaken⟩ := greeted_of_run (on_course_of_create created)
        (not_greeted_of_create created) ran (.inr (.inr fired))
      exact ⟨accepted, shaken, lives.connected (.inr fired)⟩
    otherwise := by
      intro opening fired unready
      have ended := ended_of_unopened lives fired unready
      have torn := torn_down_of_finished sound (.inl ended)
      obtain ⟨closed, unwritable⟩ := lives.course.placed.sealed (by rw [ended]; trivial)
      exact ⟨closed, unwritable, torn, sound.detached torn,
        fun more final number action task ranOn unended stands =>
          send_refused_of_torn_down sound torn ranOn unended stands⟩ }

/-- A call closed the link while the server was being dialed. -/
def closedInDialing : List Move :=
  [.begin .start, .advance 0 .grants, .begin .awaitOpening, .begin .close, .advance 2 .grants,
    .advance 2 .grants, .advance 2 .grants, .advance 2 .grants, .arrive .accepted, .work, .work,
    .work, .work, .work, .advance 1 .grants]

def closedBeforeOpening : Traffic where
  link :=
    { settings := {}
      phase := .closed
      exchange := { revision := .v2, closed := true }
      signal := { opening := some .closed }
      worker := .ended }
  calls :=
    [(.start, .finished .done), (.awaitOpening, .finished (.refused .linkClosed)),
      (.close, .finished .done)]

theorem lifecycle_of_closed_in_dialing :
    untouched.moves closedInDialing = some closedBeforeOpening ∧
      .start ∉ untouched.along refuses? closedInDialing ∧
      Lifecycle untouched closedInDialing closedBeforeOpening := by
  have created : Link.create {} = .ok untouched.link := rfl
  have ran : untouched.moves closedInDialing = some closedBeforeOpening := rfl
  have granted : .start ∉ untouched.along refuses? closedInDialing := by decide
  exact ⟨ran, granted, lifecycle_of_run created ran granted⟩

/-! ## Before anybody is told -/

/-- An action can be sent as soon as the link is usable. The signal fires in the worker's next
change; so whoever has sent an action finds that it has fired, unless the worker still stands right
before that change. -/
theorem ready_iff_announced {traffic : Traffic} {number : Nat} {action : Action}
    (reachable : traffic.Reachable) (spoke : traffic.Spoke number action) :
    (traffic.link.signal.opening = some .ready ↔ traffic.link.worker ≠ .announcing) ∧
      (traffic.link.worker = .announcing →
        traffic.link.signal.opening = none ∧
          ∃ later, traffic.move .work = some later ∧
            later.link.signal.opening = some .ready) := by
  have course := on_course_of_reachable reachable
  have opened := opened_of_spoke reachable spoke
  have unfired : traffic.link.worker = .announcing → traffic.link.signal.opening = none := by
    intro announcing
    have heralds := course.placed.heralds
    rw [announcing] at heralds
    exact heralds
  constructor
  · constructor
    · intro fired announcing
      rw [unfired announcing] at fired
      cases fired
    · intro told
      rcases opened with announcing | fired
      · exact (told announcing).elim
      · exact fired
  · intro announcing
    refine ⟨unfired announcing, ?_⟩
    simp [move, Link.work_of_announcing announcing, Signal.opening_fire_of_none,
      unfired announcing]

/-- The link has just become usable; the worker is about to fire the signal. -/
def unannounced : List Move := [.begin .start, .advance 0 .grants, .arrive .accepted, .work]

def sentUnannounced : Traffic where
  link :=
    { settings := {}
      phase := .connected
      writable := true
      exchange := { revision := .v2 }
      worker := .announcing
      sent := [0] }
  calls := [(.start, .finished .done), (.send .ping, .finished .done)]

theorem reachable_sent_unannounced : sentUnannounced.Reachable :=
  ⟨{}, untouched.link, unannounced ++ [.begin (.send .ping), .advance 1 .grants], rfl, rfl⟩

theorem ready_after_sent_unannounced :
    sentUnannounced.Reachable ∧ sentUnannounced.Spoke 1 .ping ∧
      ∃ later, sentUnannounced.move .work = some later ∧
        later.link.signal.opening = some .ready := by
  have spoke : sentUnannounced.Spoke 1 .ping := .inl rfl
  exact ⟨reachable_sent_unannounced, spoke,
    ((ready_iff_announced reachable_sent_unannounced spoke).2 rfl).2⟩

/-- A send and an action have each returned without an error, and the signal has not fired. -/
theorem sent_before_ready :
    (untouched.moves (unannounced ++ [.begin (.send .ping), .advance 1 .grants])).map
      (fun last => (last.receipt? 1, last.link.sent, last.link.signal.opening)) =
        some (some .done, [0], none) ∧
    (untouched.moves
        (unannounced ++ [.begin (.act .ping), .advance 1 .grants, .advance 1 .grants])).map
      (fun last => (last.receipt? 1, last.link.sent, last.link.signal.opening)) =
        some (some (.number 0), [0], none) ∧
    Link.create {} = .ok untouched.link :=
  ⟨rfl, rfl, rfl⟩

end Traffic

end WatchLink
