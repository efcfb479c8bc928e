import WatchLink.Proofs.Traffic.Answers
import WatchLink.Proofs.Traffic.Closing
import WatchLink.Proofs.Traffic.Runs

/-!
# What the server receives

A message has no frame, so a byte too many or too few leaves the server at a loss for good. As long
as the transport takes up what is written, the server receives the announcement of revision 1, then
the actions that were sent, whole and in the order of their writing, and last the farewell of
revision 1, for every order in which callers and worker get to their changes: `transcript_of_run`.
-/

namespace WatchLink

set_option autoImplicit false

/-- The server accepts the connection; what it is told at once belongs to the dialing. -/
def Move.accepts : Move → Bool
  | arrive .accepted | arrive (.unusable _) => true
  | _ => false

/-- What the server receives of a client that was accepted or not, said this, and took its leave or
did not. -/
def Settings.transcript (settings : Settings) (accepted : Bool) (said : List Bytes) (left : Bool) :
    Bytes :=
  (if settings.revision = .v1 ∧ accepted then [settings.purpose.byte] else []) ++ said.flatten ++
    (if settings.revision = .v1 ∧ left then [0, 2] else [])

namespace Traffic

/-- The call that hangs up and finds the write half still there. -/
def hangsUp? (traffic : Traffic) : Move → Option Nat
  | .advance number _ =>
      match traffic.calls[number]? with
      | some (_, .hangingUp) => if traffic.link.writable then some number else none
      | _ => none
  | _ => none

/-! ## One move -/

inductive Utters (traffic : Traffic) (move : Move) (later : Traffic) : Prop where
  | greeting (accepts : move.accepts = true) (dialing : traffic.link.worker = .dialing)
      (sends : traffic.sends? move = none) (hangsUp : traffic.hangsUp? move = none)
      (sent : later.link.sent = traffic.link.sent ++ traffic.link.handshake)
  | action (accepts : move.accepts = false) (number : Nat) (action : Action)
      (sends : traffic.sends? move = some (number, action)) (hangsUp : traffic.hangsUp? move = none)
  | farewell (accepts : move.accepts = false) (number : Nat)
      (sends : traffic.sends? move = none) (hangsUp : traffic.hangsUp? move = some number)
      (sent : later.link.sent = traffic.link.sent ++ (Task.takeLeave .grants traffic.link).2)
  | nothing (accepts : move.accepts = false)
      (sends : traffic.sends? move = none) (hangsUp : traffic.hangsUp? move = none)
      (sent : later.link.sent = traffic.link.sent)

section Moves

variable {traffic later : Traffic} {move : Move}

theorem sends_eq_none_of_elsewhere {host : Host} {number : Nat} {call : Call} {task : Task}
    (stands : traffic.calls[number]? = some (call, task))
    (elsewhere : ∀ action ticket, task ≠ .writing action ticket) :
    traffic.sends? (.advance number host) = none := by
  cases task with
  | writing action ticket => exact (elsewhere action ticket rfl).elim
  | _ => simp [sends?, stands]

theorem sends_eq_none_of_unsent {host : Host} {number : Nat} {call : Call} {task : Task}
    (moved : traffic.move (.advance number host) = some later)
    (stands : later.calls[number]? = some (call, task))
    (unsent : ∀ ticket, task ≠ .finished (Task.sentReceipt ticket)) :
    traffic.sends? (.advance number host) = none := by
  refine Option.eq_none_iff_forall_ne_some.mpr ?_
  intro sent sends
  obtain ⟨_, _, ticket, same, _, ended⟩ := (sends_eq_some_iff moved).mp sends
  cases same
  rw [stands] at ended
  cases ended
  exact unsent ticket rfl

theorem refuse_ne_sent (cause : ClientError) (ticket other : Option Nat) :
    Task.refuse cause ticket ≠ .finished (Task.sentReceipt other) := by
  cases ticket <;> cases other <;> simp [Task.refuse, Task.sentReceipt]

theorem utters_of_move (sound : traffic.Sound)
    (accepting : ∀ call, traffic.refuses? move = some call → call = .start)
    (moved : traffic.move move = some later) : Utters traffic move later := by
  cases moves_of_move moved with
  | begin call => exact .nothing rfl rfl rfl rfl
  | work link change => cases change <;> exact .nothing rfl rfl rfl rfl
  | hear arrival link change =>
      cases change with
      | dial place => exact .greeting rfl place rfl rfl rfl
      | spoil place => exact .greeting rfl place rfl rfl rfl
      | lose place arrival ends =>
          rcases ends with rfl | ⟨reason, rfl⟩ <;> exact .nothing rfl rfl rfl rfl
      | _ => exact .nothing rfl rfl rfl rfl
  | advance number host call task next link stands change =>
      have present := (List.getElem?_eq_some_iff.mp stands).1
      have reaches := sound.reaches number call task stands
      -- A call that writes is not a start, so the host grants it what it asks for.
      have granted : call ≠ .start → host = .grants := by
        intro other
        cases host with
        | grants => rfl
        | refuses => exact (other (accepting call (by simp [refuses?, stands]))).elim
      cases change with
      | write action ticket bytes writable encoded =>
          have ended := (sends_eq_some_iff moved).mpr
            ⟨host, call, ticket, rfl, stands, List.getElem?_set_self present⟩
          exact .action rfl number action ended (by simp [hangsUp?, stands])
      | writeFails _ _ _ _ _ _ _ refused =>
          cases call with
          | send | act => simp [granted (by simp)] at refused
          | _ => exact reaches.elim
      | hangUp writable =>
          cases call with
          | close =>
              obtain rfl := granted (by simp)
              exact .farewell rfl number (sends_eq_none_of_elsewhere stands (by simp))
                (by simp [hangsUp?, stands, writable]) rfl
          | _ => exact reaches.elim
      | nothingToHangUp unwritable =>
          exact .nothing rfl (sends_eq_none_of_elsewhere stands (by simp))
            (by simp [hangsUp?, stands, unwritable]) rfl
      | nothingToWriteTo =>
          exact .nothing rfl
            (sends_eq_none_of_unsent moved (List.getElem?_set_self present) (by simp))
            (by simp [hangsUp?, stands]) rfl
      | unsayable _ ticket cause =>
          exact .nothing rfl
            (sends_eq_none_of_unsent moved (List.getElem?_set_self present)
              (refuse_ne_sent cause ticket))
            (by simp [hangsUp?, stands]) rfl
      | _ =>
          exact .nothing rfl (sends_eq_none_of_elsewhere stands (by simp))
            (by simp [hangsUp?, stands]) rfl

/-- Whoever hangs up takes the write half away from a closed link. -/
theorem severed_of_hangs_up (sound : traffic.Sound) {number : Nat}
    (hangsUp : traffic.hangsUp? move = some number) (moved : Moves traffic move later) :
    traffic.link.writable = true ∧ later.Severed ∧
      ∃ task, later.calls[number]? = some (.close, task) := by
  cases moved with
  | advance moving host call task next link stands change =>
      have present := (List.getElem?_eq_some_iff.mp stands).1
      have reaches := sound.reaches moving call task stands
      have grounded := sound.grounded moving call task stands
      simp only [hangsUp?, stands] at hangsUp
      cases change with
      | hangUp writable =>
          obtain rfl : moving = number := by simpa [writable] using hangsUp
          cases call with
          | close => exact ⟨writable, ⟨grounded, rfl⟩, _, List.getElem?_set_self present⟩
          | _ => exact reaches.elim
      | nothingToHangUp unwritable => simp [unwritable] at hangsUp
      | _ => cases hangsUp
  | _ => cases hangsUp

theorem not_unheard_of_moves (course : traffic.OnCourse) (heard : ¬traffic.link.worker.Unheard)
    (moved : Moves traffic move later) : ¬later.link.worker.Unheard := by
  cases moved with
  | begin call => exact heard
  | advance number host call task next link stands change =>
      rcases worker_of_changes change with same | ⟨untouched, _⟩
      · rw [same]
        exact heard
      · rw [(course.placed.fresh untouched).1] at heard
        exact (heard trivial).elim
  | work link change | hear arrival link change => exact Link.not_unheard_of_works change

theorem handshake_eq (link : Link) :
    link.handshake =
      if link.settings.revision = .v1 then [link.settings.purpose.byte] else [] := by
  cases revision : link.settings.revision with
  | v1 => cases purpose : link.settings.purpose <;>
      simp [Link.handshake, Link.revision, revision, purpose] <;> rfl
  | v2 | v3 => simp [Link.handshake, Link.revision, revision, Revision.hasHandshake]

theorem take_leave_eq (link : Link) :
    (Task.takeLeave .grants link).2 = if link.settings.revision = .v1 then [0, 2] else [] := by
  cases revision : link.settings.revision with
  | v1 =>
      simp [Task.takeLeave, Host.write, Link.farewell, Link.revision, revision]
      rfl
  | v2 | v3 => simp [Task.takeLeave, Link.revision, revision, Revision.supportsClose]

end Moves

/-! ## Runs -/

structure Tells (first : Traffic) (run : List Move) (last : Traffic) : Prop where
  course : last.OnCourse
  said : ∃ said : List Bytes,
    (first.along sends? run).map (fun writer => writer.2.encode last.link.revision) =
      said.map Except.ok ∧
    last.link.sent = last.link.settings.transcript (run.any Move.accepts) said
      !(first.along hangsUp? run).isEmpty
  opened : first.along sends? run ≠ [] ∨ first.along hangsUp? run ≠ [] → last.link.Opened
  heard : run.any Move.accepts = true → ¬last.link.worker.Unheard
  severed : first.along hangsUp? run ≠ [] → last.Severed
  once : (first.along hangsUp? run).length ≤ 1

theorem tells_of_create {settings : Settings} {link : Link}
    (created : Link.create settings = .ok link) : Tells { link } [] { link } where
  course := on_course_of_create created
  said := ⟨[], rfl, by simp [link_of_create created, Settings.transcript, along]⟩
  opened impossible := by simp [along] at impossible
  heard impossible := by simp at impossible
  severed impossible := by simp [along] at impossible
  once := by simp [along]

section Tells

variable {first state later last : Traffic} {front run : List Move} {move : Move}

theorem said_of_greeting (tells : Tells first front state)
    (dialing : state.link.worker = .dialing) :
    front.any Move.accepts = false ∧ first.along sends? front = [] ∧
      first.along hangsUp? front = [] := by
  have unheard : state.link.worker.Unheard := by
    rw [dialing]
    trivial
  have unopened : ¬state.link.Opened := fun opened =>
    Link.not_unheard_of_opened tells.course.placed opened unheard
  refine ⟨?_, ?_, ?_⟩
  · by_contra accepted
    exact tells.heard (by simpa using accepted) unheard
  · by_contra said
    exact unopened (tells.opened (.inl said))
  · by_contra left
    exact unopened (tells.opened (.inr left))

theorem accepted_of_opened (course : first.OnCourse) (ungreeted : ¬first.link.Greeted)
    (ran : first.moves run = some last) (opened : last.link.Opened) :
    run.any Move.accepts = true := by
  have accepted := (greeted_of_run course ungreeted ran (.inr opened)).1
  exact List.any_eq_true.mpr ⟨_, accepted, rfl⟩

theorem settings_of_moves (moved : Moves state move later) :
    later.link.settings = state.link.settings :=
  (grows_of_moves moved).settings

theorem said_of_move (course : first.OnCourse) (ungreeted : ¬first.link.Greeted)
    (ran : first.moves front = some state) (tells : Tells first front state)
    (moved : state.move move = some later) (utters : Utters state move later) :
    ∃ said : List Bytes,
      (first.along sends? (front ++ [move])).map
        (fun writer => writer.2.encode later.link.revision) = said.map Except.ok ∧
      later.link.sent = later.link.settings.transcript ((front ++ [move]).any Move.accepts) said
        !(first.along hangsUp? (front ++ [move])).isEmpty := by
  obtain ⟨said, encoded, sent⟩ := tells.said
  have settings := settings_of_moves (moves_of_move moved)
  have revision : later.link.revision = state.link.revision := by
    rw [Link.revision, Link.revision, settings]
  -- Who writes has the write half, so the link is open and nobody has taken it away.
  have writing : state.link.writable = true →
      front.any Move.accepts = true ∧ first.along hangsUp? front = [] := by
    intro writable
    have opened := Link.opened_of_writable tells.course.placed writable
    refine ⟨accepted_of_opened course ungreeted ran opened, ?_⟩
    by_contra left
    rw [(tells.severed left).2] at writable
    cases writable
  rw [along_snoc ran, along_snoc ran, revision, settings, List.any_append]
  cases utters with
  | greeting accepts dialing sends hangsUp sentLater =>
      obtain ⟨unaccepted, unsaid, unleft⟩ := said_of_greeting tells dialing
      refine ⟨[], by simp [unsaid, sends], ?_⟩
      have silent := tells.course.placed.unheard (by rw [dialing]; trivial)
      rw [sentLater, silent, handshake_eq]
      simp [Settings.transcript, accepts, unleft, hangsUp]
  | action accepts number action sends hangsUp =>
      obtain ⟨writable, bytes, bytesOf, changed⟩ := written_of_sends moved sends
      obtain ⟨accepted, unleft⟩ := writing writable
      refine ⟨said ++ [bytes], by simp [encoded, sends, bytesOf], ?_⟩
      rw [changed, sent]
      simp [Settings.transcript, accepted, unleft, hangsUp]
  | farewell accepts number sends hangsUp sentLater =>
      obtain ⟨writable, _⟩ := severed_of_hangs_up tells.course.sound hangsUp (moves_of_move moved)
      obtain ⟨accepted, unleft⟩ := writing writable
      refine ⟨said, by simp [encoded, sends], ?_⟩
      rw [sentLater, sent, take_leave_eq]
      simp [Settings.transcript, accepted, unleft, hangsUp]
  | nothing accepts sends hangsUp sentLater =>
      refine ⟨said, by simp [encoded, sends], ?_⟩
      rw [sentLater, sent]
      simp [accepts, hangsUp]

theorem hangs_up_of_utters (tells : Tells first front state)
    (ran : first.moves front = some state) (moved : Moves state move later)
    (utters : Utters state move later) :
    (first.along hangsUp? (front ++ [move]) ≠ [] → later.Severed) ∧
      (first.along hangsUp? (front ++ [move])).length ≤ 1 := by
  rw [along_snoc ran]
  cases utters with
  | farewell accepts number sends hangsUp sentLater =>
      obtain ⟨writable, severed, _⟩ := severed_of_hangs_up tells.course.sound hangsUp moved
      have unleft : first.along hangsUp? front = [] := by
        by_contra left
        rw [(tells.severed left).2] at writable
        cases writable
      exact ⟨fun _ => severed, by simp [unleft, hangsUp]⟩
  | greeting _ _ _ hangsUp | action _ _ _ _ hangsUp | nothing _ _ hangsUp =>
      simp only [hangsUp, Option.toList_none, List.append_nil]
      exact ⟨fun left => severed_of_moves (tells.severed left) moved, tells.once⟩

theorem opened_of_utters (tells : Tells first front state) (ran : first.moves front = some state)
    (moved : state.move move = some later) (utters : Utters state move later)
    (said : first.along sends? (front ++ [move]) ≠ [] ∨
      first.along hangsUp? (front ++ [move]) ≠ []) : later.link.Opened := by
  refine opened_of_moves tells.course ?_ (moves_of_move moved)
  rw [along_snoc ran, along_snoc ran] at said
  cases utters with
  | action accepts number action sends =>
      exact Link.opened_of_writable tells.course.placed (written_of_sends moved sends).1
  | farewell accepts number sends hangsUp =>
      exact Link.opened_of_writable tells.course.placed
        (severed_of_hangs_up tells.course.sound hangsUp (moves_of_move moved)).1
  | greeting _ _ sends hangsUp | nothing _ sends hangsUp =>
      exact tells.opened (by simpa [sends, hangsUp] using said)

theorem heard_of_utters (tells : Tells first front state) (moved : Moves state move later)
    (utters : Utters state move later) (accepted : (front ++ [move]).any Move.accepts = true) :
    ¬later.link.worker.Unheard := by
  cases utters with
  | greeting accepts dialing =>
      cases moved with
      | hear arrival link change => exact Link.not_unheard_of_works change
      | _ => cases accepts
  | action accepts | farewell accepts | nothing accepts =>
      refine not_unheard_of_moves tells.course (tells.heard ?_) moved
      simpa [accepts] using accepted

theorem tells_of_move (course : first.OnCourse) (ungreeted : ¬first.link.Greeted)
    (ran : first.moves front = some state) (tells : Tells first front state)
    (accepting : ∀ call, state.refuses? move = some call → call = .start)
    (moved : state.move move = some later) : Tells first (front ++ [move]) later := by
  have moves := moves_of_move moved
  have utters := utters_of_move tells.course.sound accepting moved
  exact {
    course := on_course_of_moves tells.course moves
    said := said_of_move course ungreeted ran tells moved utters
    opened := opened_of_utters tells ran moved utters
    heard := heard_of_utters tells moves utters
    severed := (hangs_up_of_utters tells ran moves utters).1
    once := (hangs_up_of_utters tells ran moves utters).2 }

theorem tells_of_run {settings : Settings} {link : Link}
    (created : Link.create settings = .ok link)
    (ran : ({ link } : Traffic).moves run = some last)
    (accepting : ∀ call ∈ ({ link } : Traffic).along refuses? run, call = .start) :
    Tells { link } run last := by
  refine run_induction
    (fun run state =>
      (∀ call ∈ ({ link } : Traffic).along refuses? run, call = .start) → Tells { link } run state)
    (fun _ => tells_of_create created) ?_ ran accepting
  intro front state later move ranFront tells moved acceptingAll
  rw [along_snoc ranFront] at acceptingAll
  refine tells_of_move (on_course_of_create created) (not_greeted_of_create created) ranFront
    (tells fun call member => acceptingAll call (List.mem_append_left _ member)) ?_ moved
  intro call refuses
  exact acceptingAll call (List.mem_append_right _ (by simp [refuses]))

theorem mem_sends_iff {settings : Settings} {link : Link}
    (created : Link.create settings = .ok link)
    (ran : ({ link } : Traffic).moves run = some last) (number : Nat) (action : Action) :
    (number, action) ∈ ({ link } : Traffic).along sends? run ↔ last.Spoke number action := by
  refine run_induction
    (fun run state =>
      (number, action) ∈ ({ link } : Traffic).along sends? run ↔ state.Spoke number action)
    (by simp [along, Spoke]) ?_ ran
  intro front state later move ranFront known moved
  have sound := (on_course_of_run (on_course_of_create created) ranFront).sound
  rw [along_snoc ranFront, List.mem_append, known, Option.mem_toList,
    spoke_iff_of_move sound moved]

/-- Nobody writes twice: a call that has written has returned. -/
theorem nodup_sends {settings : Settings} {link : Link}
    (created : Link.create settings = .ok link)
    (ran : ({ link } : Traffic).moves run = some last) :
    ((({ link } : Traffic).along sends? run).map Prod.fst).Nodup := by
  refine run_induction
    (fun run _ => ((({ link } : Traffic).along sends? run).map Prod.fst).Nodup)
    (by simp [along]) ?_ ran
  intro front state later move ranFront nodup moved
  rw [along_snoc ranFront, List.map_append]
  refine List.nodup_append.mpr ⟨nodup, ?_, ?_⟩
  · cases state.sends? move <;> simp
  · intro number before other now same
    subst same
    -- Whoever wrote before has returned, and whoever writes now has not.
    obtain ⟨⟨_, earlier⟩, writer, rfl⟩ := List.mem_map.mp before
    obtain ⟨⟨_, again⟩, sends, same⟩ := List.mem_map.mp now
    cases same
    obtain ⟨_, _, _, _, stands, _⟩ :=
      (sends_eq_some_iff moved).mp (Option.mem_toList.mp sends)
    rcases (mem_sends_iff created ranFront _ earlier).mp writer with sent | ⟨_, acted⟩
    · rw [stands] at sent
      cases sent
    · rw [stands] at acted
      cases acted

theorem closer_of_hangs_up {settings : Settings} {link : Link}
    (created : Link.create settings = .ok link)
    (ran : ({ link } : Traffic).moves run = some last) {number : Nat}
    (hangsUp : number ∈ ({ link } : Traffic).along hangsUp? run) :
    ∃ task, last.calls[number]? = some (.close, task) := by
  refine run_induction
    (fun run state => number ∈ ({ link } : Traffic).along hangsUp? run →
      ∃ task, state.calls[number]? = some (.close, task))
    (by simp [along]) ?_ ran hangsUp
  intro front state later move ranFront known moved member
  rw [along_snoc ranFront, List.mem_append] at member
  rcases member with before | now
  · obtain ⟨task, stands⟩ := known before
    rcases next_standing_of_moves (moves_of_move moved) stands with still | ⟨_, next, _, later, _⟩
    · exact ⟨task, still⟩
    · exact ⟨next, later⟩
  · have sound := (on_course_of_run (on_course_of_create created) ranFront).sound
    exact (severed_of_hangs_up sound (Option.mem_toList.mp now) (moves_of_move moved)).2.2

/-- Once somebody took leave, nothing more is said. -/
theorem sent_of_severed (course : state.OnCourse) (severed : state.Severed)
    (opened : state.link.Opened) (ran : state.moves run = some last) :
    last.link.sent = state.link.sent := by
  have known := moves_induction
    (fun later => (later.OnCourse ∧ later.Severed ∧ later.link.Opened) ∧
      later.link.sent = state.link.sent) ?_ ran ⟨⟨course, severed, opened⟩, rfl⟩
  · exact known.2
  intro before after move ⟨⟨held, cut, open'⟩, same⟩ moved
  refine ⟨⟨on_course_of_moves held moved, severed_of_moves cut moved,
    opened_of_moves held open' moved⟩, ?_⟩
  rw [← same]
  have heard := Link.not_unheard_of_opened held.placed open'
  cases moved with
  | begin call => rfl
  | advance number host call task next link stands change =>
      exact sent_of_advance cut (.advance number host call task next link stands change)
  | work link change => cases change <;> rfl
  | hear arrival link change =>
      cases change with
      | dial place | spoil place => exact (heard (by rw [place]; trivial)).elim
      | _ => rfl

end Tells

/-- What the server has received when the run from `first` to `last` is over. -/
structure Transcript (first : Traffic) (run : List Move) (last : Traffic) : Prop where
  bytes : ∃ said : List Bytes,
    (first.along sends? run).map (fun writer => writer.2.encode last.link.revision) =
      said.map Except.ok ∧
    last.link.sent = last.link.settings.transcript (run.any Move.accepts) said
      !(first.along hangsUp? run).isEmpty
  writers : ∀ (number : Nat) (action : Action),
    (number, action) ∈ first.along sends? run ↔ last.Spoke number action
  once : ((first.along sends? run).map Prod.fst).Nodup
  /-- Nothing is said before the server has accepted. -/
  greeted : first.along sends? run ≠ [] ∨ first.along hangsUp? run ≠ [] →
    run.any Move.accepts = true
  left : (first.along hangsUp? run).length ≤ 1 ∧ ∀ number ∈ first.along hangsUp? run,
    ∃ task, last.calls[number]? = some (.close, task)
  /-- A call that comes to nothing says nothing in any of its changes. -/
  failed : ∀ (front back : List Move) (number : Nat) (host : Host) (state later : Traffic)
    (call : Call) (cause : ClientError), run = front ++ .advance number host :: back →
    first.moves front = some state → state.move (.advance number host) = some later →
    last.calls[number]? = some (call, .finished (.refused cause)) → call ≠ .close →
    later.link.sent = state.link.sent
  /-- Nothing is said after the farewell. -/
  final : ∀ (front back : List Move) (state : Traffic), run = front ++ back →
    first.moves front = some state → first.along hangsUp? front ≠ [] →
    last.link.sent = state.link.sent

theorem failed_of_run {settings : Settings} {link : Link} {front back : List Move} {number : Nat}
    {host : Host} {state later last : Traffic} {call : Call} {cause : ClientError}
    (created : Link.create settings = .ok link)
    (ran : ({ link } : Traffic).moves (front ++ .advance number host :: back) = some last)
    (accepting : ∀ call ∈
      ({ link } : Traffic).along refuses? (front ++ .advance number host :: back), call = .start)
    (ranFront : ({ link } : Traffic).moves front = some state)
    (moved : state.move (.advance number host) = some later)
    (failed : last.calls[number]? = some (call, .finished (.refused cause)))
    (other : call ≠ .close) : later.link.sent = state.link.sent := by
  have sound := (on_course_of_run (on_course_of_create created) ranFront).sound
  have acceptingMove : ∀ call, state.refuses? (.advance number host) = some call →
      call = .start := by
    intro call refuses
    refine accepting call ?_
    rw [along_split ranFront moved]
    simp [refuses]
  cases utters_of_move sound acceptingMove moved with
  | greeting accepts => cases accepts
  | nothing accepts sends hangsUp sent => exact sent
  | action accepts writer action sends =>
      obtain ⟨_, mover, ticket, same, _, ended⟩ := (sends_eq_some_iff moved).mp sends
      cases same
      rw [moves_split ranFront moved] at ran
      rw [finished_of_run ended ran] at failed
      cases ticket <;> cases failed
  | farewell accepts closer sends hangsUp =>
      obtain rfl : closer = number := by
        simp only [hangsUp?] at hangsUp
        split at hangsUp <;> simp_all
      have member : closer ∈ ({ link } : Traffic).along hangsUp?
          (front ++ .advance closer host :: back) := by
        rw [along_split ranFront moved]
        simp [hangsUp]
      obtain ⟨task, stands⟩ := closer_of_hangs_up created ran member
      rw [failed] at stands
      cases stands
      exact (other rfl).elim

/-- As long as the transport takes up what is written, the server receives, whoever does what and in
whatever order: the announcement of revision 1 once it has accepted; every action that was sent,
whole and in the order of writing; and last the farewell of revision 1, if a call that hangs up
found the write half there. A call that fails adds nothing. -/
theorem transcript_of_run {settings : Settings} {link : Link} {run : List Move} {last : Traffic}
    (created : Link.create settings = .ok link)
    (ran : ({ link } : Traffic).moves run = some last)
    (accepting : ∀ call ∈ ({ link } : Traffic).along refuses? run, call = .start) :
    Transcript { link } run last := by
  have tells := tells_of_run created ran accepting
  have course := on_course_of_create created
  exact {
    bytes := tells.said
    writers := mem_sends_iff created ran
    once := nodup_sends created ran
    greeted := fun said =>
      accepted_of_opened course (not_greeted_of_create created) ran (tells.opened said)
    left := ⟨tells.once, fun _ member => closer_of_hangs_up created ran member⟩
    failed := by
      rintro front back number host state later call cause rfl ranFront moved failed other
      exact failed_of_run created ran accepting ranFront moved failed other
    final := by
      rintro front back state rfl ranFront left
      have tellsFront := tells_of_run created ranFront fun call member =>
        accepting call (by rw [along_append ranFront]; exact List.mem_append_left _ member)
      rw [moves_append, ranFront, Option.bind_some] at ran
      exact sent_of_severed tellsFront.course (tellsFront.severed left)
        (tellsFront.opened (.inr left)) ran }

/-- A client of revision 1 pings, fails to store an entry, and hangs up; a start is refused. -/
def pingAndHangUp : List Move :=
  [.begin .start, .advance 0 .grants, .arrive .accepted, .work, .work, .begin (.send .ping),
    .advance 1 .grants, .begin (.act (.addEntry 0 [])), .advance 2 .grants, .advance 2 .grants,
    .advance 2 .grants, .begin .close, .advance 3 .grants, .advance 3 .grants, .begin .start,
    .advance 4 (.refuses "no thread" 0)]

def listening : Traffic where
  link :=
    { settings := { revision := .v1, purpose := .listen }, exchange := { revision := .v1 } }

def pingedAndHungUp : Traffic where
  link :=
    { listening.link with
      phase := .closed
      exchange := { revision := .v1, tickets := [{ progress := .spent }] }
      signal := { opening := some .ready }
      worker := .reading
      sent := [1, 0, 0, 0, 2] }
  calls :=
    [(.start, .finished .done), (.send .ping, .finished .done),
      (.act (.addEntry 0 []), .finished (.refused (.unsupported "AddEntry" .v1))),
      (.close, .rejecting .done), (.start, .finished (.refused .linkClosed))]

theorem transcript_of_ping_and_hang_up :
    listening.moves pingAndHangUp = some pingedAndHungUp ∧
      listening.along refuses? pingAndHangUp = [.start] ∧
      Transcript listening pingAndHangUp pingedAndHungUp ∧
      pingedAndHungUp.link.sent =
        Settings.transcript { revision := .v1, purpose := .listen } true [[0, 0]] true := by
  have created : Link.create { revision := .v1, purpose := .listen } = .ok listening.link := rfl
  have ran : listening.moves pingAndHangUp = some pingedAndHungUp := rfl
  have refused : listening.along refuses? pingAndHangUp = [.start] := by decide
  refine ⟨ran, refused, transcript_of_run created ran ?_, rfl⟩
  intro call member
  simpa [refused] using (show call ∈ listening.along refuses? pingAndHangUp from member)

end Traffic

end WatchLink
