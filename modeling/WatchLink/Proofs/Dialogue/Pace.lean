import WatchLink.Proofs.Dialogue.Fate

/-!
# One action at a time

Responses carry no number: which action a chunk answers is a matter of counting. As long as the
server answers each action with one chunk, at most one action is unanswered, and its ticket is the
outstanding one. `Paced` is this invariant of a dialogue. Every failure of an action keeps it,
because a caller that is alone gives up no ticket but its own.
-/

namespace WatchLink

set_option autoImplicit false

namespace Dialogue

structure Known (dialogue : Dialogue) : Prop where
  asked : ∀ ticket ∈ dialogue.asked, ticket < dialogue.link.exchange.tickets.length
  waiters : ∀ ticket, some ticket ∈ dialogue.waiters →
    ticket < dialogue.link.exchange.tickets.length
  told : ∀ entry ∈ dialogue.told, entry.1 < dialogue.link.exchange.tickets.length

theorem Known.of_length {dialogue later : Dialogue} (known : dialogue.Known)
    (asked : later.asked = dialogue.asked) (waiters : later.waiters = dialogue.waiters)
    (told : later.told = dialogue.told)
    (length : dialogue.link.exchange.tickets.length ≤ later.link.exchange.tickets.length) :
    later.Known where
  asked ticket member := Nat.lt_of_lt_of_le (known.asked ticket (asked ▸ member)) length
  waiters ticket member := Nat.lt_of_lt_of_le (known.waiters ticket (waiters ▸ member)) length
  told entry member := Nat.lt_of_lt_of_le (known.told entry (told ▸ member)) length

structure Paced (dialogue : Dialogue) : Prop where
  coherent : dialogue.link.exchange.Coherent
  spoken : dialogue.link.exchange.revision = dialogue.link.revision
  stands : ∃ call : Call, call.claims = true ∧ call.Reaches dialogue.task
  sealed : dialogue.link.worker.Sealed →
    dialogue.link.phase = .closed ∧ dialogue.link.writable = false
  streams : dialogue.Streams
  known : dialogue.Known
  once : dialogue.asked.Nodup
  /-- While an action is on its way to being written, none is unanswered. -/
  vacant : dialogue.task.Undecided → dialogue.link.worker.rejected = false →
    dialogue.asked.length = dialogue.heard.length
  /-- A call gives up no ticket but its own. -/
  own : dialogue.task.Undecided → ∀ ticket, dialogue.link.exchange.awaiting = some ticket →
    ticket ∉ dialogue.asked
  /-- The ticket of an action that is to be written has not been used so far. -/
  fresh : ∀ (action : Action) (ticket : Nat), dialogue.task = .writing action (some ticket) →
    ticket < dialogue.link.exchange.tickets.length ∧ ticket ∉ dialogue.asked ∧
      dialogue.tidings ticket = [] ∧
      (dialogue.link.worker.rejected = false → dialogue.link.exchange.awaiting = some ticket)
  fates : ∀ (place ticket : Nat), dialogue.asked[place]? = some ticket →
    Fate (dialogue.link.exchange.progress ticket) (dialogue.tidings ticket)
      (dialogue.outcome? place)

section Paced

variable {dialogue later : Dialogue} {turn : Turn}

theorem paced_of_begin (paced : dialogue.Paced) {call : Call} (claims : call.claims = true) :
    Paced { dialogue with task := call.begin } :=
  have undecided : ¬call.begin.Undecided := by
    cases call <;> simp [Call.begin, Task.Undecided]
  { paced with
    stands := ⟨call, claims, call.reaches_begin⟩
    streams := { paced.streams with }
    known := { paced.known with }
    vacant := fun impossible => (undecided impossible).elim
    own := fun impossible => (undecided impossible).elim
    fresh := by
      intro action ticket writes
      cases call <;> cases writes }

theorem paced_of_reply (paced : dialogue.Paced) {chunk : Bytes} (nonempty : chunk ≠ [])
    (fits : chunk.length ≤ dialogue.link.settings.readBufferSize)
    (due : dialogue.replies.length < dialogue.asked.length) :
    Paced { dialogue with
      stream := dialogue.stream ++ chunk, replies := dialogue.replies ++ [chunk] } := by
  obtain ⟨rest, replies, stream⟩ := paced.streams.flowing
  have streams : Streams { dialogue with
      stream := dialogue.stream ++ chunk, replies := dialogue.replies ++ [chunk] } :=
    { paced.streams with
      flowing := ⟨rest ++ [chunk], by simp [replies], by simp [stream]⟩
      fits := by
        intro written member
        rcases List.mem_append.mp member with before | now
        · exact paced.streams.fits written before
        · rw [List.mem_singleton.mp now]
          exact ⟨nonempty, fits⟩
      answered := by simpa using Nat.succ_le_of_lt due }
  refine { paced with streams, known := { paced.known with }, fates := ?_ }
  intro place ticket asked
  have fate := paced.fates place ticket asked
  rw [outcome_of_streams paced.streams] at fate
  rw [outcome_of_streams streams]
  exact fate

theorem outstanding_of_paced (paced : dialogue.Paced)
    (unrejected : dialogue.link.worker.rejected = false)
    (unanswered : dialogue.asked.length = dialogue.heard.length + 1) :
    ∃ ticket, dialogue.asked[dialogue.heard.length]? = some ticket ∧
      dialogue.link.exchange.awaiting = some ticket ∧ dialogue.tidings ticket = [] := by
  have bound : dialogue.heard.length < dialogue.asked.length := by omega
  have asked := List.getElem?_eq_getElem bound
  have fate := paced.fates _ _ asked
  have nothing : dialogue.outcome? dialogue.heard.length = none := by simp [outcome?, unrejected]
  rw [nothing] at fate
  exact ⟨_, asked, (paced.coherent _).mp fate.1, fate.2⟩

/-- The worker reads the answer to the one action that is unanswered. -/
theorem paced_of_read (paced : dialogue.Paced) {chunk : Bytes}
    (taken : chunk = dialogue.stream.take dialogue.link.settings.readBufferSize)
    (nonempty : chunk ≠ []) (reading : dialogue.link.worker = .reading) :
    Paced { dialogue with
      link := { dialogue.link.mapExchange (Exchange.answer chunk) with
        worker := .publishingChunk chunk }
      stream := dialogue.stream.drop dialogue.link.settings.readBufferSize
      heard := dialogue.heard ++ [chunk] } := by
  obtain ⟨replies, dropped, unanswered⟩ := read_of_streams paced.streams taken nonempty
  have unrejected : dialogue.link.worker.rejected = false := by rw [reading]; rfl
  obtain ⟨target, askedTarget, outstanding, untold⟩ :=
    outstanding_of_paced paced unrejected unanswered
  have decided : ¬dialogue.task.Undecided := fun undecided => by
    have vacant := paced.vacant undecided unrejected
    omega
  have streams : Streams { dialogue with
      link := { dialogue.link.mapExchange (Exchange.answer chunk) with
        worker := .publishingChunk chunk }
      stream := dialogue.stream.drop dialogue.link.settings.readBufferSize
      heard := dialogue.heard ++ [chunk] } :=
    { paced.streams with
      flowing := ⟨[], by simpa using replies, by simpa using dropped⟩
      paced := by simp [unanswered] }
  refine { paced with
    streams
    coherent := paced.coherent.conclude (by simp)
    spoken := (Exchange.revision_conclude _ _).trans paced.spoken
    sealed := fun impossible => impossible.elim
    known := paced.known.of_length rfl rfl rfl (by simp [Link.mapExchange, Exchange.answer])
    vacant := fun undecided => (decided undecided).elim
    own := fun undecided => (decided undecided).elim
    fresh := ?_
    fates := ?_ }
  · intro action ticket writes
    have undecided : dialogue.task.Undecided := by
      rw [show dialogue.task = _ from writes]
      trivial
    exact (decided undecided).elim
  · intro place ticket asked
    have fate := paced.fates place ticket asked
    have bound : place < dialogue.asked.length := (List.getElem?_eq_some_iff.mp asked).1
    rw [outcome_of_streams paced.streams] at fate
    rw [outcome_of_streams streams]
    -- The chunk is for the latest action; what the earlier ones came to was known before.
    by_cases latest : place = dialogue.heard.length
    · subst latest
      obtain rfl : target = ticket := Option.some.inj (askedTarget.symm.trans asked)
      have resolved : (dialogue.link.exchange.answer chunk).progress target =
          .resolved (Exchange.outcomeOf dialogue.link.revision chunk) := by
        rw [← paced.spoken]
        exact Exchange.progress_conclude_of_awaiting _ paced.coherent outstanding
      simp only [List.getElem?_concat_length]
      exact .inl ⟨resolved, untold⟩
    · have earlier : place < dialogue.heard.length := by omega
      have different : dialogue.link.exchange.awaiting ≠ some ticket := by
        intro same
        obtain rfl : target = ticket := Option.some.inj (outstanding.symm.trans same)
        exact latest ((List.getElem?_inj bound paced.once).mp (asked.trans askedTarget.symm))
      rw [List.getElem?_eq_getElem earlier] at fate
      simp only [List.getElem?_append_left earlier, List.getElem?_eq_getElem earlier]
      exact (Exchange.progress_conclude_of_ne _ different).symm ▸ fate

theorem works_rejects_or_alike {link changed : Link} {cause : Option Arrival}
    (change : Link.Works link cause changed) (silent : ∀ bytes, cause ≠ some (.chunk bytes)) :
    (∃ opening, link.worker = .finishing .failPending opening ∧
      changed = { link.mapExchange (Exchange.failPending .interrupted) with
        worker := .finishing .closeInboxes opening }) ∨
      (changed.worker.rejected = link.worker.rejected ∧ changed.settings = link.settings ∧
        Exchange.Alike link.exchange changed.exchange) := by
  cases change with
  | reject opening place => exact .inl ⟨opening, place, rfl⟩
  | answer _ bytes => exact (silent bytes rfl).elim
  | closeInboxes opening worker place rest =>
      refine .inr ⟨?_, rfl, rfl, rfl, rfl⟩
      cases opening <;> simp [place, rest, Worker.rejected]
  | dial place | fail place | spoil place | lose place | forestall place | connect place
    | announce place | publish _ place | notify _ place | sever _ place | fire _ place =>
      exact .inr ⟨by simp [place, Worker.rejected], rfl, rfl, rfl, rfl⟩

theorem outcome_of_same_worker {link : Link} (settings : link.settings = dialogue.link.settings)
    (rejected : link.worker.rejected = dialogue.link.worker.rejected) (place : Nat) :
    outcome? { dialogue with link } place = dialogue.outcome? place := by
  simp [outcome?, Link.revision, settings, rejected]

theorem paced_of_alike (paced : dialogue.Paced) {link : Link}
    (alike : Exchange.Alike dialogue.link.exchange link.exchange)
    (settings : link.settings = dialogue.link.settings)
    (rejected : link.worker.rejected = dialogue.link.worker.rejected)
    (sealed : link.worker.Sealed → link.phase = .closed ∧ link.writable = false) :
    Paced { dialogue with link } := by
  have progress : ∀ ticket,
      link.exchange.progress ticket = dialogue.link.exchange.progress ticket := by
    intro ticket
    simp [Exchange.progress, alike.tickets]
  refine { paced with
    sealed
    coherent := paced.coherent.of_same alike.awaiting alike.tickets
    spoken := ?_
    streams := { paced.streams with fits := by rw [settings]; exact paced.streams.fits }
    known := paced.known.of_length rfl rfl rfl (by simp [alike.tickets])
    vacant := by rw [rejected]; exact paced.vacant
    own := by rw [alike.awaiting]; exact paced.own
    fresh := by rw [alike.awaiting, alike.tickets, rejected]; exact paced.fresh
    fates := ?_ }
  · rw [alike.revision, paced.spoken, Link.revision, Link.revision, settings]
  · intro place ticket asked
    rw [progress, outcome_of_same_worker settings rejected]
    exact paced.fates place ticket asked

/-- When the worker rejects what is outstanding, the one unanswered action is told so. -/
theorem paced_of_reject (paced : dialogue.Paced) {opening : Option Opening}
    (rejecting : dialogue.link.worker = .finishing .failPending opening) :
    Paced { dialogue with
      link := { dialogue.link.mapExchange (Exchange.failPending .interrupted) with
        worker := .finishing .closeInboxes opening } } := by
  have streams : Streams { dialogue with
      link := { dialogue.link.mapExchange (Exchange.failPending .interrupted) with
        worker := .finishing .closeInboxes opening } } := { paced.streams with }
  have sealed := paced.sealed (by rw [rejecting]; trivial)
  refine { paced with
    streams
    coherent := paced.coherent.conclude (by simp)
    spoken := (Exchange.revision_conclude _ _).trans paced.spoken
    sealed := fun _ => sealed
    known := paced.known.of_length rfl rfl rfl (by simp [Link.mapExchange, Exchange.failPending])
    vacant := fun _ impossible => by cases impossible
    own := fun _ ticket awaiting => by
      simp [Link.mapExchange, Exchange.failPending] at awaiting
    fresh := ?_
    fates := ?_ }
  · intro action ticket writes
    obtain ⟨known, unasked, untold, _⟩ := paced.fresh action ticket writes
    refine ⟨?_, unasked, untold, fun impossible => by cases impossible⟩
    simpa [Link.mapExchange, Exchange.failPending] using known
  · intro place ticket asked
    have fate := paced.fates place ticket asked
    rw [outcome_of_streams paced.streams] at fate
    rw [outcome_of_streams streams]
    cases heard : dialogue.heard[place]? with
    | some chunk =>
        simp only [heard] at fate ⊢
        -- An action that was answered is not waiting, so its ticket is not the outstanding one.
        have different : dialogue.link.exchange.awaiting ≠ some ticket := by
          intro awaiting
          have waiting := (paced.coherent ticket).mpr awaiting
          rcases fate with ⟨resolved, _⟩ | ⟨spent, _⟩
          · rw [resolved] at waiting
            cases waiting
          · rw [spent] at waiting
            cases waiting
        exact (Exchange.progress_conclude_of_ne _ different).symm ▸ fate
    | none =>
        simp only [heard, rejecting, Worker.rejected] at fate ⊢
        have awaiting := (paced.coherent ticket).mp fate.1
        exact .inl ⟨Exchange.progress_conclude_of_awaiting _ paced.coherent awaiting, fate.2⟩

theorem paced_of_works (paced : dialogue.Paced) {link : Link} {cause : Option Arrival}
    (change : Link.Works dialogue.link cause link)
    (silent : ∀ bytes, cause ≠ some (.chunk bytes)) : Paced { dialogue with link } := by
  have sealed : link.worker.Sealed → link.phase = .closed ∧ link.writable = false := by
    intro sealed
    rcases Link.sealed_of_works change sealed with now | ⟨before, phase, writable⟩
    · exact now
    · rw [phase, writable]
      exact paced.sealed before
  rcases works_rejects_or_alike change silent with ⟨opening, rejecting, rfl⟩ |
    ⟨rejected, settings, alike⟩
  · exact paced_of_reject paced rejecting
  · exact paced_of_alike paced alike settings rejected sealed

theorem lt_length_of_holds {exchange : Exchange} {ticket : Nat}
    (holds : exchange.holds ticket = true) : ticket < exchange.tickets.length := by
  by_contra beyond
  simp [Exchange.holds, List.getElem?_eq_none (Nat.le_of_not_lt beyond)] at holds

theorem lt_length_of_looks (known : dialogue.Known) {step : Holding} {ticket : Nat}
    (looks : dialogue.desk.looksAt step = some ticket) :
    ticket < dialogue.link.exchange.tickets.length := by
  cases step with
  | ticket number use =>
      cases use with
      | tryGet | waitLimited | wait =>
          simp only [Desk.looksAt] at looks
          split at looks
          next holds =>
            cases looks
            exact lt_length_of_holds holds
          next => cases looks
      | spawnWait | discard => cases looks
  | joinWait waiter =>
      simp only [Desk.looksAt, Option.join_eq_some_iff] at looks
      exact known.waiters ticket (List.mem_of_getElem? looks)
  | inbox | takeLog => cases looks

theorem known_waiters_of_handles (known : dialogue.Known) {step : Holding} {answer : Answer}
    {desk : Desk} (handles : Desk.Handles dialogue.desk step answer desk) {ticket : Nat}
    (waits : some ticket ∈ desk.waiters) :
    ticket < dialogue.link.exchange.tickets.length := by
  cases handles with
  | join waiter =>
      rcases List.mem_or_eq_of_mem_set waits with before | impossible
      · exact known.waiters ticket before
      · cases impossible
  | spawn number held =>
      rcases List.mem_append.mp waits with before | now
      · exact known.waiters ticket before
      · cases List.mem_singleton.mp now
        exact lt_length_of_holds held
  | _ => exact known.waiters ticket waits

theorem paced_of_hold (paced : dialogue.Paced) {step : Holding} {answer : Answer} {desk : Desk}
    (idle : dialogue.task.receipt?.isSome = true)
    (handles : Desk.Handles dialogue.desk step answer desk)
    (held : dialogue.desk.hold step = (answer, desk)) :
    Paced { dialogue with
      link := { dialogue.link with exchange := desk.exchange }
      waiters := desk.waiters
      told := dialogue.told ++ (dialogue.finds step).toList } := by
  have length : desk.exchange.tickets.length = dialogue.link.exchange.tickets.length :=
    Desk.length_of_handles handles
  obtain ⟨receipt, ended⟩ : ∃ receipt, dialogue.task = .finished receipt := by
    cases task : dialogue.task <;> simp_all [Task.receipt?]
  have decided : ¬dialogue.task.Undecided := by simp [ended, Task.Undecided]
  refine { paced with
    coherent := Desk.coherent_of_handles paced.coherent handles
    spoken := (Desk.revision_of_handles handles).trans paced.spoken
    streams := { paced.streams with }
    known := ⟨?_, ?_, ?_⟩
    vacant := fun undecided => (decided undecided).elim
    own := fun undecided => (decided undecided).elim
    fresh := fun action ticket writes => by cases ended.symm.trans writes
    fates := ?_ }
  · intro ticket asked
    rw [length]
    exact paced.known.asked ticket asked
  · intro ticket waits
    rw [length]
    exact known_waiters_of_handles paced.known handles waits
  · intro entry member
    rw [length]
    rcases List.mem_append.mp member with before | now
    · exact paced.known.told entry before
    · exact lt_length_of_looks paced.known (looks_of_finds (Option.mem_toList.mp now))
  · intro place ticket asked
    have fate := paced.fates place ticket asked
    by_cases looks : dialogue.desk.looksAt step = some ticket
    · exact fate_of_look (outcome_ne_timed_out paced.streams place) fate looks handles held rfl
    · have unfound : ∀ outcome, dialogue.finds step ≠ some (ticket, outcome) :=
        fun outcome finds => looks (looks_of_finds finds)
      rw [tidings_of_unfound rfl unfound, Desk.progress_of_other_look handles looks]
      exact fate

theorem heard_le_asked (streams : dialogue.Streams) :
    dialogue.heard.length ≤ dialogue.asked.length := by
  obtain ⟨rest, replies, _⟩ := streams.flowing
  have answered := streams.answered
  rw [replies, List.length_append] at answered
  omega

theorem tidings_of_unknown (known : dialogue.Known) {ticket : Nat}
    (unknown : dialogue.link.exchange.tickets.length ≤ ticket) : dialogue.tidings ticket = [] := by
  apply List.filterMap_eq_nil_iff.mpr
  intro entry member
  have bound := known.told entry member
  have different : entry.1 ≠ ticket := by omega
  simp [different]

/-- A call that goes on without touching a ticket. -/
theorem paced_of_task (paced : dialogue.Paced) {next : Task}
    (stands : ∃ call : Call, call.claims = true ∧ call.Reaches next)
    (undecided : next.Undecided → dialogue.task.Undecided)
    (elsewhere : ∀ action ticket, next ≠ .writing action (some ticket)) :
    Paced { dialogue with task := next } :=
  { paced with
    stands
    streams := { paced.streams with }
    known := { paced.known with }
    vacant := fun still => paced.vacant (undecided still)
    own := fun still => paced.own (undecided still)
    fresh := fun action ticket writes => (elsewhere action ticket writes).elim }

/-- A call registers an action only where none is unanswered, or none will be written any more. -/
theorem paced_of_register (paced : dialogue.Paced) {action : Action} {ticket : Nat}
    {exchange : Exchange}
    (registered : dialogue.link.exchange.register = .ok (ticket, exchange))
    (stands : ∃ call : Call, call.claims = true ∧ call.Reaches (.writing action (some ticket))) :
    Paced { dialogue with
      task := .writing action (some ticket), link := { dialogue.link with exchange } } := by
  obtain ⟨free, number, _⟩ := Exchange.register_ok registered
  have length := Exchange.length_tickets_of_register registered
  have awaiting := Exchange.awaiting_of_register registered
  have unasked : ticket ∉ dialogue.asked := fun member => by
    have bound := paced.known.asked ticket member
    omega
  refine { paced with
    stands
    coherent := paced.coherent.of_register registered
    spoken := (Exchange.grows_of_register registered).revision.trans paced.spoken
    streams := { paced.streams with }
    known := paced.known.of_length rfl rfl rfl (by simp [length])
    vacant := ?_
    own := ?_
    fresh := ?_
    fates := ?_ }
  · intro _ unrejected
    -- The ticket of an unanswered action would be outstanding, and the slot is free.
    have least := heard_le_asked paced.streams
    have most := paced.streams.paced
    by_contra unanswered
    obtain ⟨_, _, outstanding, _⟩ := outstanding_of_paced paced unrejected (by
      have different : dialogue.asked.length ≠ dialogue.heard.length := unanswered
      omega)
    rw [free] at outstanding
    cases outstanding
  · intro _ other outstanding
    obtain rfl : ticket = other := Option.some.inj (awaiting.symm.trans outstanding)
    exact unasked
  · intro written made same
    cases same
    refine ⟨by simp [length, number], unasked, tidings_of_unknown paced.known (by omega),
      fun _ => awaiting⟩
  · intro place asked found
    have different : asked ≠ ticket := by
      rintro rfl
      exact unasked (List.mem_of_getElem? found)
    have fate := paced.fates place asked found
    exact (Exchange.progress_of_register_other registered different).symm ▸ fate

/-- A caller that is alone gives up the ticket of an action that was not written. -/
theorem paced_of_release (paced : dialogue.Paced) (undecided : dialogue.task.Undecided)
    {receipt : Receipt}
    (stands : ∃ call : Call, call.claims = true ∧ call.Reaches (.finished receipt)) :
    Paced { dialogue with
      task := .finished receipt, link := dialogue.link.mapExchange Exchange.release } := by
  refine { paced with
    stands
    coherent := paced.coherent.conclude (by simp)
    spoken := (Exchange.revision_conclude _ _).trans paced.spoken
    streams := { paced.streams with }
    known := paced.known.of_length rfl rfl rfl (by simp [Link.mapExchange, Exchange.release])
    vacant := fun impossible => impossible.elim
    own := fun impossible => impossible.elim
    fresh := fun _ _ impossible => by cases impossible
    fates := ?_ }
  · intro place ticket asked
    have different : dialogue.link.exchange.awaiting ≠ some ticket := fun awaiting =>
      paced.own undecided ticket awaiting (List.mem_of_getElem? asked)
    have fate := paced.fates place ticket asked
    exact (Exchange.progress_conclude_of_ne _ different).symm ▸ fate

/-- The action that is written is the one that is unanswered now. -/
theorem paced_of_write (paced : dialogue.Paced) {action : Action} {ticket : Nat} {bytes : Bytes}
    (writing : dialogue.task = .writing action (some ticket))
    (writable : dialogue.link.writable = true)
    (stands : ∃ call : Call, call.claims = true ∧ call.Reaches (.finished (.number ticket))) :
    Paced { dialogue with
      task := .finished (.number ticket)
      link := { dialogue.link with sent := dialogue.link.sent ++ bytes }
      asked := dialogue.asked ++ [ticket] } := by
  obtain ⟨known, unasked, untold, outstanding⟩ := paced.fresh action ticket writing
  -- The write half is gone before anything is rejected.
  have unrejected : dialogue.link.worker.rejected = false := by
    by_contra rejected
    have sealed := paced.sealed (Worker.sealed_of_rejected (by simpa using rejected))
    rw [sealed.2] at writable
    cases writable
  have vacant := paced.vacant (by rw [writing]; trivial) unrejected
  have answered := paced.streams.answered
  refine { paced with
    stands
    streams := { paced.streams with answered := ?_, paced := ?_ }
    known := { paced.known with asked := ?_ }
    once := ?_
    vacant := fun impossible => impossible.elim
    own := fun impossible => impossible.elim
    fresh := fun _ _ impossible => by cases impossible
    fates := ?_ }
  · exact Nat.le_trans answered (by simp)
  · simp [vacant]
  · intro asked member
    rcases List.mem_append.mp member with before | now
    · exact paced.known.asked asked before
    · rw [List.mem_singleton.mp now]
      exact known
  · refine List.nodup_append.mpr ⟨paced.once, by simp, ?_⟩
    intro asked before other now
    rw [List.mem_singleton.mp now]
    rintro rfl
    exact unasked before
  · intro place asked found
    by_cases earlier : place < dialogue.asked.length
    · exact paced.fates place asked (by rwa [List.getElem?_append_left earlier] at found)
    · have latest : place = dialogue.asked.length := by
        have bound := (List.getElem?_eq_some_iff.mp found).1
        rw [List.length_append, List.length_singleton] at bound
        omega
      subst latest
      obtain rfl : ticket = asked := by simpa using found
      have nothing : dialogue.outcome? dialogue.asked.length = none := by
        simp [outcome?, vacant, unrejected]
      have waiting := (paced.coherent ticket).mpr (outstanding unrejected)
      exact (show Fate _ _ (dialogue.outcome? _) from nothing ▸ ⟨waiting, untold⟩)

/-- A change of a call that touches no ticket: neither the slot nor the tickets are changed, and the
call does not come to hold one. -/
structure Passes (dialogue : Dialogue) (next : Task) (link : Link) : Prop where
  alike : Exchange.Alike dialogue.link.exchange link.exchange
  undecided : next.Undecided → dialogue.task.Undecided
  elsewhere : ∀ action ticket, next ≠ .writing action (some ticket)
  unasked : dialogue.task.asks next = none

theorem passes_of_refuse {cause : ClientError} {ticket : Option Nat} {link : Link}
    (alike : Exchange.Alike dialogue.link.exchange link.exchange)
    (held : ∀ number, ticket = some number → dialogue.task.Undecided) :
    dialogue.Passes (Task.refuse cause ticket) link := by
  cases ticket with
  | none =>
      exact ⟨alike, fun impossible => impossible.elim, by simp [Task.refuse],
        by cases dialogue.task <;> rfl⟩
  | some number =>
      exact ⟨alike, fun _ => held number rfl, by simp [Task.refuse],
        by cases dialogue.task <;> rfl⟩

theorem paced_of_passes (paced : dialogue.Paced) {host : Host} {next : Task} {link : Link}
    (stands : ∃ call : Call, call.claims = true ∧ call.Reaches next)
    (change : Task.Changes host dialogue.link dialogue.task next link)
    (passes : dialogue.Passes next link) : Paced { dialogue with task := next, link } := by
  have grows := Task.grows_of_changes change
  have rejected : link.worker.rejected = dialogue.link.worker.rejected := by
    rcases Traffic.worker_of_changes change with same | ⟨untouched, dialing⟩
    · rw [same]
    · cases before : dialogue.link.worker.rejected with
      | false => simp [dialing, Worker.rejected]
      | true =>
          have sealed := paced.sealed (Worker.sealed_of_rejected before)
          rw [sealed.1] at untouched
          cases untouched
  have sealed : link.worker.Sealed → link.phase = .closed ∧ link.writable = false := by
    rcases Traffic.worker_of_changes change with same | ⟨_, dialing⟩
    · rw [same]
      intro sealed
      obtain ⟨closed, unwritable⟩ := paced.sealed sealed
      exact ⟨grows.closed closed, grows.severed closed unwritable⟩
    · rw [dialing]
      exact fun impossible => impossible.elim
  exact paced_of_task (paced_of_alike paced passes.alike grows.settings rejected sealed) stands
    passes.undecided passes.elsewhere

theorem paced_of_advance (paced : dialogue.Paced) {host : Host} {next : Task} {link : Link}
    (change : Task.Changes host dialogue.link dialogue.task next link) :
    Paced { dialogue with
      task := next, link, asked := dialogue.asked ++ (dialogue.task.asks next).toList } := by
  obtain ⟨call, claims, reaches⟩ := paced.stands
  have stands : ∃ call : Call, call.claims = true ∧ call.Reaches next :=
    ⟨call, claims, Call.reaches_of_changes reaches change⟩
  have pass : dialogue.Passes next link → Paced { dialogue with
      task := next, link, asked := dialogue.asked ++ (dialogue.task.asks next).toList } := by
    intro passes
    simpa [passes.unasked] using paced_of_passes paced stands change passes
  obtain ⟨before, task, waiters, stream, asked, replies, heard, told⟩ := dialogue
  dsimp only at change reaches pass ⊢
  cases change with
  | register action ticket exchange registered =>
      simpa [Task.asks] using paced_of_register paced registered stands
  | release cause =>
      simpa [Task.asks] using paced_of_release paced trivial stands
  | write action ticket bytes writable encoded =>
      cases call with
      | act begun =>
          obtain ⟨made, rfl⟩ := Option.isSome_iff_exists.mp reaches.2
          exact paced_of_write paced rfl writable stands
      | send => cases claims
      | _ => exact reaches.elim
  | close | hangUp | nothingToHangUp | reject =>
      cases call with
      | close => cases claims
      | _ => exact reaches.elim
  | unsayable action ticket | writeFails action ticket | explain ticket =>
      refine pass (passes_of_refuse ⟨rfl, rfl, rfl⟩ ?_)
      rintro number rfl
      trivial
  | nothingToWriteTo action ticket =>
      refine pass ⟨⟨rfl, rfl, rfl⟩, ?_, by simp, rfl⟩
      cases ticket <;> exact id
  | _ => exact pass ⟨⟨rfl, rfl, rfl⟩, fun impossible => impossible.elim, by simp, rfl⟩

theorem paced_of_turns (paced : dialogue.Paced) (turned : Turns dialogue turn later) :
    later.Paced := by
  cases turned with
  | begin call claims => exact paced_of_begin paced claims
  | advance host next link change => exact paced_of_advance paced change
  | hold step answer desk idle handles held => exact paced_of_hold paced idle handles held
  | work link change => exact paced_of_works paced change (by simp)
  | reply chunk nonempty fits due => exact paced_of_reply paced nonempty fits due
  | read chunk taken nonempty reading => exact paced_of_read paced taken nonempty reading
  | arrive arrival link silent change =>
      exact paced_of_works paced change fun bytes same => silent bytes (Option.some.inj same)

theorem paced_of_create {settings : Settings} {link : Link}
    (created : Link.create settings = .ok link) : ({ link } : Dialogue).Paced := by
  have fresh := Traffic.link_of_create created
  exact {
    coherent := by
      rw [fresh]
      exact Exchange.fresh_coherent settings.revision
    spoken := by rw [fresh]; rfl
    stands := ⟨.start, rfl, by simp [Call.Reaches]⟩
    sealed := by simp [fresh, Worker.Sealed]
    streams := ⟨⟨[], rfl, rfl⟩, by simp, Nat.le_refl _, by simp⟩
    known := ⟨by simp, by simp, by simp⟩
    once := List.nodup_nil
    vacant := fun impossible => impossible.elim
    own := fun impossible => impossible.elim
    fresh := fun _ _ impossible => by cases impossible
    fates := fun _ _ impossible => by simp at impossible }

end Paced

end Dialogue

end WatchLink
