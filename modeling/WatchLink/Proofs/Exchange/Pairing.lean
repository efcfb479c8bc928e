import WatchLink.Proofs.Exchange.Scripts

/-!
# Which event fixes what comes of a ticket

What comes of a ticket is fixed by the first event after its registration that empties the slot: a
dispatch, a rejection, a release, or the end of the exchange. `Pairing` says what that means for
whoever looks at the ticket and for whoever wants to register, after any acts whatever. The proof
carries `Paired` along a history, one act at a time.
-/

namespace WatchLink

set_option autoImplicit false

namespace Exchange

namespace Entry

def Registers (ticket : Nat) (entry : Entry) : Prop := Run.Registers ticket entry.act entry.answer

def Spawns (ticket waiter : Nat) (entry : Entry) : Prop :=
  entry.act = .step (.hold (.ticket ticket .spawnWait)) ∧
    entry.answer = .receipt (.number waiter)

def LooksAt (ticket : Nat) (entry : Entry) : Prop := entry.found.looksAt entry.act = some ticket

def UsesUp (ticket : Nat) (entry : Entry) : Prop := Run.UsesUp ticket entry.act entry.answer

def Joins (waiter : Nat) (entry : Entry) : Prop := Run.Joins waiter entry.act entry.answer

end Entry

/-- These are the entries after one that begins something. -/
def Since (history : List Entry) (begins : Entry → Prop) (since : List Entry) : Prop :=
  ∃ front entry, history = front ++ entry :: since ∧ begins entry

/-- The first event that fixes what comes of the ticket outstanding before these entries. -/
def fate (revision : Revision) (since : List Entry) : Option Outcome :=
  since.findSome? fun entry => entry.act.verdict revision

def Delivered (revision : Revision) (ticket : Nat) (since : List Entry) : Prop :=
  ∃ front look back, since = front ++ look :: back ∧ (fate revision front).isSome = true ∧
    Entry.LooksAt ticket look

structure Pairing (revision : Revision) (history : List Entry) (run : Run) : Prop where
  /-- A response is outstanding just while nothing has come of the ticket that was registered
  last. -/
  awaits : run.desk.exchange.isAwaiting = true ↔
    ∃ ticket since, Since history (Entry.Registers ticket) since ∧
      (∀ later ∈ since, ∀ other, ¬Entry.Registers other later) ∧ fate revision since = none
  /-- Registering succeeds just while no response is outstanding, and else changes nothing. -/
  registers : run.givenUp = false →
    (run.desk.exchange.isAwaiting = false →
      ∃ ticket, (run.act (.step (.operation .register))).1 = .receipt (.number ticket)) ∧
    (run.desk.exchange.isAwaiting = true →
      run.act (.step (.operation .register)) = (.receipt (.refused .alreadyAwaiting), run))
  /-- A look that comes too early is told so, and changes nothing. -/
  early : ∀ ticket since step, Since history (Entry.Registers ticket) since →
    run.desk.looksAt step = some ticket → fate revision since = none →
    run.act (.step (.hold step)) = (Desk.early step, run)
  /-- The first look after that is handed what the first event fixed. -/
  first : ∀ ticket since step outcome, Since history (Entry.Registers ticket) since →
    run.desk.looksAt step = some ticket → fate revision since = some outcome →
    ¬Delivered revision ticket since → (run.act (.step (.hold step))).1 = .outcome outcome
  /-- Every further look is told that nothing more will come. -/
  further : ∀ ticket since step, Since history (Entry.Registers ticket) since →
    run.desk.looksAt step = some ticket → Delivered revision ticket since →
    (run.act (.step (.hold step))).1 = .outcome (.error .interrupted)
  /-- A ticket can be looked at until its handle is used up. -/
  held : ∀ ticket since, Since history (Entry.Registers ticket) since →
    (run.desk.exchange.holds ticket = true ↔ ∀ used ∈ since, ¬Entry.UsesUp ticket used)
  /-- A thread that was given a ticket can be asked until it has told. -/
  waits : ∀ ticket waiter since, Since history (Entry.Spawns ticket waiter) since →
    (run.desk.waiters[waiter]?.join = some ticket ↔ ∀ joined ∈ since, ¬Entry.Joins waiter joined)
  /-- Nothing that a holder does frees the slot. -/
  keeps : ∀ step, (run.act (.step (.hold step))).2.desk.exchange.awaiting =
    run.desk.exchange.awaiting

/-! ## One more entry -/

section Snoc

variable {revision : Revision} {history since : List Entry} {last : Entry}

theorem since_snoc {begins : Entry → Prop} :
    Since (history ++ [last]) begins since ↔
      (∃ earlier, since = earlier ++ [last] ∧ Since history begins earlier) ∨
        (since = [] ∧ begins last) := by
  constructor
  · rintro ⟨front, entry, split, begun⟩
    rcases split_snoc split with ⟨earlier, more, before⟩ | ⟨empty, same, _⟩
    · exact .inl ⟨earlier, more, front, entry, before, begun⟩
    · rw [same] at begun
      exact .inr ⟨empty, begun⟩
  · rintro (⟨earlier, rfl, front, entry, rfl, begun⟩ | ⟨rfl, begun⟩)
    · exact ⟨front, entry, by simp, begun⟩
    · exact ⟨history, last, rfl, begun⟩

theorem fate_snoc :
    fate revision (since ++ [last]) =
      (fate revision since).or (last.act.verdict revision) := by
  simp [fate, List.findSome?_append]

theorem fate_snoc_eq_none :
    fate revision (since ++ [last]) = none ↔
      fate revision since = none ∧ last.act.verdict revision = none := by
  rw [fate_snoc, Option.or_eq_none_iff]

theorem delivered_snoc {ticket : Nat} :
    Delivered revision ticket (since ++ [last]) ↔
      Delivered revision ticket since ∨
        ((fate revision since).isSome = true ∧ Entry.LooksAt ticket last) := by
  constructor
  · rintro ⟨front, look, back, split, fixed, looks⟩
    rcases split_snoc split with ⟨earlier, _, before⟩ | ⟨_, same, before⟩
    · exact .inl ⟨front, look, earlier, before, fixed, looks⟩
    · rw [before] at fixed
      rw [same] at looks
      exact .inr ⟨fixed, looks⟩
  · rintro (⟨front, look, back, rfl, fixed, looks⟩ | ⟨fixed, looks⟩)
    · exact ⟨front, look, back ++ [last], by simp, fixed, looks⟩
    · exact ⟨since, last, [], rfl, fixed, looks⟩

theorem not_delivered_of_fate {ticket : Nat} (unfixed : fate revision since = none) :
    ¬Delivered revision ticket since := by
  rintro ⟨front, look, back, rfl, fixed, _⟩
  simp only [fate, List.findSome?_append, Option.or_eq_none_iff] at unfixed
  rw [fate, unfixed.1] at fixed
  cases fixed

end Snoc

/-! ## The invariant -/

structure Fixed (revision : Revision) (ticket : Nat) (since : List Entry) (exchange : Exchange) :
    Prop where
  present : ticket < exchange.tickets.length
  waits : fate revision since = none → exchange.progress ticket = .waiting
  due : ∀ outcome, fate revision since = some outcome → ¬Delivered revision ticket since →
    (exchange.progress ticket).due = some outcome
  spent : Delivered revision ticket since → exchange.progress ticket = .spent

/-- The invariant behind `Pairing`. -/
structure Paired (revision : Revision) (history : List Entry) (run : Run) : Prop where
  steady : Run.Steady revision run
  awaits : ∀ ticket, run.desk.exchange.awaiting = some ticket ↔
    ∃ since, Since history (Entry.Registers ticket) since ∧
      (∀ later ∈ since, ∀ other, ¬Entry.Registers other later) ∧ fate revision since = none
  fixed : ∀ ticket since, Since history (Entry.Registers ticket) since →
    Fixed revision ticket since run.desk.exchange
  held : ∀ ticket since, Since history (Entry.Registers ticket) since →
    (run.desk.exchange.holds ticket = true ↔ ∀ used ∈ since, ¬Entry.UsesUp ticket used)
  waits : ∀ ticket waiter since, Since history (Entry.Spawns ticket waiter) since →
    waiter < run.desk.waiters.length ∧
      (run.desk.waiters[waiter]?.join = some ticket ↔
        ∀ joined ∈ since, ¬Entry.Joins waiter joined)

theorem paired_start (revision : Revision) : Paired revision [] (Run.start revision) := by
  have nothing : ∀ {begins : Entry → Prop} {since : List Entry}, ¬Since [] begins since := by
    rintro begins since ⟨front, entry, split, _⟩
    simp at split
  exact {
    steady := ⟨rfl, fresh_coherent revision, by simp [Run.start]⟩
    awaits := by
      intro ticket
      simp [Run.start, nothing]
    fixed := fun _ _ since => (nothing since).elim
    held := fun _ _ since => (nothing since).elim
    waits := fun _ _ _ since => (nothing since).elim }

section Step

variable {revision : Revision} {history since : List Entry} {run later : Run} {act : Act}
  {answer : Answer}

theorem fixed_of_makes {ticket : Nat} (steady : Run.Steady revision run)
    (fixed : Fixed revision ticket since run.desk.exchange)
    (makes : Run.Makes run act answer later) :
    Fixed revision ticket (since ++ [⟨run, act, answer⟩]) later.desk.exchange where
  present := Nat.lt_of_lt_of_le fixed.present (Run.length_of_makes makes)
  waits unfixed := by
    obtain ⟨before, silent⟩ := fate_snoc_eq_none.mp unfixed
    exact Run.waiting_of_makes steady makes (fixed.waits before) silent
  due outcome fate undelivered := by
    rw [delivered_snoc, not_or] at undelivered
    obtain ⟨before, unseen⟩ := undelivered
    rw [fate_snoc] at fate
    cases known : Exchange.fate revision since with
    | none =>
        rw [known, Option.none_or] at fate
        exact Run.due_of_makes steady makes (fixed.waits known) fate
    | some first =>
        rw [known, Option.some_or] at fate
        have due := fixed.due first known before
        have come : run.desk.exchange.progress ticket ≠ .waiting := by
          intro waiting
          rw [waiting] at due
          cases due
        have other : run.looksAt act ≠ some ticket := fun looks => unseen ⟨by simp [known], looks⟩
        rw [Run.progress_of_makes steady makes come fixed.present, if_neg other, due, fate]
  spent delivered := by
    rcases delivered_snoc.mp delivered with before | ⟨isFixed, looks⟩
    · have spent := fixed.spent before
      have come : run.desk.exchange.progress ticket ≠ .waiting := by simp [spent]
      rw [Run.progress_of_makes steady makes come fixed.present, spent, ite_self]
    · by_cases before : Delivered revision ticket since
      · have spent := fixed.spent before
        have come : run.desk.exchange.progress ticket ≠ .waiting := by simp [spent]
        rw [Run.progress_of_makes steady makes come fixed.present, spent, ite_self]
      · obtain ⟨outcome, known⟩ := Option.isSome_iff_exists.mp isFixed
        have due := fixed.due outcome known before
        have come : run.desk.exchange.progress ticket ≠ .waiting := by
          intro waiting
          rw [waiting] at due
          cases due
        exact (Run.progress_of_makes steady makes come fixed.present).trans (if_pos looks)

theorem fixed_of_registered {ticket : Nat} (makes : Run.Makes run act answer later)
    (registers : Run.Registers ticket act answer) :
    Fixed revision ticket [] later.desk.exchange := by
  obtain ⟨_, length, _, waiting, _⟩ := Run.registered_of_makes makes registers
  have undelivered : ¬Delivered revision ticket [] := not_delivered_of_fate rfl
  exact {
    present := by omega
    waits := fun _ => waiting
    due := fun _ fate => by cases fate
    spent := fun delivered => (undelivered delivered).elim }

theorem awaits_of_makes (paired : Paired revision history run)
    (makes : Run.Makes run act answer later) (ticket : Nat) :
    later.desk.exchange.awaiting = some ticket ↔
      ∃ since, Since (history ++ [⟨run, act, answer⟩]) (Entry.Registers ticket) since ∧
        (∀ entry ∈ since, ∀ other, ¬Entry.Registers other entry) ∧
          fate revision since = none := by
  rw [Run.awaiting_of_makes paired.steady makes ticket, paired.awaits ticket]
  constructor
  · rintro (registers | ⟨silent, unregistered, earlier, before, alone, unfixed⟩)
    · exact ⟨[], since_snoc.mpr (.inr ⟨rfl, registers⟩), by simp, rfl⟩
    · refine ⟨earlier ++ [⟨run, act, answer⟩], since_snoc.mpr (.inl ⟨earlier, rfl, before⟩), ?_,
        fate_snoc_eq_none.mpr ⟨unfixed, silent⟩⟩
      intro entry member
      rcases List.mem_append.mp member with old | new
      · exact alone entry old
      · rw [List.mem_singleton.mp new]
        exact unregistered
  · rintro ⟨since, begun, alone, unfixed⟩
    rcases since_snoc.mp begun with ⟨earlier, rfl, before⟩ | ⟨_, registers⟩
    · obtain ⟨unfixedBefore, silent⟩ := fate_snoc_eq_none.mp unfixed
      have unregistered := alone ⟨run, act, answer⟩ (by simp)
      exact .inr ⟨silent, unregistered, earlier, before,
        fun entry member => alone entry (by simp [member]), unfixedBefore⟩
    · exact .inl registers

theorem held_of_makes {ticket : Nat} (present : ticket < run.desk.exchange.tickets.length)
    (held : run.desk.exchange.holds ticket = true ↔ ∀ used ∈ since, ¬Entry.UsesUp ticket used)
    (makes : Run.Makes run act answer later) :
    later.desk.exchange.holds ticket = true ↔
      ∀ used ∈ since ++ [⟨run, act, answer⟩], ¬Entry.UsesUp ticket used := by
  rw [Run.holds_of_makes makes present, held, List.forall_mem_append, List.forall_mem_singleton]
  rfl

theorem waits_of_makes {ticket waiter : Nat} (known : waiter < run.desk.waiters.length)
    (waits : run.desk.waiters[waiter]?.join = some ticket ↔
      ∀ joined ∈ since, ¬Entry.Joins waiter joined)
    (makes : Run.Makes run act answer later) :
    later.desk.waiters[waiter]?.join = some ticket ↔
      ∀ joined ∈ since ++ [⟨run, act, answer⟩], ¬Entry.Joins waiter joined := by
  rw [Run.waits_of_makes makes known, waits, List.forall_mem_append, List.forall_mem_singleton]
  rfl

theorem spawned_of_makes {ticket waiter : Nat} (makes : Run.Makes run act answer later)
    (spawns : Entry.Spawns ticket waiter ⟨run, act, answer⟩) :
    waiter < later.desk.waiters.length ∧ later.desk.waiters[waiter]?.join = some ticket := by
  obtain ⟨rfl, rfl⟩ := spawns
  cases makes with
  | hold step _ desk handles =>
      cases handles with
      | spawn => simp
  | conclude _ _ _ _ _ _ _ others => exact (others _ rfl).elim
  | pass _ _ _ _ _ others => exact (others _ rfl).elim

theorem paired_of_makes (paired : Paired revision history run)
    (makes : Run.Makes run act answer later) :
    Paired revision (history ++ [⟨run, act, answer⟩]) later where
  steady := Run.steady_of_makes paired.steady makes
  awaits := awaits_of_makes paired makes
  fixed ticket since begun := by
    rcases since_snoc.mp begun with ⟨earlier, rfl, before⟩ | ⟨rfl, registers⟩
    · exact fixed_of_makes paired.steady (paired.fixed ticket earlier before) makes
    · exact fixed_of_registered makes registers
  held ticket since begun := by
    rcases since_snoc.mp begun with ⟨earlier, rfl, before⟩ | ⟨rfl, registers⟩
    · have present := (paired.fixed ticket earlier before).present
      exact held_of_makes present (paired.held ticket earlier before) makes
    · obtain ⟨_, _, _, _, held⟩ := Run.registered_of_makes makes registers
      simp [held]
  waits ticket waiter since begun := by
    rcases since_snoc.mp begun with ⟨earlier, rfl, before⟩ | ⟨rfl, spawns⟩
    · obtain ⟨known, waits⟩ := paired.waits ticket waiter earlier before
      exact ⟨Nat.lt_of_lt_of_le known (Run.length_waiters_of_makes makes),
        waits_of_makes known waits makes⟩
    · obtain ⟨known, waits⟩ := spawned_of_makes makes spawns
      exact ⟨known, by simp [waits]⟩

end Step

theorem paired_of_acts {revision : Revision} {history : List Entry} {run : Run}
    (paired : Paired revision history run) (acts : List Act) :
    Paired revision (history ++ run.history acts) (run.after acts) := by
  induction acts generalizing history run with
  | nil => simpa [Run.history, Run.after] using paired
  | cons act rest ih =>
      have next := ih (paired_of_makes paired (Run.makes_of_act run act))
      simpa [Run.history, Run.after] using next

theorem pairing_of_paired {revision : Revision} {history : List Entry} {run : Run}
    (paired : Paired revision history run) : Pairing revision history run where
  awaits := by
    rw [isAwaiting, Option.isSome_iff_exists]
    constructor
    · rintro ⟨ticket, outstanding⟩
      exact ⟨ticket, (paired.awaits ticket).mp outstanding⟩
    · rintro ⟨ticket, alone⟩
      exact ⟨ticket, (paired.awaits ticket).mpr alone⟩
  registers present := by
    constructor
    · intro free
      simp [Run.act, Run.begin, present, beginning, register, free]
    · intro taken
      have same : run.setExchange run.desk.exchange = run := rfl
      simp [Run.act, Run.begin, present, beginning, register, taken, same]
  early ticket since step begun looks unfixed := by
    have waiting := (paired.fixed ticket since begun).waits unfixed
    have handles := Desk.handles_of_hold run.desk step
    rcases Desk.progress_of_look handles looks with ⟨_, answer, same⟩ | ⟨outcome, due, _⟩
    · simp [Run.act, Run.begin, answer, same]
    · rw [waiting] at due
      cases due
  first ticket since step outcome begun looks fixed undelivered := by
    have due := (paired.fixed ticket since begun).due outcome fixed undelivered
    have handles := Desk.handles_of_hold run.desk step
    rcases Desk.progress_of_look handles looks with ⟨waiting, _⟩ | ⟨found, foundDue, answer, _⟩
    · rw [waiting] at due
      cases due
    · rw [due] at foundDue
      cases foundDue
      exact answer
  further ticket since step begun looks delivered := by
    have spent := (paired.fixed ticket since begun).spent delivered
    have handles := Desk.handles_of_hold run.desk step
    rcases Desk.progress_of_look handles looks with ⟨waiting, _⟩ | ⟨found, due, answer, _⟩
    · rw [spent] at waiting
      cases waiting
    · rw [spent] at due
      cases due
      exact answer
  held := paired.held
  waits ticket waiter since begun := (paired.waits ticket waiter since begun).2
  keeps step := Desk.awaiting_of_handles (Desk.handles_of_hold run.desk step)

theorem pairing_of_acts (revision : Revision) (acts : List Act) :
    Pairing revision ((Run.start revision).history acts) ((Run.start revision).after acts) := by
  have paired := paired_of_acts (paired_start revision) acts
  rw [List.nil_append] at paired
  exact pairing_of_paired paired

/-- After any acts, in whatever order and however nested, what comes of every ticket is fixed by the
first event after its registration. A script comes to an end just where its taps do not set each
other off for ever; what it does, its dispatches with all that its taps do about them, is then on
record, and at every point of the record the same is true. -/
theorem pairing_over_whole_runs (revision : Revision) :
    (∀ acts : List Act,
      Pairing revision ((Run.start revision).history acts) ((Run.start revision).after acts)) ∧
    ∀ steps : List Step,
      (((Run.start revision).answers steps).isSome ↔ Terminates [] steps) ∧
      ∀ answers : List (Answer × Option Status),
        (Run.start revision).answers steps = some answers →
        ∃ record, Accounts revision steps answers record ∧
          record.run = (Run.start revision).after record.acts ∧
          ∀ place, Pairing revision (record.entries.take place)
            ((Run.start revision).after (record.acts.take place)) := by
  refine ⟨pairing_of_acts revision, fun steps => ⟨answers_start_isSome_iff revision steps, ?_⟩⟩
  intro answers ran
  obtain ⟨record, accounts⟩ := exists_accounts ran
  have historical := historical_of_recorded accounts.recorded
  refine ⟨record, accounts, historical.run, ?_⟩
  intro place
  rw [historical.entries, Run.take_history]
  exact pairing_of_acts revision _

/-- A chunk that begins with 1 makes one tap register and another one dispatch a chunk, which
answers what was just registered. -/
def relayedAnswer : List Step :=
  [.operation .register, .tap (some { trigger := some 1, operation := .register }),
    .tap (some { trigger := some 1, operation := .dispatch [2] }), .operation (.dispatch [1]),
    .hold (.ticket 0 .tryGet), .hold (.ticket 1 .tryGet), .hold (.ticket 1 .tryGet),
    .operation .register]

theorem pairing_of_relayed_answer :
    ∃ answers record, (Run.start .v2).answers relayedAnswer = some answers ∧
      answers.map Prod.fst =
        [.receipt (.number 0), .receipt (.number 0), .receipt (.number 1), .receipt .done,
          .outcome (outcomeOf .v2 [1]), .outcome (outcomeOf .v2 [2]),
          .outcome (.error .interrupted), .receipt (.number 2)] ∧
      Terminates [] relayedAnswer ∧ Accounts .v2 relayedAnswer answers record ∧
      record.exchange.awaiting = some 2 ∧ Pairing .v2 record.entries record.run := by
  have both := (pairing_over_whole_runs .v2).2 relayedAnswer
  have ran : ∃ answers, (Run.start .v2).answers relayedAnswer = some answers ∧
      answers.map Prod.fst =
        [.receipt (.number 0), .receipt (.number 0), .receipt (.number 1), .receipt .done,
          .outcome (outcomeOf .v2 [1]), .outcome (outcomeOf .v2 [2]),
          .outcome (.error .interrupted), .receipt (.number 2)] := ⟨_, rfl, rfl⟩
  obtain ⟨answers, ran, answered⟩ := ran
  obtain ⟨record, accounts, finished, paired⟩ := both.2 answers ran
  have awaits : ((Run.start .v2).last relayedAnswer).bind
      (fun run => run.desk.exchange.awaiting) = some 2 := rfl
  rw [accounts.finishes] at awaits
  have whole := paired record.deeds.length
  rw [List.take_of_length_le (by simp [Record.entries]),
    List.take_of_length_le (by simp [Record.acts]), ← finished] at whole
  exact ⟨answers, record, ran, answered, both.1.mp (by rw [ran]; rfl), accounts, awaits, whole⟩

end Exchange

end WatchLink
