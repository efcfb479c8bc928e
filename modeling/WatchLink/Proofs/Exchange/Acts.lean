import WatchLink.Proofs.Exchange.Handling
import WatchLink.Proofs.Exchange.History

/-!
# What one act does to one ticket

An act either empties the slot, and then fixes what comes of the outstanding ticket, or registers a
ticket, or is a step of the holder, or leaves all tickets as they are: these are the cases of
`Run.Makes`. The lemmas here say what that means for one ticket; what follows for histories is in
the module on pairing.
-/

namespace WatchLink

set_option autoImplicit false

namespace Exchange

/-- What an act fixes for the ticket that is outstanding when it begins. -/
def Act.verdict (revision : Revision) : Act → Option Outcome
  | step (.operation (.dispatch chunk)) => some (outcomeOf revision chunk)
  | step (.operation (.failPending cause)) => some (.error cause)
  | step (.operation .release) | step .giveUp => some (.error .interrupted)
  | _ => none

structure Emptied (progress : Progress) (before after : Exchange) : Prop where
  revision : after.revision = before.revision
  awaiting : after.awaiting = none
  tickets : after.tickets = (before.conclude progress).tickets

namespace Run

inductive Makes (run : Run) : Act → Answer → Run → Prop where
  | hold (step : Holding) (answer : Answer) (desk : Desk)
      (handles : Desk.Handles run.desk step answer desk) :
      Makes run (.step (.hold step)) answer { run with desk }
  | gone (act : Act) (abandoned : run.givenUp = true)
      (others : ∀ step, act ≠ .step (.hold step)) : Makes run act .gone run
  | register (ticket : Nat) (exchange : Exchange) (present : run.givenUp = false)
      (registered : run.desk.exchange.register = .ok (ticket, exchange)) :
      Makes run (.step (.operation .register)) (.receipt (.number ticket))
        (run.setExchange exchange)
  | registerTwice (present : run.givenUp = false)
      (taken : run.desk.exchange.awaiting ≠ none) :
      Makes run (.step (.operation .register)) (.receipt (.refused .alreadyAwaiting)) run
  | conclude (act : Act) (answer : Answer) (later : Run) (progress : Progress)
      (present : run.givenUp = false)
      (verdict : act.verdict run.desk.exchange.revision = progress.due)
      (settled : progress ≠ .waiting) (others : ∀ step, act ≠ .step (.hold step))
      (waiters : later.desk.waiters = run.desk.waiters)
      (emptied : Emptied progress run.desk.exchange later.desk.exchange) :
      Makes run act answer later
  | pass (act : Act) (answer : Answer) (later : Run) (present : run.givenUp = false)
      (silent : act.verdict run.desk.exchange.revision = none)
      (others : ∀ step, act ≠ .step (.hold step))
      (unregistered : act ≠ .step (.operation .register))
      (waiters : later.desk.waiters = run.desk.waiters) (still : later.givenUp = false)
      (alike : Alike run.desk.exchange later.desk.exchange) : Makes run act answer later

theorem makes_operation {run : Run} (present : run.givenUp = false) (operation : Operation) :
    Makes run (.step (.operation operation)) (.receipt (run.desk.exchange.beginning operation).1)
      (run.setExchange (run.desk.exchange.beginning operation).2) := by
  have concludes : ∀ progress, Emptied progress run.desk.exchange
      (run.desk.exchange.conclude progress) := fun progress =>
    ⟨revision_conclude _ _, awaiting_conclude _ _, rfl⟩
  cases operation with
  | register =>
      cases registered : run.desk.exchange.register with
      | ok made =>
          simp only [beginning, registered]
          exact .register made.1 made.2 present registered
      | error cause =>
          obtain ⟨taken, same⟩ := register_error registered
          simp only [beginning, registered, same]
          exact .registerTwice present taken
  | release =>
      exact .conclude _ _ _ .spent present rfl (by simp) (by simp) rfl (concludes _)
  | failPending cause =>
      exact .conclude _ _ _ (.resolved (.error cause)) present rfl (by simp) (by simp) rfl
        (concludes _)
  | dispatch chunk =>
      have answered := concludes (.resolved (outcomeOf run.desk.exchange.revision chunk))
      exact .conclude _ _ _ (.resolved (outcomeOf run.desk.exchange.revision chunk)) present rfl
        (by simp) (by simp) rfl ⟨answered.revision, answered.awaiting, rfl⟩
  | closeInboxes | inspect | subscribe =>
      exact .pass _ _ _ present rfl (by simp) (by simp) rfl present ⟨rfl, rfl, rfl⟩

theorem act_of_given_up {run : Run} {act : Act} (abandoned : run.givenUp = true)
    (others : ∀ step, act ≠ .step (.hold step)) : run.act act = (.gone, run) := by
  cases act with
  | note => simp [Run.act, abandoned]
  | step step =>
      cases step with
      | hold step => exact (others step rfl).elim
      | _ => simp [Run.act, Run.begin, abandoned]

/-- An act is a step of the holder, or there is no exchange to act on, or it is what it is of an
exchange that is there. -/
theorem act_cases {motive : Act → Answer → Run → Prop} (run : Run)
    (hold : ∀ step, motive (.step (.hold step)) (run.desk.hold step).1
      { run with desk := (run.desk.hold step).2 })
    (gone : ∀ act, run.givenUp = true → (∀ step, act ≠ .step (.hold step)) → motive act .gone run)
    (operation : ∀ operation, run.givenUp = false → motive (.step (.operation operation))
      (.receipt (run.desk.exchange.beginning operation).1)
      (run.setExchange (run.desk.exchange.beginning operation).2))
    (tap : ∀ reaction, run.givenUp = false → motive (.step (.tap reaction))
      (.receipt (.number (run.desk.exchange.tap reaction).1))
      (run.setExchange (run.desk.exchange.tap reaction).2))
    (giveUp : run.givenUp = false → motive (.step .giveUp) (.receipt .done)
      { run.setExchange run.desk.exchange.abandon with givenUp := true })
    (note : ∀ index line, run.givenUp = false → motive (.note index line) (.receipt .done)
      (run.setExchange (run.desk.exchange.note index line)))
    (act : Act) : motive act (run.act act).1 (run.act act).2 := by
  by_cases holds : ∃ step, act = .step (.hold step)
  · obtain ⟨step, rfl⟩ := holds
    exact hold step
  have others : ∀ step, act ≠ .step (.hold step) := fun step same => holds ⟨step, same⟩
  cases present : run.givenUp with
  | true =>
      rw [act_of_given_up present others]
      exact gone act present others
  | false =>
      cases act with
      | note index line =>
          simp only [Run.act, present]
          exact note index line present
      | step step =>
          cases step with
          | hold step => exact (others step rfl).elim
          | operation begun =>
              simp only [Run.act, Run.begin, present]
              exact operation begun present
          | tap reaction =>
              simp only [Run.act, Run.begin, present]
              exact tap reaction present
          | giveUp =>
              simp only [Run.act, Run.begin, present]
              exact giveUp present

theorem makes_of_act (run : Run) (act : Act) : Makes run act (run.act act).1 (run.act act).2 := by
  refine act_cases (motive := Makes run) run ?hold ?gone ?operation ?tap ?giveUp ?note act
  case hold => exact fun step => .hold step _ _ (Desk.handles_of_hold run.desk step)
  case gone => exact fun act abandoned others => .gone act abandoned others
  case operation => exact fun operation present => makes_operation present operation
  case giveUp =>
    intro present
    exact .conclude _ _ _ .spent present rfl (by simp) (by simp) rfl
      ⟨revision_conclude _ _, awaiting_conclude _ _, rfl⟩
  case tap | note =>
    intros
    have present : run.givenUp = false := ‹_›
    exact .pass _ _ _ present rfl (by simp) (by simp) rfl present ⟨rfl, rfl, rfl⟩

def looksAt (run : Run) : Act → Option Nat
  | .step (.hold step) => run.desk.looksAt step
  | _ => none

/-- What every act keeps. An exchange that was given up has nothing outstanding. -/
structure Steady (revision : Revision) (run : Run) : Prop where
  spoken : run.desk.exchange.revision = revision
  coherent : run.desk.exchange.Coherent
  abandoned : run.givenUp = true → run.desk.exchange.awaiting = none

section Making

variable {revision : Revision} {run later : Run} {act : Act} {answer : Answer}

theorem steady_of_makes (steady : Steady revision run) (makes : Makes run act answer later) :
    Steady revision later := by
  cases makes with
  | hold step _ desk handles =>
      exact ⟨(Desk.revision_of_handles handles).trans steady.spoken,
        Desk.coherent_of_handles steady.coherent handles,
        fun abandoned => (Desk.awaiting_of_handles handles).trans (steady.abandoned abandoned)⟩
  | gone => exact steady
  | register ticket exchange present registered =>
      refine ⟨?_, steady.coherent.of_register registered, ?_⟩
      · rw [← steady.spoken]
        simp [setExchange, (register_ok registered).2.2]
      · intro abandoned
        cases present.symm.trans abandoned
  | registerTwice => exact steady
  | conclude _ _ _ progress present verdict settled others waiters emptied =>
      refine ⟨emptied.revision.trans steady.spoken, ?_, fun _ => emptied.awaiting⟩
      exact (steady.coherent.conclude settled).of_same
        (emptied.awaiting.trans (awaiting_conclude _ _).symm) emptied.tickets
  | pass _ _ _ present silent others unregistered waiters still alike =>
      refine ⟨alike.revision.trans steady.spoken,
        steady.coherent.of_same alike.awaiting alike.tickets, ?_⟩
      intro abandoned
      rw [still] at abandoned
      cases abandoned

theorem waiting_of_makes (steady : Steady revision run) (makes : Makes run act answer later)
    {ticket : Nat} (waiting : run.desk.exchange.progress ticket = .waiting)
    (silent : act.verdict revision = none) :
    later.desk.exchange.progress ticket = .waiting := by
  cases makes with
  | hold step _ desk handles =>
      by_cases looks : run.desk.looksAt step = some ticket
      · rcases Desk.progress_of_look handles looks with ⟨_, _, same⟩ | ⟨outcome, due, _⟩
        · rw [same]
          exact waiting
        · rw [waiting] at due
          cases due
      · exact (Desk.progress_of_other_look handles looks).trans waiting
  | gone => exact waiting
  | register made exchange present registered =>
      have free := (register_ok registered).1
      rw [(steady.coherent ticket).mp waiting] at free
      cases free
  | registerTwice => exact waiting
  | conclude _ _ _ progress present verdict settled =>
      rw [steady.spoken, silent] at verdict
      exact (settled ((Progress.due_eq_none_iff progress).mp verdict.symm)).elim
  | pass _ _ _ present silent others unregistered waiters still alike =>
      simpa [progress, alike.tickets] using waiting

theorem due_of_makes (steady : Steady revision run) (makes : Makes run act answer later)
    {ticket : Nat} (waiting : run.desk.exchange.progress ticket = .waiting) {outcome : Outcome}
    (fixes : act.verdict revision = some outcome) :
    (later.desk.exchange.progress ticket).due = some outcome := by
  have outstanding := (steady.coherent ticket).mp waiting
  cases makes with
  | hold => cases fixes
  | gone act abandoned =>
      rw [steady.abandoned abandoned] at outstanding
      cases outstanding
  | register => cases fixes
  | registerTwice => cases fixes
  | conclude _ _ _ progress present verdict settled others waiters emptied =>
      have come := progress_conclude_of_awaiting progress steady.coherent outstanding
      have same : later.desk.exchange.progress ticket = progress := by
        simpa [Exchange.progress, emptied.tickets] using come
      rw [same, ← verdict, steady.spoken, fixes]
  | pass _ _ _ present silent =>
      rw [steady.spoken, fixes] at silent
      cases silent

theorem progress_of_makes (steady : Steady revision run) (makes : Makes run act answer later)
    {ticket : Nat} (come : run.desk.exchange.progress ticket ≠ .waiting)
    (present : ticket < run.desk.exchange.tickets.length) :
    later.desk.exchange.progress ticket =
      if run.looksAt act = some ticket then .spent else run.desk.exchange.progress ticket := by
  have other : run.desk.exchange.awaiting ≠ some ticket := fun outstanding =>
    come ((steady.coherent ticket).mpr outstanding)
  have unseen : (∀ step, act ≠ .step (.hold step)) → run.looksAt act = none := by
    intro others
    cases act with
    | note => rfl
    | step step =>
        cases step with
        | hold step => exact (others step rfl).elim
        | _ => rfl
  cases makes with
  | hold step _ desk handles =>
      by_cases looks : run.looksAt (.step (.hold step)) = some ticket
      · rw [if_pos looks]
        rcases Desk.progress_of_look handles looks with ⟨waiting, _⟩ | ⟨_, _, _, spent⟩
        · exact (come waiting).elim
        · exact spent
      · rw [if_neg looks]
        exact Desk.progress_of_other_look handles looks
  | gone _ abandoned others => simp [unseen others]
  | register made exchange _ registered =>
      have different : ticket ≠ made := by
        have number := (register_ok registered).2.1
        omega
      exact progress_of_register_other registered different
  | registerTwice => rfl
  | conclude _ _ _ progress _ _ _ others _ emptied =>
      have kept := progress_conclude_of_ne progress other
      simpa [unseen others, Exchange.progress, emptied.tickets] using kept
  | pass _ _ _ _ _ others _ _ _ alike =>
      simp [unseen others, Exchange.progress, alike.tickets]

def Registers (ticket : Nat) (act : Act) (answer : Answer) : Prop :=
  act = .step (.operation .register) ∧ answer = .receipt (.number ticket)

theorem unregistered_of_makes (makes : Makes run act answer later)
    (unfree : run.givenUp = true ∨ run.desk.exchange.awaiting ≠ none) (ticket : Nat) :
    ¬Registers ticket act answer := by
  rintro ⟨rfl, rfl⟩
  cases makes with
  | register _ exchange present registered =>
      rcases unfree with abandoned | taken
      · rw [present] at abandoned
        cases abandoned
      · exact taken (register_ok registered).1
  | conclude _ _ _ progress present verdict settled =>
      exact settled ((Progress.due_eq_none_iff progress).mp verdict.symm)
  | pass _ _ _ present silent others unregistered => exact unregistered rfl

theorem registered_of_makes (makes : Makes run act answer later) {ticket : Nat}
    (registers : Registers ticket act answer) :
    ticket = run.desk.exchange.tickets.length ∧
      later.desk.exchange.tickets.length = ticket + 1 ∧
      later.desk.exchange.awaiting = some ticket ∧
      later.desk.exchange.progress ticket = .waiting ∧
      later.desk.exchange.holds ticket = true := by
  obtain ⟨rfl, rfl⟩ := registers
  cases makes with
  | register _ exchange present registered =>
      have number := (register_ok registered).2.1
      have length := length_tickets_of_register registered
      refine ⟨number, ?_, awaiting_of_register registered, progress_of_register_self registered, ?_⟩
      · show exchange.tickets.length = ticket + 1
        omega
      · simp [setExchange, (register_ok registered).2.2, number, holds]
  | conclude _ _ _ progress present verdict settled =>
      exact (settled ((Progress.due_eq_none_iff progress).mp verdict.symm)).elim
  | pass _ _ _ present silent others unregistered => exact (unregistered rfl).elim

theorem length_of_makes (makes : Makes run act answer later) :
    run.desk.exchange.tickets.length ≤ later.desk.exchange.tickets.length := by
  cases makes with
  | hold step _ desk handles => exact Nat.le_of_eq (Desk.length_of_handles handles).symm
  | register ticket exchange present registered =>
      have length := length_tickets_of_register registered
      show run.desk.exchange.tickets.length ≤ exchange.tickets.length
      omega
  | conclude _ _ _ progress _ _ _ _ _ emptied => simp [emptied.tickets]
  | pass _ _ _ _ _ _ _ _ _ alike => simp [alike.tickets]
  | _ => exact Nat.le_refl _

/-- The slot is filled by registering, emptied by an event that fixes what comes of its ticket, and
otherwise left alone. -/
theorem awaiting_of_makes (steady : Steady revision run) (makes : Makes run act answer later)
    (ticket : Nat) :
    later.desk.exchange.awaiting = some ticket ↔
      Registers ticket act answer ∨
        act.verdict revision = none ∧ (∀ other, ¬Registers other act answer) ∧
          run.desk.exchange.awaiting = some ticket := by
  have unregistered := unregistered_of_makes makes
  cases makes with
  | hold step _ desk handles =>
      simp [Registers, Act.verdict, Desk.awaiting_of_handles handles]
  | gone _ abandoned others =>
      have free := steady.abandoned abandoned
      have nobody := unregistered (.inl abandoned) ticket
      simp [free, nobody]
  | register made exchange present registered =>
      have taken := awaiting_of_register registered
      have free := (register_ok registered).1
      simp [Registers, setExchange, taken, free]
  | registerTwice present taken => simp [Registers, Act.verdict]
  | conclude act _ _ progress present verdict settled others waiters emptied =>
      have fixes : act.verdict revision ≠ none := by
        rw [← steady.spoken, verdict]
        exact fun nothing => settled ((Progress.due_eq_none_iff progress).mp nothing)
      have notRegister : act ≠ .step (.operation .register) := by
        rintro rfl
        exact fixes rfl
      simp [emptied.awaiting, fixes, Registers, notRegister]
  | pass _ _ _ present silent others notRegister waiters still alike =>
      rw [steady.spoken] at silent
      simp [alike.awaiting, silent, Registers, notRegister]

/-- After this act the holder has no handle on the ticket any more. -/
def UsesUp (ticket : Nat) (act : Act) (answer : Answer) : Prop :=
  ∃ step, act = .step (.hold step) ∧ Desk.UsesUp ticket step answer

def Joins (waiter : Nat) (act : Act) (answer : Answer) : Prop :=
  ∃ step, act = .step (.hold step) ∧ Desk.Joins waiter step answer

theorem holds_of_makes (makes : Makes run act answer later) {ticket : Nat}
    (present : ticket < run.desk.exchange.tickets.length) :
    later.desk.exchange.holds ticket = true ↔
      run.desk.exchange.holds ticket = true ∧ ¬UsesUp ticket act answer := by
  have unused : (∀ step, act ≠ .step (.hold step)) → ¬UsesUp ticket act answer :=
    fun others ⟨step, same, _⟩ => others step same
  cases makes with
  | hold step _ desk handles =>
      simp only [UsesUp, Act.step.injEq, Step.hold.injEq, exists_eq_left']
      exact Desk.holds_of_handles handles ticket
  | gone _ abandoned others => simp [unused others]
  | register made exchange _ registered =>
      simp [unused (by simp), setExchange, (register_ok registered).2.2, holds,
        List.getElem?_append_left present]
  | registerTwice => simp [unused (by simp)]
  | conclude _ _ _ progress _ _ _ others _ emptied =>
      have same : later.desk.exchange.holds ticket = run.desk.exchange.holds ticket := by
        rw [← holds_conclude run.desk.exchange progress ticket]
        simp [holds, emptied.tickets]
      simp [unused others, same]
  | pass _ _ _ _ _ others _ _ _ alike => simp [unused others, holds, alike.tickets]

theorem waits_of_makes (makes : Makes run act answer later) {waiter : Nat}
    (known : waiter < run.desk.waiters.length) (ticket : Nat) :
    later.desk.waiters[waiter]?.join = some ticket ↔
      run.desk.waiters[waiter]?.join = some ticket ∧ ¬Joins waiter act answer := by
  have untold : (∀ step, act ≠ .step (.hold step)) → ¬Joins waiter act answer :=
    fun others ⟨step, same, _⟩ => others step same
  cases makes with
  | hold step _ desk handles =>
      simp only [Joins, Act.step.injEq, Step.hold.injEq, exists_eq_left']
      exact Desk.waits_of_handles handles known ticket
  | gone _ abandoned others => simp [untold others]
  | register => simp [untold (by simp), setExchange]
  | registerTwice => simp [untold (by simp)]
  | conclude _ _ _ _ _ _ _ others waiters => simp [untold others, waiters]
  | pass _ _ _ _ _ others _ waiters => simp [untold others, waiters]

theorem length_waiters_of_makes (makes : Makes run act answer later) :
    run.desk.waiters.length ≤ later.desk.waiters.length := by
  cases makes with
  | hold step _ desk handles => exact Desk.length_waiters_of_handles handles
  | conclude _ _ _ _ _ _ _ _ waiters => simp [waiters]
  | pass _ _ _ _ _ _ _ waiters => simp [waiters]
  | _ => exact Nat.le_refl _

end Making

end Run

end Exchange

end WatchLink
