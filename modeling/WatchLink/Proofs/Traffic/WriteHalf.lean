import WatchLink.Proofs.Traffic.Sound

/-!
# No sent action is left waiting

The write half of a link is taken away by a call that closes the link, or by the worker once the
transport has ended. Whoever takes it rejects the outstanding ticket in its next change. A ticket is
registered before its action is written; so once both changes have been made, there is no action
that was sent and whose ticket still waits, in whatever order everybody else moves.
-/

namespace WatchLink

set_option autoImplicit false

inductive Party where
  | caller (number : Nat)
  | worker
  deriving DecidableEq, Repr

/-- The party that goes on by a move; a caller that begins a call is not under way yet. -/
def Move.party : Move → Option Party
  | begin _ => none
  | advance number _ => some (.caller number)
  | work | arrive _ => some .worker

namespace Party

def Takes (traffic : Traffic) : Party → Prop
  | caller number => ∃ call, traffic.calls[number]? = some (call, .hangingUp)
  | worker => ∃ opening, traffic.link.worker = .finishing .seal opening

def Rejects (traffic : Traffic) : Party → Prop
  | caller number => ∃ call receipt, traffic.calls[number]? = some (call, .rejecting receipt)
  | worker => ∃ opening, traffic.link.worker = .finishing .failPending opening

end Party

namespace Traffic

variable {traffic later : Traffic} {move : Move} {party : Party}

theorem severed_of_rejects (sound : traffic.Sound) (rejects : party.Rejects traffic) :
    traffic.Severed := by
  cases party with
  | caller number =>
      obtain ⟨call, receipt, stands⟩ := rejects
      exact sound.grounded number call _ stands
  | worker =>
      obtain ⟨opening, place⟩ := rejects
      have working := sound.working
      simpa only [WorkerGrounded, place] using working

theorem takes_of_writable_lost (moved : Moves traffic move later)
    (before : traffic.link.writable = true) (after : later.link.writable = false) :
    ∃ party : Party, move.party = some party ∧ party.Takes traffic := by
  have still : later.link.writable = traffic.link.writable → False := by
    intro same
    rw [same, before] at after
    cases after
  cases moved with
  | begin call => exact (still rfl).elim
  | advance number host call task next link stands change =>
      cases change with
      | hangUp writable => exact ⟨.caller number, rfl, call, stands⟩
      | _ => exact (still rfl).elim
  | work link change =>
      cases change with
      | connect place unclosed => cases after
      | sever opening place => exact ⟨.worker, rfl, opening, place⟩
      | _ => exact (still rfl).elim
  | hear arrival link change =>
      cases change <;> exact (still rfl).elim

theorem rejects_of_takes (takes : party.Takes traffic) (moved : Moves traffic move later)
    (own : move.party = some party) : party.Rejects later := by
  cases party with
  | caller number =>
      obtain ⟨call, stands⟩ := takes
      cases moved with
      | advance moving host mover task next link stood change =>
          cases own
          have present := (List.getElem?_eq_some_iff.mp stood).1
          rw [stands] at stood
          cases stood
          cases change with
          | hangUp writable => exact ⟨call, _, List.getElem?_set_self present⟩
          | nothingToHangUp unwritable => exact ⟨call, _, List.getElem?_set_self present⟩
      | _ => cases own
  | worker =>
      obtain ⟨opening, place⟩ := takes
      cases moved with
      | work link change | hear arrival link change =>
          cases change <;> simp_all [Party.Rejects]
      | _ => cases own

theorem rejects_of_other (sound : traffic.Sound) (rejects : party.Rejects traffic)
    (moved : Moves traffic move later) (other : move.party ≠ some party) :
    party.Rejects later := by
  have severed := severed_of_rejects sound rejects
  cases party with
  | caller number =>
      obtain ⟨call, receipt, stands⟩ := rejects
      rcases next_standing_of_moves moved stands with stood | ⟨host, next, own, _⟩
      · exact ⟨call, receipt, stood⟩
      · rw [own] at other
        exact (other rfl).elim
  | worker =>
      obtain ⟨opening, place⟩ := rejects
      cases moved with
      | begin call => exact ⟨opening, place⟩
      | advance number host call task next link stands change =>
          rcases worker_of_changes change with same | ⟨fresh, _⟩
          · exact ⟨opening, same.trans place⟩
          · rw [severed.1] at fresh
            cases fresh
      | work link change | hear arrival link change => exact (other rfl).elim

theorem settled_of_rejects (sound : traffic.Sound) (rejects : party.Rejects traffic)
    (moved : Moves traffic move later) (own : move.party = some party) : later.Settled := by
  have severed := severed_of_rejects sound rejects
  have settles := settled_of_fail_pending sound severed moved
  cases party with
  | caller number =>
      obtain ⟨call, receipt, stands⟩ := rejects
      cases moved with
      | advance moving host mover task next link stood change =>
          cases own
          rw [stands] at stood
          cases stood
          cases change with
          | reject => exact settles rfl
      | _ => cases own
  | worker =>
      obtain ⟨opening, place⟩ := rejects
      cases moved with
      | work link change =>
          cases change with
          | reject => exact settles rfl
          | _ => simp_all
      | hear arrival link change => cases change <;> simp_all
      | _ => cases own

/-- A party that took the write half away has yet to reject the outstanding ticket, or nothing that
was sent waits any more. -/
theorem rejects_or_settled_of_run (sound : traffic.Sound)
    (torn : party.Rejects traffic ∨ traffic.Settled) {run : List Move}
    (ran : traffic.moves run = some later) :
    later.Sound ∧ (party.Rejects later ∨ later.Settled) := by
  refine moves_induction
    (fun state => state.Sound ∧ (party.Rejects state ∨ state.Settled)) ?_ ran ⟨sound, torn⟩
  intro state after move ⟨held, stage⟩ moved
  refine ⟨sound_of_moves held moved, ?_⟩
  rcases stage with rejects | settled
  · by_cases own : move.party = some party
    · exact .inr (settled_of_rejects held rejects moved own)
    · exact .inl (rejects_of_other held rejects moved own)
  · exact .inr (settled_of_moves held settled moved)

/-- Where nothing can be written, a call that is about to write goes on without having written. -/
theorem unwritten_of_severed (severed : traffic.Severed) {number : Nat} {host : Host} {call : Call}
    {action : Action} {ticket : Option Nat}
    (stands : traffic.calls[number]? = some (call, .writing action ticket))
    (moved : Moves traffic (.advance number host) later) :
    later.calls[number]? = some (call, .explaining ticket) ∧ later.link = traffic.link := by
  have present := (List.getElem?_eq_some_iff.mp stands).1
  cases moved with
  | advance _ _ mover task next link stood change =>
      rw [stands] at stood
      cases stood
      cases change with
      | nothingToWriteTo => exact ⟨List.getElem?_set_self present, rfl⟩
      | write _ _ _ writable | unsayable _ _ _ writable | writeFails _ _ _ _ _ writable =>
          rw [severed.2] at writable
          cases writable

/-- Only a party that `Takes` can have taken the write half away. Once one has, no action is sent
any more; and once the same party has gone on, which it does by rejecting the outstanding ticket,
nobody who sent an action waits for what comes of it. -/
theorem sent_actions_resolved_of_write_half_taken
    {held taken next rejected last : Traffic} {taking rejecting : Move}
    {between after : List Move} {party : Party}
    (reachable : held.Reachable)
    (takes : party.Takes held) (own : taking.party = some party)
    (moved : held.move taking = some taken)
    (meanwhile : taken.moves between = some next)
    (ownAgain : rejecting.party = some party)
    (movedAgain : next.move rejecting = some rejected)
    (ran : rejected.moves after = some last) :
    (∀ (before behind : Traffic) (move : Move), before.move move = some behind →
      before.link.writable = true → behind.link.writable = false →
      ∃ taker : Party, move.party = some taker ∧ taker.Takes before) ∧
    (∀ ticket (desk : Desk), last.Sent ticket → desk.exchange = last.link.exchange →
      (desk.useTicket ticket .tryGet).1 ≠ .pending ∧
        (desk.useTicket ticket .wait).1 ≠ .wouldBlock) ∧
    ∀ (run : List Move) (there afterwards : Traffic) (number : Nat) (host : Host) (call : Call)
      (action : Action) (ticket : Option Nat),
      taken.moves run = some there →
      there.calls[number]? = some (call, .writing action ticket) →
      there.move (.advance number host) = some afterwards →
      afterwards.calls[number]? = some (call, .explaining ticket) ∧
        afterwards.link = there.link := by
  have soundHeld := sound_of_reachable reachable
  have soundTaken := sound_of_moves soundHeld (moves_of_move moved)
  have rejects := rejects_of_takes takes (moves_of_move moved) own
  refine ⟨?_, ?_, ?_⟩
  · intro before behind move lost writable unwritable
    exact takes_of_writable_lost (moves_of_move lost) writable unwritable
  · intro ticket desk sent same
    obtain ⟨soundNext, stage⟩ := rejects_or_settled_of_run soundTaken (.inl rejects) meanwhile
    have soundRejected := sound_of_moves soundNext (moves_of_move movedAgain)
    have settled : rejected.Settled := by
      rcases stage with still | settled
      · exact settled_of_rejects soundNext still (moves_of_move movedAgain) ownAgain
      · exact settled_of_moves soundNext settled (moves_of_move movedAgain)
    have come : desk.exchange.progress ticket ≠ .waiting := by
      rw [same]
      exact ((settled_of_run soundRejected settled ran).2 ticket sent).2
    exact ⟨Desk.try_get_ne_pending come, Desk.wait_ne_would_block come⟩
  · intro run there afterwards number host call action ticket ranThere stands movedThere
    have severed := severed_of_run (severed_of_rejects soundTaken rejects) ranThere
    exact unwritten_of_severed severed stands (moves_of_move movedThere)

/-- A ping was sent, and a call that closes the link is about to take the write half away. -/
def pingedAndClosing : Traffic where
  link :=
    { settings := {}
      phase := .closed
      writable := true
      exchange := { revision := .v2, awaiting := some 0, tickets := [{}] }
      signal := { opening := some .ready }
      worker := .reading
      sent := [0] }
  calls := [(.start, .finished .done), (.act .ping, .finished (.number 0)), (.close, .hangingUp)]

def pingedAndSevered : Traffic where
  link := { pingedAndClosing.link with writable := false }
  calls := pingedAndClosing.calls.set 2 (.close, .rejecting .done)

def pingedAndRejected : Traffic where
  link := pingedAndSevered.link.mapExchange (Exchange.failPending .interrupted)
  calls := pingedAndClosing.calls.set 2 (.close, .closingInboxes .done)

theorem reachable_pinged_and_closing : pingedAndClosing.Reachable :=
  ⟨{}, { settings := {}, exchange := { revision := .v2 } },
    [.begin .start, .advance 0 .grants, .arrive .accepted, .work, .work, .begin (.act .ping),
      .advance 1 .grants, .advance 1 .grants, .begin .close, .advance 2 .grants], rfl, rfl⟩

theorem ping_resolved_of_closing :
    pingedAndClosing.moves [.advance 2 .grants, .advance 2 .grants] = some pingedAndRejected ∧
      pingedAndRejected.Sent 0 ∧
      (({ exchange := pingedAndRejected.link.exchange } : Desk).useTicket 0 .tryGet).1 ≠ .pending ∧
      (({ exchange := pingedAndRejected.link.exchange } : Desk).useTicket 0 .wait).1 ≠
        .wouldBlock := by
  have takes : (Party.caller 2).Takes pingedAndClosing := ⟨.close, rfl⟩
  have moved : pingedAndClosing.move (.advance 2 .grants) = some pingedAndSevered := rfl
  have movedAgain : pingedAndSevered.move (.advance 2 .grants) = some pingedAndRejected := rfl
  have sent : pingedAndRejected.Sent 0 := ⟨1, .ping, rfl⟩
  have resolved := (sent_actions_resolved_of_write_half_taken reachable_pinged_and_closing takes rfl
    moved (moves_nil _) rfl movedAgain (moves_nil _)).2.1
  exact ⟨rfl, sent, resolved 0 _ sent rfl⟩

end Traffic

end WatchLink
