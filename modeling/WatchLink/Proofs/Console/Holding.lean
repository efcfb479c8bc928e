import WatchLink.Proofs.Console.Steps
import WatchLink.Proofs.Reception.Observers

/-!
# The inbox of a run that watches

A run that watches has one ticket, for the response that confirms its request, and one inbox, which
it opened before it sent anything. `Link.Holds` says what is in them, given the chunks that have
come in since and how many of them the run has taken; whatever the worker and the network do keeps
it.
-/

namespace WatchLink

set_option autoImplicit false

namespace Worker

/-- Whether the inboxes are still open. -/
def isLive : Worker → Bool
  | ended => false
  | _ => true

/-- The places of a worker whose link was opened, by whether the stream has ceased. -/
def Follows (ceased : Bool) : Worker → Prop
  | reading | publishingChunk _ | notifying _ => ceased = false
  | finishing _ none | ended => ceased = true
  | _ => False

end Worker

namespace Exchange

/-- The exchange of a run that watches once these chunks have come in, the first of which answers
the ticket. -/
def attended (revision : Revision) (heard : List Bytes) (collected : Bool) (inbox : Inbox) :
    Exchange where
  revision
  awaiting := if heard.isEmpty then some 0 else none
  tickets :=
    [{ progress :=
        match heard with
        | [] => .waiting
        | first :: _ => if collected then .spent else .resolved (outcomeOf revision first) }]
  inboxes := [inbox]
  closed := !inbox.attached

theorem collect_attended_nil (revision : Revision) (inbox : Inbox) :
    (attended revision [] false inbox).collect 0 =
      (none, attended revision [] false inbox) := rfl

theorem collect_attended_cons (revision : Revision) (first : Bytes) (others : List Bytes)
    (inbox : Inbox) :
    (attended revision (first :: others) false inbox).collect 0 =
      (some (outcomeOf revision first), attended revision (first :: others) true inbox) := rfl

end Exchange

namespace Link

/-- The link of a run that watches: the chunks that have come in are in its inbox or on their way
there, and the run has taken so many of them. -/
def Holds (heard : List Bytes) (collected : Bool) (taken : Nat) (link : Link) : Prop :=
  ∃ arrived, heard = arrived ++ link.worker.waiting (.inbox 0) ∧
    link.exchange = .attended link.revision heard collected
      { feed := { arrived, taken }, attached := link.worker.isLive }

section Holding

variable {heard : List Bytes} {collected : Bool} {taken : Nat} {link later : Link}

theorem holds_of_chunk {bytes : Bytes} (holds : link.Holds heard collected taken)
    (uncollected : heard = [] → collected = false)
    (change : Works link (some (.chunk bytes)) later) :
    later.Holds (heard ++ [bytes]) collected taken := by
  obtain ⟨arrived, split, exchange⟩ := holds
  cases change with
  | lose place arrival ends => simp at ends
  | answer place bytes nonempty fits =>
      simp only [place, Worker.waiting, List.append_nil] at split
      subst split
      refine ⟨heard, rfl, ?_⟩
      simp only [mapExchange, exchange, place]
      cases heard with
      | nil =>
          rw [uncollected rfl]
          rfl
      | cons first others => rfl

theorem holds_of_end (holds : link.Holds heard collected taken)
    (change : Works link (some .ended) later) : later.Holds heard collected taken := by
  obtain ⟨arrived, split, exchange⟩ := holds
  cases change with
  | lose place arrival ends =>
      rw [place] at split exchange
      exact ⟨arrived, split, exchange⟩

theorem follows_of_work {ceased : Bool} (follows : link.worker.Follows ceased)
    (change : Works link none later) : later.worker.Follows ceased := by
  cases change with
  | closeInboxes opening worker place rest =>
      rw [place] at follows
      cases opening with
      | some opening => exact follows.elim
      | none =>
          subst rest
          exact follows
  | sever opening place | reject opening place =>
      rw [place] at follows
      cases opening with
      | some opening => exact follows.elim
      | none => exact follows
  | forestall place | connect place | announce place | fire _ place =>
      rw [place] at follows
      exact follows.elim
  | publish _ place | notify _ place =>
      rw [place] at follows
      exact follows

theorem holds_of_work {ceased : Bool} (holds : link.Holds heard collected taken)
    (follows : link.worker.Follows ceased) (answered : ceased = true → heard ≠ [])
    (change : Works link none later) : later.Holds heard collected taken := by
  obtain ⟨arrived, split, exchange⟩ := holds
  cases change with
  | forestall place | connect place | announce place | fire _ place =>
      rw [place] at follows
      exact follows.elim
  | publish bytes place =>
      rw [place] at split exchange
      refine ⟨arrived ++ [bytes], ?_, ?_⟩
      · simpa only [Worker.waiting, List.append_nil] using split
      · simp only [mapExchange, exchange]
        rfl
  | notify bytes place =>
      rw [place] at split exchange
      refine ⟨arrived, split, ?_⟩
      simp only [mapExchange, exchange]
      rfl
  | sever opening place =>
      rw [place] at split exchange
      exact ⟨arrived, split, exchange⟩
  | reject opening place =>
      rw [place] at follows split exchange
      cases opening with
      | some opening => exact follows.elim
      | none =>
          refine ⟨arrived, split, ?_⟩
          obtain ⟨first, others, same⟩ := List.exists_cons_of_ne_nil (answered follows)
          simp only [mapExchange, exchange, same]
          rfl
  | closeInboxes opening worker place rest =>
      rw [place] at follows split exchange
      cases opening with
      | some opening => exact follows.elim
      | none =>
          subst rest
          refine ⟨arrived, split, ?_⟩
          simp only [mapExchange, exchange]
          rfl

end Holding

end Link

namespace Console

namespace Run

variable {run : Run} {heard : List Bytes} {collected : Bool} {taken : Nat}

/-- What a run takes from its only inbox: the next chunk, if one has arrived; otherwise it waits
until the inbox is closed. -/
theorem take_from_of_inbox {arrived : List Bytes}
    (here : run.link.exchange.inboxes =
      [{ feed := { arrived, taken }, attached := run.link.worker.isLive }]) :
    (∃ chunk, arrived[taken]? = some chunk ∧ run.takeFrom 0 = some (.chunk chunk, { run with
        link := { run.link with
          exchange := run.link.exchange.setInbox 0
            { feed := { arrived, taken := taken + 1 }, attached := run.link.worker.isLive } } })) ∨
      arrived.length ≤ taken ∧
        run.takeFrom 0 = if run.link.worker = .ended then some (.disconnected, run) else none := by
  have there : run.link.exchange.inboxes[0]? =
      some { feed := { arrived, taken }, attached := run.link.worker.isLive } := by
    rw [here]
    rfl
  cases next : arrived[taken]? with
  | some chunk =>
      left
      have moved : ({ arrived, taken } : Feed Bytes).next =
          some (chunk, { arrived, taken := taken + 1 }) := by
        simp [Feed.next, next]
      exact ⟨chunk, rfl, take_from_of_next there rfl moved⟩
  | none =>
      right
      have dry : ({ arrived, taken } : Feed Bytes).next = none := by simp [Feed.next, next]
      refine ⟨by simpa using next, ?_⟩
      rw [take_from_of_dry there rfl dry]
      cases run.link.worker <;> rfl

theorem take_from_of_holds (holds : run.link.Holds heard collected taken) :
    (∃ chunk exchange, heard[taken]? = some chunk ∧
      run.takeFrom 0 = some (.chunk chunk, { run with link := { run.link with exchange } }) ∧
        ({ run.link with exchange } : Link).Holds heard collected (taken + 1)) ∨
      (run.takeFrom 0 = none ∧ run.link.worker ≠ .ended) ∨
      run.takeFrom 0 = some (.disconnected, run) ∧ run.link.worker = .ended ∧
        heard.length ≤ taken := by
  obtain ⟨arrived, split, exchange⟩ := holds
  have here : run.link.exchange.inboxes =
      [{ feed := { arrived, taken }, attached := run.link.worker.isLive }] := by
    rw [exchange]
    rfl
  rcases take_from_of_inbox here with ⟨chunk, next, takes⟩ | ⟨all, takes⟩
  · refine .inl ⟨chunk, _, ?_, takes, arrived, split, ?_⟩
    · have bound := (List.getElem?_eq_some_iff.mp next).1
      rw [split, List.getElem?_append_left bound, next]
    · rw [exchange]
      rfl
  · right
    by_cases ended : run.link.worker = .ended
    · rw [if_pos ended] at takes
      refine .inr ⟨takes, ended, ?_⟩
      rw [split, ended]
      simpa [Worker.waiting] using all
    · rw [if_neg ended] at takes
      exact .inl ⟨takes, ended⟩

/-- A run that waits for its inbox does not wait for ever. -/
theorem takes_of_ended (holds : run.link.Holds heard collected taken)
    (ended : run.link.worker = .ended) : run.takeFrom 0 ≠ none := by
  rcases take_from_of_holds holds with ⟨chunk, exchange, _, takes, _⟩ | waits | ceased
  · rw [takes]
    exact Option.some_ne_none _
  · exact (waits.2 ended).elim
  · rw [ceased.1]
    exact Option.some_ne_none _

end Run

end Console

end WatchLink
