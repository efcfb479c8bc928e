import WatchLink.Proofs.Exchange.Handling

/-!
# What a holder does to the inboxes

Whoever holds an inbox takes chunks from its front, and what is taken is what the answer hands over:
`Inbox.Drawn`. Nothing else that a holder does touches an inbox, `drawn_of_handles`.
-/

namespace WatchLink

set_option autoImplicit false

namespace Feed

variable {Item : Type}

def Fair (feed : Feed Item) : Prop := feed.taken ≤ feed.arrived.length

theorem Fair.push {feed : Feed Item} (fair : feed.Fair) (item : Item) : (feed.push item).Fair := by
  simp only [Fair, Feed.push, List.length_append, List.length_singleton] at fair ⊢
  omega

theorem received_push {feed : Feed Item} (fair : feed.Fair) (item : Item) :
    (feed.push item).received = feed.received :=
  List.take_append_of_le_length fair

theorem received_emptied (feed : Feed Item) :
    feed.emptied.received = feed.received ++ feed.queued := by
  rw [received_append_queued]
  exact List.take_length

theorem fair_of_next {feed later : Feed Item} {item : Item}
    (found : feed.next = some (item, later)) : later.Fair := by
  simp only [next, Option.map_eq_some_iff, Prod.mk.injEq] at found
  obtain ⟨_, present, _, rfl⟩ := found
  exact (List.getElem?_eq_some_iff.mp present).1

theorem arrived_of_next {feed later : Feed Item} {item : Item}
    (found : feed.next = some (item, later)) : later.arrived = feed.arrived := by
  simp only [next, Option.map_eq_some_iff, Prod.mk.injEq] at found
  obtain ⟨_, _, _, rfl⟩ := found
  rfl

end Feed

def Taking.bytes? : Taking → Option Bytes
  | chunk bytes => some bytes
  | _ => none

def Answer.chunks : Answer → List Bytes
  | taking found => found.bytes?.toList
  | takings found => found.filterMap Taking.bytes?
  | _ => []

namespace Inbox

/-- What is said behind the last chunk that is queued. -/
def ending (inbox : Inbox) : Taking := if inbox.attached then .empty else .disconnected

theorem bytes_ending (inbox : Inbox) : inbox.ending.bytes? = none := by
  unfold ending
  split <;> rfl

structure Drawn (use : InboxUse) (answer : Answer) (before after : Inbox) : Prop where
  arrived : after.feed.arrived = before.feed.arrived
  received : after.feed.received = before.feed.received ++ answer.chunks
  fair : before.feed.Fair → after.feed.Fair
  held : after.held = (before.held && decide (use ≠ .discard))
  attached : after.attached = (before.attached && decide (¬(before.held = true ∧ use = .discard)))

theorem drawn_take (inbox : Inbox) (held : inbox.held = true) :
    Drawn .receive (.taking inbox.take.1) inbox inbox.take.2 := by
  cases found : inbox.feed.next with
  | none =>
      have nothing := inbox.bytes_ending
      unfold ending at nothing
      simp only [take, found]
      exact ⟨rfl, by simp [Answer.chunks, nothing], id, by simp, by simp⟩
  | some next =>
      obtain ⟨chunk, feed⟩ := next
      simp only [take, found]
      exact ⟨Feed.arrived_of_next found, (Feed.next_some found).2, fun _ => Feed.fair_of_next found,
        by simp [held], by simp⟩

theorem chunks_take_all (inbox : Inbox) :
    (Answer.takings inbox.takeAll.1).chunks = inbox.feed.queued := by
  have nothing : [inbox.ending].filterMap Taking.bytes? = [] := by
    rw [List.filterMap_cons_none inbox.bytes_ending, List.filterMap_nil]
  have chunks : (inbox.feed.queued.map Taking.chunk).filterMap Taking.bytes? =
      inbox.feed.queued := by
    rw [List.filterMap_map]
    exact List.filterMap_some
  show (inbox.feed.queued.map Taking.chunk ++ [inbox.ending]).filterMap Taking.bytes? = _
  rw [List.filterMap_append, chunks, nothing, List.append_nil]

theorem drawn_take_all (inbox : Inbox) (held : inbox.held = true) :
    Drawn .drain (.takings inbox.takeAll.1) inbox inbox.takeAll.2 where
  arrived := rfl
  received := by
    rw [chunks_take_all]
    exact inbox.feed.received_emptied
  fair _ := Nat.le_refl _
  held := by simp [takeAll, held]
  attached := by simp [takeAll]

theorem drawn_discard (inbox : Inbox) (held : inbox.held = true) :
    Drawn .discard (.receipt .done) inbox inbox.discard :=
  ⟨rfl, by simp [Answer.chunks, discard], id, by simp [discard], by simp [discard, held]⟩

theorem drawn_count (inbox : Inbox) :
    Drawn .count (.count inbox.feed.queued.length) inbox inbox :=
  ⟨rfl, by simp [Answer.chunks], id, by simp, by simp⟩

theorem drawn_gone (inbox : Inbox) (use : InboxUse) (gone : inbox.held = false) :
    Drawn use .gone inbox inbox :=
  ⟨rfl, by simp [Answer.chunks], id, by simp [gone], by simp [gone]⟩

end Inbox

namespace Exchange

theorem drawn_of_use_inbox {exchange : Exchange} {number : Nat} {inbox : Inbox}
    (found : exchange.inboxes[number]? = some inbox) (use : InboxUse) :
    ∃ after, (exchange.useInbox number use).2.inboxes = exchange.inboxes.set number after ∧
      inbox.Drawn use (exchange.useInbox number use).1 after := by
  have same : exchange.inboxes.set number inbox = exchange.inboxes := by
    obtain ⟨bound, here⟩ := List.getElem?_eq_some_iff.mp found
    rw [← here, List.set_getElem_self bound]
  cases held : inbox.held with
  | false =>
      simp only [useInbox, found, held]
      exact ⟨inbox, same.symm, inbox.drawn_gone use held⟩
  | true =>
      cases use with
      | receive =>
          simp only [useInbox, found, held]
          exact ⟨_, rfl, inbox.drawn_take held⟩
      | drain =>
          simp only [useInbox, found, held]
          exact ⟨_, rfl, inbox.drawn_take_all held⟩
      | count =>
          simp only [useInbox, found, held]
          exact ⟨inbox, same.symm, inbox.drawn_count⟩
      | discard =>
          simp only [useInbox, found, held]
          exact ⟨_, rfl, inbox.drawn_discard held⟩

section Answers

variable {exchange : Exchange} {number : Nat} {inbox : Inbox}

theorem receive_eq (found : exchange.inboxes[number]? = some inbox) (held : inbox.held = true) :
    (exchange.useInbox number .receive).1 =
      .taking (inbox.feed.queued.head?.elim inbox.ending .chunk) := by
  have first : inbox.take.1 = inbox.feed.queued.head?.elim inbox.ending .chunk := by
    rw [Feed.queued, List.head?_drop, Inbox.take, Feed.next]
    cases inbox.feed.arrived[inbox.feed.taken]? <;> rfl
  simp [useInbox, found, held, first]

theorem drain_eq (found : exchange.inboxes[number]? = some inbox) (held : inbox.held = true) :
    (exchange.useInbox number .drain).1 =
      .takings (inbox.feed.queued.map .chunk ++ [inbox.ending]) := by
  simp [useInbox, found, held, Inbox.takeAll, Inbox.ending]

end Answers

theorem use_inbox_of_missing {exchange : Exchange} {number : Nat}
    (missing : exchange.inboxes[number]? = none) (use : InboxUse) :
    exchange.useInbox number use = (.gone, exchange) := by
  simp only [useInbox, missing]

/-! ## What a holder leaves as it is -/

theorem use_inbox_eq (exchange : Exchange) (number : Nat) (use : InboxUse) :
    ∃ inboxes, (exchange.useInbox number use).2 = { exchange with inboxes } := by
  unfold useInbox
  split
  · exact ⟨_, rfl⟩
  · split
    · exact ⟨_, rfl⟩
    · cases use <;> exact ⟨_, rfl⟩

theorem take_log_eq (exchange : Exchange) (tap : Nat) :
    ∃ taps, (exchange.takeLog tap).2 = { exchange with taps } := by
  unfold takeLog
  split <;> exact ⟨_, rfl⟩

theorem collect_eq {exchange after : Exchange} {ticket : Nat} {outcome : Option Outcome}
    (collected : exchange.collect ticket = (outcome, after)) :
    ∃ tickets, after = { exchange with tickets } := by
  unfold collect at collected
  split at collected <;> (cases collected; exact ⟨_, rfl⟩)

end Exchange

namespace Desk

variable {desk later : Desk} {step : Holding} {answer : Answer}

theorem closed_of_handles (handles : Handles desk step answer later) :
    later.exchange.closed = desk.exchange.closed := by
  cases handles with
  | peek _ _ _ _ _ _ collected | wait _ _ _ _ collected | join _ _ _ _ _ collected =>
      obtain ⟨_, rfl⟩ := Exchange.collect_eq collected
      rfl
  | inbox number use =>
      obtain ⟨_, same⟩ := Exchange.use_inbox_eq desk.exchange number use
      exact (congrArg Exchange.closed same :)
  | takeLog tap =>
      obtain ⟨_, same⟩ := Exchange.take_log_eq desk.exchange tap
      exact (congrArg Exchange.closed same :)
  | _ => rfl

theorem inboxes_of_handles (handles : Handles desk step answer later)
    (others : ∀ number use, step ≠ .inbox number use) :
    later.exchange.inboxes = desk.exchange.inboxes := by
  cases handles with
  | peek _ _ _ _ _ _ collected | wait _ _ _ _ collected | join _ _ _ _ _ collected =>
      obtain ⟨_, rfl⟩ := Exchange.collect_eq collected
      rfl
  | inbox number use => exact (others number use rfl).elim
  | takeLog tap =>
      obtain ⟨_, same⟩ := Exchange.take_log_eq desk.exchange tap
      exact (congrArg Exchange.inboxes same :)
  | _ => rfl

/-- An inbox after a step of the holder: drawn from, if the step is about it, or as it was. -/
theorem drawn_of_handles (handles : Handles desk step answer later) {number : Nat} {inbox : Inbox}
    (found : desk.exchange.inboxes[number]? = some inbox) :
    ∃ after, later.exchange.inboxes[number]? = some after ∧
      ((∃ use, step = .inbox number use ∧ inbox.Drawn use answer after) ∨
        (∀ use, step ≠ .inbox number use) ∧ after = inbox) := by
  by_cases about : ∃ used use, step = .inbox used use
  · obtain ⟨used, use, rfl⟩ := about
    cases handles with
    | early _ _ looks => cases looks
    | inbox =>
        by_cases same : used = number
        · subst same
          obtain ⟨after, inboxes, drawn⟩ := Exchange.drawn_of_use_inbox found use
          have bound := (List.getElem?_eq_some_iff.mp found).1
          exact ⟨after, by rw [inboxes, List.getElem?_set_self bound], .inl ⟨use, rfl, drawn⟩⟩
        · refine ⟨inbox, ?_, .inr ⟨fun _ impossible => same (by cases impossible; rfl), rfl⟩⟩
          cases other : desk.exchange.inboxes[used]? with
          | none => rw [Exchange.use_inbox_of_missing other, found]
          | some _ =>
              obtain ⟨after, inboxes, _⟩ := Exchange.drawn_of_use_inbox other use
              rw [inboxes, List.getElem?_set_ne same, found]
  · have others : ∀ used use, step ≠ .inbox used use :=
      fun used use same => about ⟨used, use, same⟩
    refine ⟨inbox, ?_, .inr ⟨others number, rfl⟩⟩
    rw [inboxes_of_handles handles others, found]

theorem length_inboxes_of_handles (handles : Handles desk step answer later) :
    later.exchange.inboxes.length = desk.exchange.inboxes.length := by
  by_cases about : ∃ number use, step = .inbox number use
  · obtain ⟨number, use, rfl⟩ := about
    cases handles with
    | early _ _ looks => cases looks
    | inbox =>
        cases found : desk.exchange.inboxes[number]? with
        | none => rw [Exchange.use_inbox_of_missing found]
        | some inbox =>
            obtain ⟨after, inboxes, _⟩ := Exchange.drawn_of_use_inbox found use
            rw [inboxes, List.length_set]
  · rw [inboxes_of_handles handles fun number use same => about ⟨number, use, same⟩]

end Desk

end WatchLink
