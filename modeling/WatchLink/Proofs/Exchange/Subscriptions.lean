import Mathlib.Data.List.TakeWhile
import WatchLink.Proofs.Exchange.Acts
import WatchLink.Proofs.Exchange.Inboxes
import WatchLink.Proofs.Exchange.Record

/-!
# What reaches an inbox

What an inbox was given by its exchange, and what its holder has taken from it, can be read off what
was done since it was opened: `Supplied`. `Inbox.Meets` says what one act does to one inbox.
-/

namespace WatchLink

set_option autoImplicit false

namespace Exchange

namespace Entry

/-- Nothing reaches an inbox from here on. -/
def closes (entry : Entry) : Bool :=
  match entry.act, entry.answer with
  | .step (.operation .closeInboxes), .receipt _ | .step .giveUp, .receipt _ => true
  | _, _ => false

def Opens (number : Nat) (entry : Entry) : Prop :=
  entry.act = .step (.operation .subscribe) ∧ entry.answer = .receipt (.number number)

def discards (number : Nat) (entry : Entry) : Bool :=
  entry.act = .step (.hold (.inbox number .discard))

def hands (number : Nat) (entry : Entry) : List Bytes :=
  match entry.act with
  | .step (.hold (.inbox used _)) => if used = number then entry.answer.chunks else []
  | _ => []

def spares (number : Nat) (entry : Entry) : Bool := !entry.closes && !entry.discards number

end Entry

/-- The chunks that were dispatched while an inbox was open: after it was opened, and before the
inboxes were closed for the first time or its holder threw it away. -/
def supply (number : Nat) (front back : List Deed) : List Bytes :=
  if front.any fun deed => deed.closes then []
  else dispatchesIn (back.takeWhile fun deed => deed.spares number)

def stillOpen (number : Nat) (front back : List Deed) : Bool :=
  (!front.any fun deed => deed.closes) && back.all fun deed => deed.spares number

def endingOf (number : Nat) (front back : List Deed) : Taking :=
  if stillOpen number front back then .empty else .disconnected

/-- What has become of an inbox that was opened between `front` and `back`. -/
structure Supplied (number : Nat) (front back : List Deed) (exchange : Exchange) (inbox : Inbox) :
    Prop where
  found : exchange.inboxes[number]? = some inbox
  /-- What was taken, and then what is queued. -/
  chunks : back.flatMap (fun deed => deed.hands number) ++ inbox.feed.queued =
    supply number front back
  held : inbox.held = back.all fun deed => !deed.discards number
  receives : inbox.held = true → (exchange.useInbox number .receive).1 =
    .taking (inbox.feed.queued.head?.elim (endingOf number front back) .chunk)
  drains : inbox.held = true → (exchange.useInbox number .drain).1 =
    .takings (inbox.feed.queued.map .chunk ++ [endingOf number front back])

/-! ## One act -/

structure Meets (number : Nat) (entry : Entry) (before after : Inbox) : Prop where
  arrived : after.feed.arrived =
    before.feed.arrived ++ if before.attached then entry.dispatches?.toList else []
  received : after.feed.received = before.feed.received ++ entry.hands number
  fair : after.feed.Fair
  attached : after.attached = (before.attached && entry.spares number)
  held : after.held = (before.held && !entry.discards number)

section Act

variable {run : Run} {number : Nat} {inbox : Inbox}

theorem meets_of_idle {entry : Entry} (fair : inbox.feed.Fair)
    (undispatched : entry.dispatches? = none) (unclosed : entry.closes = false)
    (kept : entry.discards number = false) (untaken : entry.hands number = []) :
    Meets number entry inbox inbox :=
  ⟨by simp [undispatched], by simp [untaken], fair, by simp [Entry.spares, unclosed, kept],
    by simp [kept]⟩

theorem meets_of_operation (fair : inbox.feed.Fair)
    (found : run.desk.exchange.inboxes[number]? = some inbox) (operation : Operation) :
    ∃ after, (run.desk.exchange.beginning operation).2.inboxes[number]? = some after ∧
      Meets number ⟨run, .step (.operation operation),
        .receipt (run.desk.exchange.beginning operation).1⟩ inbox after := by
  cases operation with
  | dispatch chunk =>
      refine ⟨inbox.accept chunk, ?_, ?_⟩
      · simp [beginning, publish, answer, found]
      · cases attached : inbox.attached with
        | true =>
            have taken : inbox.accept chunk = { inbox with feed := inbox.feed.push chunk } :=
              if_pos attached
            rw [taken]
            exact ⟨by simp [attached, Feed.push, Entry.dispatches?],
              by simp [Feed.received_push fair, Entry.hands], fair.push chunk,
              by simp [Entry.spares, Entry.closes, Entry.discards], by simp [Entry.discards]⟩
        | false =>
            have same : inbox.accept chunk = inbox := by simp [Inbox.accept, attached]
            rw [same]
            exact ⟨by simp [attached], by simp [Entry.hands], fair, by simp [attached],
              by simp [Entry.discards]⟩
  | closeInboxes =>
      refine ⟨inbox.detach, by simp [beginning, closeInboxes, found], ?_⟩
      exact ⟨by simp [Inbox.detach, Entry.dispatches?], by simp [Inbox.detach, Entry.hands], fair,
        by simp [Inbox.detach, Entry.spares, Entry.closes],
        by simp [Inbox.detach, Entry.discards]⟩
  | subscribe =>
      have bound := (List.getElem?_eq_some_iff.mp found).1
      refine ⟨inbox, ?_, meets_of_idle fair rfl rfl rfl rfl⟩
      rw [← found]
      exact List.getElem?_append_left bound
  | register =>
      refine ⟨inbox, ?_, meets_of_idle fair rfl rfl rfl rfl⟩
      cases registered : run.desk.exchange.register with
      | ok made => simp [beginning, registered, (register_ok registered).2.2, found]
      | error cause => simp [beginning, registered, found]
  | release | failPending | inspect =>
      exact ⟨inbox, by simp [beginning, release, failPending, found],
        meets_of_idle fair rfl rfl rfl rfl⟩

theorem meets_of_hold (fair : inbox.feed.Fair)
    (dead : inbox.held = false → inbox.attached = false)
    (found : run.desk.exchange.inboxes[number]? = some inbox) (step : Holding) :
    ∃ after, (run.desk.hold step).2.exchange.inboxes[number]? = some after ∧
      Meets number ⟨run, .step (.hold step), (run.desk.hold step).1⟩ inbox after := by
  obtain ⟨after, later, drawn⟩ :=
    Desk.drawn_of_handles (Desk.handles_of_hold run.desk step) found
  refine ⟨after, later, ?_⟩
  rcases drawn with ⟨use, rfl, drawn⟩ | ⟨others, rfl⟩
  · refine ⟨by simp [drawn.arrived, Entry.dispatches?], by simp [drawn.received, Entry.hands],
      drawn.fair fair, ?_, by simp [drawn.held, Entry.discards]⟩
    cases held : inbox.held with
    | true => simp [drawn.attached, held, Entry.spares, Entry.closes, Entry.discards]
    | false => simp [drawn.attached, held, dead held]
  · refine meets_of_idle fair rfl rfl ?_ ?_
    · simp [Entry.discards, others]
    · cases step with
      | inbox used use =>
          have different : used ≠ number := by
            rintro rfl
            exact others use rfl
          simp [Entry.hands, different]
      | _ => rfl

theorem meets_of_act (fair : inbox.feed.Fair) (dead : inbox.held = false → inbox.attached = false)
    (found : run.desk.exchange.inboxes[number]? = some inbox) (act : Act) :
    ∃ after, (run.act act).2.desk.exchange.inboxes[number]? = some after ∧
      Meets number ⟨run, act, (run.act act).1⟩ inbox after := by
  refine Run.act_cases (motive := fun act answer later =>
    ∃ after, later.desk.exchange.inboxes[number]? = some after ∧
      Meets number ⟨run, act, answer⟩ inbox after) run ?hold ?gone ?operation ?tap ?giveUp ?note act
  case hold => exact meets_of_hold fair dead found
  case operation => exact fun operation _ => meets_of_operation fair found operation
  case tap => exact fun _ _ => ⟨inbox, found, meets_of_idle fair rfl rfl rfl rfl⟩
  case note => exact fun _ _ _ => ⟨inbox, found, meets_of_idle fair rfl rfl rfl rfl⟩
  case gone =>
    intro act _ others
    refine ⟨inbox, found, meets_of_idle fair ?_ ?_ ?_ ?_⟩
    · simp [Entry.dispatches?]
    · simp [Entry.closes]
    · simp [Entry.discards, others]
    · unfold Entry.hands
      split
      next used _ same => exact (others _ same).elim
      next => rfl
  case giveUp =>
    intro _
    refine ⟨inbox.detach, ?_, ?_⟩
    · simp [Run.setExchange, abandon, closeInboxes, release, found]
    · exact ⟨by simp [Inbox.detach, Entry.dispatches?], by simp [Inbox.detach, Entry.hands], fair,
        by simp [Inbox.detach, Entry.spares, Entry.closes],
        by simp [Inbox.detach, Entry.discards]⟩

end Act

/-! ## All acts -/

section Supply

variable {number : Nat} {front back : List Deed} {last : Deed} {exchange : Exchange}
  {inbox : Inbox}

theorem spares_of_dispatches {entry : Entry} {chunk : Bytes}
    (dispatches : entry.dispatches? = some chunk) (number : Nat) : entry.spares number = true := by
  unfold Entry.dispatches? at dispatches
  split at dispatches
  next act _ => simp [Entry.spares, Entry.closes, Entry.discards, act]
  next => cases dispatches

theorem dispatches_in_append (front back : List Deed) :
    dispatchesIn (front ++ back) = dispatchesIn front ++ dispatchesIn back :=
  List.filterMap_append

theorem dispatches_in_singleton (deed : Deed) : dispatchesIn [deed] = deed.dispatches?.toList := by
  simp [dispatchesIn, List.filterMap_eq_flatMap_toList]

theorem supply_snoc (number : Nat) (front back : List Deed) (last : Deed) :
    supply number front (back ++ [last]) =
      supply number front back ++
        if stillOpen number front back then last.dispatches?.toList else [] := by
  unfold supply stillOpen
  cases closed : front.any fun deed => deed.closes with
  | true => rfl
  | false =>
      cases kept : back.all fun deed => deed.spares number with
      | true =>
          have all : ∀ deed ∈ back, deed.spares number = true := List.all_eq_true.mp kept
          have whole : (back.takeWhile fun deed => deed.spares number) = back :=
            List.takeWhile_eq_self_iff.mpr all
          rw [List.takeWhile_append_of_pos all, whole, dispatches_in_append]
          cases dispatches : last.dispatches? with
          | some chunk =>
              have spares : last.spares number = true := spares_of_dispatches dispatches number
              simp [spares, dispatches_in_singleton, dispatches]
          | none =>
              cases spares : last.spares number with
              | true => simp [spares, dispatches_in_singleton, dispatches]
              | false => simp [spares, dispatchesIn]
      | false =>
          have shorter : (back.takeWhile fun deed => deed.spares number).length ≠ back.length := by
            intro same
            have whole := List.IsPrefix.eq_of_length (List.takeWhile_prefix _) same
            rw [List.all_eq_true.mpr (List.takeWhile_eq_self_iff.mp whole)] at kept
            cases kept
          simp [List.takeWhile_append, shorter]

/-- The invariant behind `Supplied`. -/
structure Served (number : Nat) (front back : List Deed) (exchange : Exchange) (inbox : Inbox) :
    Prop where
  found : exchange.inboxes[number]? = some inbox
  arrived : inbox.feed.arrived = supply number front back
  received : inbox.feed.received = back.flatMap fun deed => deed.hands number
  fair : inbox.feed.Fair
  attached : inbox.attached = stillOpen number front back
  held : inbox.held = back.all fun deed => !deed.discards number

theorem detached_of_unheld (served : Served number front back exchange inbox)
    (unheld : inbox.held = false) : inbox.attached = false := by
  rw [served.held] at unheld
  obtain ⟨deed, member, discards⟩ := List.all_eq_false.mp unheld
  have lost : (back.all fun deed => deed.spares number) = false :=
    List.all_eq_false.mpr ⟨deed, member, by simp_all [Entry.spares]⟩
  rw [served.attached, stillOpen, lost, Bool.and_false]

theorem supplied_of_served (served : Served number front back exchange inbox) :
    Supplied number front back exchange inbox := by
  have ending : inbox.ending = endingOf number front back := by
    rw [Inbox.ending, served.attached, endingOf]
  refine ⟨served.found, ?_, served.held, ?_, ?_⟩
  · rw [← served.received, Feed.received_append_queued, served.arrived]
  · intro held
    rw [receive_eq served.found held, ending]
  · intro held
    rw [drain_eq served.found held, ending]

theorem served_of_meets (served : Served number front back exchange inbox) {after : Inbox}
    {later : Exchange} (found : later.inboxes[number]? = some after)
    (meets : Meets number last.toEntry inbox after) :
    Served number front (back ++ [last]) later after where
  found := found
  arrived := by rw [meets.arrived, served.arrived, served.attached, supply_snoc]
  received := by rw [meets.received, served.received]; simp
  fair := meets.fair
  attached := by rw [meets.attached, served.attached]; simp [stillOpen, Bool.and_assoc]
  held := by rw [meets.held, served.held]; simp

end Supply

/-- Every inbox has been given what was dispatched while it was open. -/
structure Subscribed (record : Record) : Prop where
  closed : record.exchange.closed = record.deeds.any fun deed => deed.closes
  served : ∀ (number : Nat) (front : List Deed) (opening : Deed) (back : List Deed),
    record.deeds = front ++ opening :: back → opening.Opens number →
    ∃ inbox, Served number front back record.exchange inbox

theorem closed_beginning (operation : Operation) (exchange : Exchange) :
    (exchange.beginning operation).2.closed =
      (exchange.closed || decide (operation = .closeInboxes)) := by
  cases operation with
  | register =>
      cases registered : exchange.register with
      | ok made => simp [beginning, registered, (register_ok registered).2.2]
      | error cause => simp [beginning, registered]
  | release | failPending | dispatch =>
      simp [beginning, release, failPending, publish, answer]
  | closeInboxes => simp [beginning, closeInboxes]
  | inspect | subscribe => simp [beginning, subscribe]

theorem closed_of_act (run : Run) (act : Act) :
    (run.act act).2.desk.exchange.closed =
      (run.desk.exchange.closed || Entry.closes ⟨run, act, (run.act act).1⟩) := by
  refine Run.act_cases (motive := fun act answer later => later.desk.exchange.closed =
    (run.desk.exchange.closed || Entry.closes ⟨run, act, answer⟩)) run
      ?hold ?gone ?operation ?tap ?giveUp ?note act
  case hold =>
    intro step
    simpa [Entry.closes] using Desk.closed_of_handles (Desk.handles_of_hold run.desk step)
  case operation =>
    intro operation _
    rw [Run.setExchange, closed_beginning]
    cases operation <;> simp [Entry.closes]
  case gone | tap | giveUp | note =>
    intros
    simp [Run.setExchange, tap, abandon, closeInboxes, note, Entry.closes]

theorem opened_of_act {run : Run} {act : Act} {number : Nat}
    (opens : Entry.Opens number ⟨run, act, (run.act act).1⟩) :
    (run.act act).2.desk.exchange.inboxes[number]? =
      some { attached := !run.desk.exchange.closed } := by
  obtain ⟨rfl, answered⟩ := opens
  cases present : run.givenUp with
  | true => simp [Run.act, Run.begin, present] at answered
  | false =>
      simp only [Run.act, Run.begin, present, beginning, subscribe] at answered ⊢
      cases answered
      exact List.getElem?_concat_length

section Record

variable {record : Record}

theorem subscribed_make (subscribed : Subscribed record) (cause : Option Nat) (act : Act) :
    Subscribed (record.make cause act) where
  closed := by
    rw [Record.make, List.any_append, List.any_cons, List.any_nil, Bool.or_false,
      ← subscribed.closed]
    exact closed_of_act record.run act
  served number front opening back split opens := by
    rcases split_snoc split with ⟨earlier, rfl, before⟩ | ⟨rfl, rfl, rfl⟩
    · obtain ⟨inbox, served⟩ := subscribed.served number front opening earlier before opens
      obtain ⟨after, found, meets⟩ :=
        meets_of_act served.fair (detached_of_unheld served) served.found act
      exact ⟨after, served_of_meets served found meets⟩
    · refine ⟨_, opened_of_act opens, ?_, by simp [Feed.received], Nat.zero_le _, ?_, rfl⟩
      · simp [supply, dispatchesIn]
      · show (!record.exchange.closed) = _
        simp [subscribed.closed, stillOpen]

theorem subscribed_start (revision : Revision) : Subscribed (.start revision) where
  closed := rfl
  served number front opening back split := by simp [Record.start] at split

end Record

end Exchange

end WatchLink
