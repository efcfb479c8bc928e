import WatchLink.Proofs.Exchange.Acts
import WatchLink.Proofs.Exchange.Inboxes
import WatchLink.Proofs.Exchange.Record

/-!
# The taps and their logs

Nothing but a note writes into the log of a tap, nothing but its holder reads from it, and a tap
stays where it was set. `Logs` says what one act does to one log, `Kept` what follows for a record.
-/

namespace WatchLink

set_option autoImplicit false

namespace Exchange

namespace Entry

/-- The line that this act writes into the log of a tap. -/
def note? (index : Nat) (entry : Entry) : Option Note :=
  match entry.act, entry.answer with
  | .note used line, .receipt _ => if used = index then some line else none
  | _, _ => none

def reads (index : Nat) (entry : Entry) : List Note :=
  match entry.act, entry.answer with
  | .step (.hold (.takeLog used)), .log lines => if used = index then lines else []
  | _, _ => []

def Sets (index : Nat) (entry : Entry) : Prop :=
  (∃ reaction, entry.act = .step (.tap reaction)) ∧ entry.answer = .receipt (.number index)

end Entry

theorem taps_of_handles {desk later : Desk} {step : Holding} {answer : Answer}
    (handles : Desk.Handles desk step answer later) (others : ∀ tap, step ≠ .takeLog tap) :
    later.exchange.taps = desk.exchange.taps := by
  cases handles with
  | peek _ _ _ _ _ _ collected | wait _ _ _ _ collected | join _ _ _ _ _ collected =>
      obtain ⟨_, rfl⟩ := collect_eq collected
      rfl
  | inbox number use =>
      obtain ⟨_, same⟩ := use_inbox_eq desk.exchange number use
      exact (congrArg Exchange.taps same :)
  | takeLog tap => exact (others tap rfl).elim
  | _ => rfl

@[simp] theorem taps_conclude (progress : Progress) (exchange : Exchange) :
    (exchange.conclude progress).taps = exchange.taps := by
  unfold conclude
  split <;> rfl

@[simp] theorem taps_beginning (operation : Operation) (exchange : Exchange) :
    (exchange.beginning operation).2.taps = exchange.taps := by
  cases operation with
  | register =>
      cases registered : exchange.register with
      | ok made => simp [beginning, registered, (register_ok registered).2.2]
      | error cause => simp [beginning, registered]
  | release | failPending | dispatch =>
      simp [beginning, release, failPending, publish, answer]
  | closeInboxes | inspect | subscribe => rfl

structure Logs (index : Nat) (entry : Entry) (before after : Tap) : Prop where
  arrived : after.log.arrived = before.log.arrived ++ (entry.note? index).toList
  received : after.log.received = before.log.received ++ entry.reads index
  fair : after.log.Fair

section Act

variable {run : Run} {index : Nat} {tap : Tap}

theorem logs_of_idle {entry : Entry} (fair : tap.log.Fair) (unnoted : entry.note? index = none)
    (unread : entry.reads index = []) : Logs index entry tap tap :=
  ⟨by simp [unnoted], by simp [unread], fair⟩

theorem logs_of_hold (fair : tap.log.Fair) (found : run.desk.exchange.taps[index]? = some tap)
    (step : Holding) :
    ∃ after, (run.desk.hold step).2.exchange.taps[index]? = some after ∧
      Logs index ⟨run, .step (.hold step), (run.desk.hold step).1⟩ tap after := by
  by_cases reads : ∃ used, step = .takeLog used
  · obtain ⟨used, rfl⟩ := reads
    by_cases same : used = index
    · subst same
      have bound := (List.getElem?_eq_some_iff.mp found).1
      refine ⟨{ tap with log := tap.log.emptied }, ?_, ?_⟩
      · simp only [Desk.hold, takeLog, found, List.getElem?_set_self bound]
      · refine ⟨by simp [Feed.emptied, Entry.note?], ?_, Nat.le_refl _⟩
        simp [Feed.received_emptied, Entry.reads, Desk.hold, takeLog, found]
    · refine ⟨tap, ?_, logs_of_idle fair rfl ?_⟩
      · simp only [Desk.hold, takeLog]
        split
        · exact found
        · simp [same, found]
      · simp only [Entry.reads]
        split
        next act _ =>
          cases act
          exact if_neg same
        next => rfl
  · have others : ∀ used, step ≠ .takeLog used := fun used same => reads ⟨used, same⟩
    refine ⟨tap, ?_, logs_of_idle fair rfl ?_⟩
    · rw [taps_of_handles (Desk.handles_of_hold run.desk step) others, found]
    · cases step with
      | takeLog used => exact (others used rfl).elim
      | _ => rfl

theorem logs_of_act (fair : tap.log.Fair) (found : run.desk.exchange.taps[index]? = some tap)
    (act : Act) :
    ∃ after, (run.act act).2.desk.exchange.taps[index]? = some after ∧
      Logs index ⟨run, act, (run.act act).1⟩ tap after := by
  refine Run.act_cases (motive := fun act answer later =>
    ∃ after, later.desk.exchange.taps[index]? = some after ∧
      Logs index ⟨run, act, answer⟩ tap after) run ?hold ?gone ?operation ?tap ?giveUp ?note act
  case hold => exact logs_of_hold fair found
  case gone =>
    intro act _ _
    exact ⟨tap, found, logs_of_idle fair (by simp [Entry.note?]) (by simp [Entry.reads])⟩
  case operation =>
    intro operation _
    exact ⟨tap, by simp [Run.setExchange, found], logs_of_idle fair rfl rfl⟩
  case tap =>
    intro reaction _
    have bound := (List.getElem?_eq_some_iff.mp found).1
    refine ⟨tap, ?_, logs_of_idle fair rfl rfl⟩
    exact (List.getElem?_append_left bound).trans found
  case giveUp =>
    intro _
    refine ⟨tap, ?_, logs_of_idle fair rfl rfl⟩
    simp [Run.setExchange, abandon, closeInboxes, release, found]
  case note =>
    intro used line _
    by_cases same : used = index
    · subst same
      refine ⟨tap.note line, by simp [Run.setExchange, note, found], ?_⟩
      refine ⟨by simp [Tap.note, Feed.push, Entry.note?], ?_, fair.push line⟩
      simp [Tap.note, Feed.received_push fair, Entry.reads]
    · exact ⟨tap, by simp [Run.setExchange, note, same, found],
        logs_of_idle fair (by simp [Entry.note?, same]) rfl⟩

end Act

def Kept (record : Record) : Prop :=
  ∀ (index : Nat) (front : List Deed) (setting : Deed) (back : List Deed),
    record.deeds = front ++ setting :: back → setting.Sets index →
      ∃ tap, record.exchange.taps[index]? = some tap ∧ tap.log.Fair ∧
        tap.log.arrived = (back.filterMap fun deed => deed.note? index) ∧
        tap.log.received = back.flatMap fun deed => deed.reads index

theorem set_of_act {run : Run} {act : Act} {index : Nat}
    (sets : Entry.Sets index ⟨run, act, (run.act act).1⟩) :
    index = run.desk.exchange.taps.length ∧
      ∃ reaction, (run.act act).2.desk.exchange.taps[index]? = some { reaction } := by
  obtain ⟨⟨reaction, rfl⟩, answered⟩ := sets
  cases present : run.givenUp with
  | true => simp [Run.act, Run.begin, present] at answered
  | false =>
      simp only [Run.act, Run.begin, present, tap] at answered ⊢
      cases answered
      exact ⟨rfl, reaction, List.getElem?_concat_length⟩

theorem kept_start (revision : Revision) : Kept (.start revision) := by
  intro index front setting back split
  simp [Record.start] at split

theorem kept_make {record : Record} (kept : Kept record) (cause : Option Nat) (act : Act) :
    Kept (record.make cause act) := by
  intro index front setting back split sets
  rcases split_snoc split with ⟨earlier, rfl, before⟩ | ⟨rfl, rfl, rfl⟩
  · obtain ⟨tap, found, fair, arrived, received⟩ := kept index front setting earlier before sets
    obtain ⟨after, later, logs⟩ : ∃ after, (record.make cause act).exchange.taps[index]? =
        some after ∧ Logs index (record.deed cause act).toEntry tap after :=
      logs_of_act fair found act
    refine ⟨after, later, logs.fair, ?_, ?_⟩
    · rw [logs.arrived, arrived]
      simp [List.filterMap_eq_flatMap_toList]
    · rw [logs.received, received]
      simp
  · obtain ⟨_, reaction, found⟩ := set_of_act sets
    exact ⟨{ reaction }, found, Nat.zero_le _, rfl, by simp [Feed.received]⟩

/-! ## How many taps there are -/

theorem length_taps_of_hold (desk : Desk) (step : Holding) :
    (desk.hold step).2.exchange.taps.length = desk.exchange.taps.length := by
  by_cases reads : ∃ used, step = .takeLog used
  · obtain ⟨used, rfl⟩ := reads
    simp only [Desk.hold, takeLog]
    split
    · rfl
    · exact List.length_set
  · have others : ∀ used, step ≠ .takeLog used := fun used same => reads ⟨used, same⟩
    rw [taps_of_handles (Desk.handles_of_hold desk step) others]

theorem length_taps_of_inner (run : Run) {act : Act} (inner : act.Inner) :
    (run.act act).2.desk.exchange.taps.length = run.desk.exchange.taps.length := by
  cases act with
  | note index line =>
      simp only [Run.act]
      split
      · rfl
      · exact List.length_modify ..
  | step step =>
      cases step with
      | hold step => exact length_taps_of_hold run.desk step
      | operation operation =>
          simp only [Run.act, Run.begin]
          split
          · rfl
          · exact congrArg List.length (taps_beginning operation _)
      | tap | giveUp => exact inner.elim

theorem length_taps_le_act (run : Run) (act : Act) :
    run.desk.exchange.taps.length ≤ (run.act act).2.desk.exchange.taps.length := by
  by_cases inner : act.Inner
  · exact Nat.le_of_eq (length_taps_of_inner run inner).symm
  · cases act with
    | note => exact (inner trivial).elim
    | step step =>
        cases step with
        | hold | operation => exact (inner trivial).elim
        | tap reaction =>
            simp only [Run.act, Run.begin]
            split <;> simp [Run.setExchange, tap]
        | giveUp =>
            simp only [Run.act, Run.begin]
            split <;> simp [Run.setExchange, abandon, closeInboxes, release]

theorem present_of_inner {run : Run} (present : run.givenUp = false) {act : Act}
    (inner : act.Inner) : (run.act act).2.givenUp = false := by
  cases act with
  | note index line => simp [Run.act, present, Run.setExchange]
  | step step =>
      cases step with
      | hold step => exact present
      | operation operation => simp [Run.act, Run.begin, present, Run.setExchange]
      | tap | giveUp => exact inner.elim

end Exchange

end WatchLink
