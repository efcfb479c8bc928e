import WatchLink.Proofs.Exchange.Handling
import WatchLink.Proofs.Traffic.Changes

/-!
# One caller and one server

A caller that is alone on a link claims a response for each of its actions, and the server answers
each action that reaches it with one chunk. A turn is one indivisible change by the caller, the
worker, the server or the network. The caller makes one call after another; between calls it looks
at the tickets it holds, passes them to threads that wait, or throws them away. A request is a call
that acts, followed by a wait.

`asked`, `replies`, `heard` and `told` are the history of the dialogue: nothing in a turn depends on
`heard` or `told`, and the server counts the actions that reached it in `asked`.
-/

namespace WatchLink

set_option autoImplicit false

structure Dialogue where
  link : Link
  task : Task := .finished .done
  waiters : List (Option Nat) := []
  /-- What the server has written and the worker has not read. -/
  stream : Bytes := []
  /-- The tickets of the actions that were written, in order. -/
  asked : List Nat := []
  /-- The chunks that the server has written, in order. -/
  replies : List Bytes := []
  /-- What the worker has read, read by read. -/
  heard : List Bytes := []
  /-- What somebody who looked at a ticket found there, in order. -/
  told : List (Nat × Outcome) := []

inductive Turn where
  | begin (call : Call)
  | advance (host : Host)
  | hold (step : Holding)
  | work
  /-- The server answers an action. What it writes at once arrives at once. -/
  | reply (chunk : Bytes)
  /-- The worker reads what has arrived, as much as its buffer takes. -/
  | read
  /-- The network does something other than deliver bytes. -/
  | arrive (arrival : Arrival)
  deriving DecidableEq, Repr

/-- The calls of somebody who claims a response for every action, and does not close the link. -/
def Call.claims : Call → Bool
  | send _ | close => false
  | _ => true

def Task.asks : Task → Task → Option Nat
  | writing _ _, finished (.number ticket) => some ticket
  | _, _ => none

namespace Dialogue

def desk (dialogue : Dialogue) : Desk :=
  { exchange := dialogue.link.exchange, waiters := dialogue.waiters }

/-- What is found by a look, unless it comes too early. -/
def finds (dialogue : Dialogue) (step : Holding) : Option (Nat × Outcome) :=
  (dialogue.desk.looksAt step).bind fun ticket =>
    match (dialogue.desk.hold step).1 with
    | .outcome (.error .timedOut) => none
    | .outcome outcome => some (ticket, outcome)
    | _ => none

def turn (dialogue : Dialogue) : Turn → Option Dialogue
  | .begin call =>
      if dialogue.task.receipt?.isSome ∧ call.claims then
        some { dialogue with task := call.begin }
      else none
  | .advance host =>
      (dialogue.task.advance host dialogue.link).map fun (task, link) =>
        { dialogue with task, link, asked := dialogue.asked ++ (dialogue.task.asks task).toList }
  | .hold step =>
      if dialogue.task.receipt?.isSome then
        let later := (dialogue.desk.hold step).2
        some { dialogue with
          link := { dialogue.link with exchange := later.exchange }
          waiters := later.waiters
          told := dialogue.told ++ (dialogue.finds step).toList }
      else none
  | .work => dialogue.link.work.map fun link => { dialogue with link }
  | .reply chunk =>
      if chunk ≠ [] ∧ chunk.length ≤ dialogue.link.settings.readBufferSize ∧
          dialogue.replies.length < dialogue.asked.length then
        some { dialogue with
          stream := dialogue.stream ++ chunk
          replies := dialogue.replies ++ [chunk] }
      else none
  | .read =>
      let chunk := dialogue.stream.take dialogue.link.settings.readBufferSize
      (dialogue.link.hear (.chunk chunk)).map fun link => { dialogue with
        link
        stream := dialogue.stream.drop dialogue.link.settings.readBufferSize
        heard := dialogue.heard ++ [chunk] }
  | .arrive (.chunk _) => none
  | .arrive arrival => (dialogue.link.hear arrival).map fun link => { dialogue with link }

def turns (dialogue : Dialogue) : List Turn → Option Dialogue
  | [] => some dialogue
  | turn :: later => (dialogue.turn turn).bind fun after => after.turns later

def tidings (dialogue : Dialogue) (ticket : Nat) : List Outcome :=
  dialogue.told.filterMap fun (found, outcome) => if found = ticket then some outcome else none

/-! ## What one turn can be -/

inductive Turns (dialogue : Dialogue) : Turn → Dialogue → Prop where
  | begin (call : Call) (claims : call.claims = true)
      (idle : dialogue.task.receipt?.isSome = true) :
      Turns dialogue (.begin call) { dialogue with task := call.begin }
  | advance (host : Host) (next : Task) (link : Link)
      (change : Task.Changes host dialogue.link dialogue.task next link) :
      Turns dialogue (.advance host)
        { dialogue with
          task := next, link, asked := dialogue.asked ++ (dialogue.task.asks next).toList }
  | hold (step : Holding) (answer : Answer) (desk : Desk)
      (idle : dialogue.task.receipt?.isSome = true)
      (handles : Desk.Handles dialogue.desk step answer desk)
      (held : dialogue.desk.hold step = (answer, desk)) :
      Turns dialogue (.hold step)
        { dialogue with
          link := { dialogue.link with exchange := desk.exchange }
          waiters := desk.waiters
          told := dialogue.told ++ (dialogue.finds step).toList }
  | work (link : Link) (change : Link.Works dialogue.link none link) :
      Turns dialogue .work { dialogue with link }
  | reply (chunk : Bytes) (nonempty : chunk ≠ [])
      (fits : chunk.length ≤ dialogue.link.settings.readBufferSize)
      (due : dialogue.replies.length < dialogue.asked.length) :
      Turns dialogue (.reply chunk)
        { dialogue with
          stream := dialogue.stream ++ chunk, replies := dialogue.replies ++ [chunk] }
  | read (chunk : Bytes)
      (taken : chunk = dialogue.stream.take dialogue.link.settings.readBufferSize)
      (nonempty : chunk ≠ []) (reading : dialogue.link.worker = .reading) :
      Turns dialogue .read
        { dialogue with
          link := { dialogue.link.mapExchange (Exchange.answer chunk) with
            worker := .publishingChunk chunk }
          stream := dialogue.stream.drop dialogue.link.settings.readBufferSize
          heard := dialogue.heard ++ [chunk] }
  | arrive (arrival : Arrival) (link : Link) (silent : ∀ bytes, arrival ≠ .chunk bytes)
      (change : Link.Works dialogue.link (some arrival) link) :
      Turns dialogue (.arrive arrival) { dialogue with link }

theorem turns_of_turn {dialogue later : Dialogue} {turn : Turn}
    (took : dialogue.turn turn = some later) : Turns dialogue turn later := by
  cases turn with
  | begin call =>
      simp only [Dialogue.turn] at took
      split at took
      next both =>
        cases took
        exact .begin call both.2 both.1
      next => cases took
  | advance host =>
      simp only [Dialogue.turn, Option.map_eq_some_iff] at took
      obtain ⟨⟨next, link⟩, advanced, same⟩ := took
      cases same
      exact .advance host next link (Task.changes_of_advance advanced)
  | hold step =>
      simp only [Dialogue.turn] at took
      split at took
      next idle =>
        cases took
        exact .hold step _ _ idle (Desk.handles_of_hold _ step) rfl
      next => cases took
  | work =>
      simp only [Dialogue.turn, Option.map_eq_some_iff] at took
      obtain ⟨link, worked, same⟩ := took
      cases same
      exact .work link (Link.works_of_work worked)
  | reply chunk =>
      simp only [Dialogue.turn] at took
      split at took
      next terms =>
        cases took
        exact .reply chunk terms.1 terms.2.1 terms.2.2
      next => cases took
  | read =>
      simp only [Dialogue.turn, Option.map_eq_some_iff] at took
      obtain ⟨link, heard, same⟩ := took
      cases same
      cases Link.works_of_hear heard with
      | answer place _ nonempty => exact .read _ rfl nonempty place
      | lose _ _ ends => rcases ends with impossible | ⟨_, impossible⟩ <;> cases impossible
  | arrive arrival =>
      cases arrival with
      | chunk bytes => cases took
      | _ =>
          simp only [Dialogue.turn, Option.map_eq_some_iff] at took
          obtain ⟨link, heard, same⟩ := took
          cases same
          exact .arrive _ link (by simp) (Link.works_of_hear heard)

theorem turns_append (dialogue : Dialogue) (front back : List Turn) :
    dialogue.turns (front ++ back) =
      (dialogue.turns front).bind fun after => after.turns back := by
  induction front generalizing dialogue with
  | nil => rfl
  | cons turn rest ih => cases took : dialogue.turn turn <;> simp [turns, took, ih]

/-- Whatever every turn keeps, every dialogue keeps. -/
theorem turns_induction (keeps : Dialogue → Prop)
    (step : ∀ {dialogue later : Dialogue} {turn : Turn}, keeps dialogue →
      Turns dialogue turn later → keeps later)
    {dialogue last : Dialogue} {run : List Turn} (ran : dialogue.turns run = some last)
    (held : keeps dialogue) : keeps last := by
  induction run generalizing dialogue with
  | nil =>
      cases ran
      exact held
  | cons turn rest ih =>
      simp only [turns, Option.bind_eq_some_iff] at ran
      obtain ⟨after, took, finished⟩ := ran
      exact ih finished (step held (turns_of_turn took))

end Dialogue

end WatchLink
