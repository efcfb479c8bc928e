import WatchLink.Proofs.Dialogue.Turns
import WatchLink.Proofs.Link.Course

/-!
# What becomes of an action

The chunks that the worker reads are those that the server has written, as long as there is at most
one on its way: `Streams`. What an action comes to is then a matter of counting, which is
`Dialogue.outcome?`; and `Fate` relates it to how the ticket of the action stands, and to what was
found by looking at it. A look hands over what is due once: `fate_of_look`.
-/

namespace WatchLink

set_option autoImplicit false

/-- What was outstanding when the transport ended has been rejected. -/
def Worker.rejected : Worker → Bool
  | finishing .closeInboxes _ | signalling _ | ended => true
  | _ => false

theorem Worker.sealed_of_rejected {worker : Worker} (rejected : worker.rejected = true) :
    worker.Sealed := by
  unfold Worker.rejected at rejected
  split at rejected <;> trivial

namespace Dialogue

def outcome? (dialogue : Dialogue) (place : Nat) : Option Outcome :=
  if place < dialogue.heard.length then
    dialogue.replies[place]?.map (Exchange.outcomeOf dialogue.link.revision)
  else if dialogue.link.worker.rejected then some (.error .interrupted)
  else none

/-- How a ticket stands for which nothing or this outcome is due, and of which so much was told. -/
def Fate (progress : Progress) (tidings : List Outcome) : Option Outcome → Prop
  | none => progress = .waiting ∧ tidings = []
  | some outcome =>
      progress = .resolved outcome ∧ tidings = [] ∨
        progress = .spent ∧
          ∃ again, tidings = outcome :: List.replicate again (.error .interrupted)

/-! ## The stream -/

structure Streams (dialogue : Dialogue) : Prop where
  flowing : ∃ rest, dialogue.replies = dialogue.heard ++ rest ∧ dialogue.stream = rest.flatten
  fits : ∀ chunk ∈ dialogue.replies,
    chunk ≠ [] ∧ chunk.length ≤ dialogue.link.settings.readBufferSize
  answered : dialogue.replies.length ≤ dialogue.asked.length
  paced : dialogue.asked.length ≤ dialogue.heard.length + 1

section Streams

variable {dialogue : Dialogue}

theorem single_of_streams (streams : dialogue.Streams) :
    dialogue.replies = dialogue.heard ∧ dialogue.stream = [] ∨
      ∃ chunk, dialogue.replies = dialogue.heard ++ [chunk] ∧ dialogue.stream = chunk ∧
        chunk ≠ [] ∧ chunk.length ≤ dialogue.link.settings.readBufferSize := by
  obtain ⟨rest, replies, stream⟩ := streams.flowing
  have bound : rest.length ≤ 1 := by
    have answered := streams.answered
    have paced := streams.paced
    rw [replies, List.length_append] at answered
    omega
  cases rest with
  | nil => exact .inl ⟨by simpa using replies, by simpa using stream⟩
  | cons chunk others =>
      have alone : others = [] := by simpa using bound
      subst alone
      obtain ⟨nonempty, fits⟩ := streams.fits chunk (by simp [replies])
      exact .inr ⟨chunk, replies, by simpa using stream, nonempty, fits⟩

theorem read_of_streams (streams : dialogue.Streams) {chunk : Bytes}
    (taken : chunk = dialogue.stream.take dialogue.link.settings.readBufferSize)
    (nonempty : chunk ≠ []) :
    dialogue.replies = dialogue.heard ++ [chunk] ∧
      dialogue.stream.drop dialogue.link.settings.readBufferSize = [] ∧
      dialogue.asked.length = dialogue.heard.length + 1 := by
  rcases single_of_streams streams with ⟨_, empty⟩ | ⟨whole, replies, stream, _, fits⟩
  · simp [taken, empty] at nonempty
  · have same : chunk = whole := by rw [taken, stream, List.take_of_length_le fits]
    have answered := streams.answered
    have paced := streams.paced
    rw [replies, List.length_append, List.length_singleton] at answered
    refine ⟨by rw [same, replies], ?_, by omega⟩
    rw [stream, List.drop_eq_nil_of_le fits]

theorem outcome_of_streams (streams : dialogue.Streams) (place : Nat) :
    dialogue.outcome? place =
      match dialogue.heard[place]? with
      | some chunk => some (Exchange.outcomeOf dialogue.link.revision chunk)
      | none => if dialogue.link.worker.rejected then some (.error .interrupted) else none := by
  obtain ⟨rest, replies, _⟩ := streams.flowing
  by_cases heard : place < dialogue.heard.length
  · simp [outcome?, heard, replies, List.getElem?_append_left]
  · simp [outcome?, heard]

theorem outcome_of_heard (streams : dialogue.Streams) {place : Nat}
    (heard : place < dialogue.heard.length) : dialogue.outcome? place ≠ none := by
  simp [outcome_of_streams streams, List.getElem?_eq_getElem heard]

/-- Where a chunk is on its way, it is for the action that was written last. -/
theorem asked_le_of_pending (streams : dialogue.Streams)
    (pending : dialogue.heard ≠ dialogue.replies) :
    dialogue.asked.length ≤ dialogue.replies.length := by
  rcases single_of_streams streams with ⟨same, _⟩ | ⟨chunk, replies, _⟩
  · exact (pending same.symm).elim
  · rw [replies, List.length_append, List.length_singleton]
    exact streams.paced

theorem outcome_ne_timed_out (streams : dialogue.Streams) (place : Nat) :
    dialogue.outcome? place ≠ some (.error .timedOut) := by
  rw [outcome_of_streams streams]
  split
  · simp only [ne_eq, Option.some.injEq, Exchange.outcomeOf]
    split <;> simp
  · split <;> simp

end Streams

/-! ## Looks -/

section Looks

variable {dialogue : Dialogue} {step : Holding} {answer : Answer} {desk : Desk} {ticket : Nat}

theorem looks_of_finds {outcome : Outcome} (finds : dialogue.finds step = some (ticket, outcome)) :
    dialogue.desk.looksAt step = some ticket := by
  simp only [Dialogue.finds, Option.bind_eq_some_iff] at finds
  obtain ⟨found, looks, answered⟩ := finds
  split at answered
  · cases answered
  · cases answered
    exact looks
  · cases answered

theorem finds_of_early (looks : dialogue.desk.looksAt step = some ticket)
    (answered : (dialogue.desk.hold step).1 = Desk.early step) : dialogue.finds step = none := by
  simp only [Dialogue.finds, looks, answered, Option.bind_some, Desk.early]
  cases step with
  | ticket number use => cases use <;> rfl
  | _ => rfl

theorem finds_of_outcome {outcome : Outcome} (looks : dialogue.desk.looksAt step = some ticket)
    (answered : (dialogue.desk.hold step).1 = .outcome outcome)
    (timely : outcome ≠ .error .timedOut) : dialogue.finds step = some (ticket, outcome) := by
  simp only [Dialogue.finds, looks, answered, Option.bind_some]

theorem tidings_of_found {later : Dialogue} {outcome : Outcome}
    (told : later.told = dialogue.told ++ [(ticket, outcome)]) :
    later.tidings ticket = dialogue.tidings ticket ++ [outcome] := by
  simp [tidings, told]

theorem tidings_of_unfound {later : Dialogue} {found : Option (Nat × Outcome)}
    (told : later.told = dialogue.told ++ found.toList)
    (other : ∀ outcome, found ≠ some (ticket, outcome)) :
    later.tidings ticket = dialogue.tidings ticket := by
  cases found with
  | none => simp [tidings, told]
  | some entry =>
      obtain ⟨found, outcome⟩ := entry
      have different : found ≠ ticket := by
        rintro rfl
        exact other outcome rfl
      simp [tidings, told, different]

/-- A look hands over what is due once, and from then on the wait counts as interrupted. -/
theorem fate_of_look {result : Option Outcome} (timely : result ≠ some (.error .timedOut))
    (fate : Fate (dialogue.link.exchange.progress ticket) (dialogue.tidings ticket) result)
    (looks : dialogue.desk.looksAt step = some ticket)
    (handles : Desk.Handles dialogue.desk step answer desk)
    (held : dialogue.desk.hold step = (answer, desk)) {later : Dialogue}
    (told : later.told = dialogue.told ++ (dialogue.finds step).toList) :
    Fate (desk.exchange.progress ticket) (later.tidings ticket) result := by
  have answered : (dialogue.desk.hold step).1 = answer := by rw [held]
  rcases Desk.progress_of_look handles looks with
    ⟨waiting, early, same⟩ | ⟨outcome, due, found, spent⟩
  · have nothing := finds_of_early looks (answered.trans early)
    rw [nothing] at told
    rw [tidings_of_unfound told (by simp), same]
    exact fate
  · cases result with
    | none =>
        have waiting : dialogue.desk.exchange.progress ticket = .waiting := fate.1
        rw [waiting] at due
        cases due
    | some result =>
        rcases fate with ⟨resolved, silent⟩ | ⟨gone, again, before⟩
        · have same : result = outcome := by
            have progress : dialogue.desk.exchange.progress ticket = .resolved result := resolved
            rw [progress] at due
            exact Option.some.inj due
          subst same
          have finds := finds_of_outcome looks (answered.trans found) (by simpa using timely)
          rw [finds] at told
          exact .inr ⟨spent, 0, by rw [tidings_of_found told, silent]; rfl⟩
        · have same : outcome = .error .interrupted := by
            have progress : dialogue.desk.exchange.progress ticket = .spent := gone
            rw [progress] at due
            exact (Option.some.inj due).symm
          subst same
          have finds := finds_of_outcome looks (answered.trans found) (by simp)
          rw [finds] at told
          refine .inr ⟨spent, again + 1, ?_⟩
          rw [tidings_of_found told, before, List.cons_append, ← List.replicate_succ']

end Looks

end Dialogue

end WatchLink
