import WatchLink.Proofs.Dialogue.Progress

/-!
# One answer for each action

However often a caller waits too briefly, throws tickets away, tries to act a second time or cannot
say what it wants to: if it claims a response for each action and the server answers each action
that reaches it with one chunk, then what the `place`-th action that was written comes to is the
`place`-th chunk that the server wrote. `answers_in_order` says so for every dialogue.
-/

namespace WatchLink

set_option autoImplicit false

namespace Dialogue

/-- In this turn the bytes of an action go out, and the call returns this ticket for it. -/
def Writes (dialogue : Dialogue) (turn : Turn) (number : Nat) (later : Dialogue) : Prop :=
  ∃ (host : Host) (action : Action) (ticket : Option Nat) (bytes : Bytes),
    turn = .advance host ∧ dialogue.task = .writing action ticket ∧
      action.encode dialogue.link.revision = .ok bytes ∧
      later.link.sent = dialogue.link.sent ++ bytes ∧ later.task = .finished (.number number)

section Turns

variable {dialogue later : Dialogue} {turn : Turn}

theorem asked_of_turns (turned : Turns dialogue turn later) :
    later.asked = dialogue.asked ∨
      ∃ number, later.asked = dialogue.asked ++ [number] ∧
        dialogue.Writes turn number later := by
  cases turned with
  | advance host next link change =>
      obtain ⟨before, task, waiters, stream, asked, replies, heard, told⟩ := dialogue
      dsimp only at change ⊢
      cases change with
      | write action ticket bytes writable encoded =>
          cases ticket with
          | none => exact .inl (by simp [Task.asks, Task.sentReceipt])
          | some number =>
              exact .inr
                ⟨number, rfl, host, action, some number, bytes, rfl, rfl, encoded, rfl, rfl⟩
      | unsayable action ticket | writeFails action ticket =>
          cases ticket <;> exact .inl (by simp [Task.asks, Task.refuse])
      | _ => exact .inl (by simp [Task.asks])
  | _ => exact .inl rfl

theorem asked_iff_writes (turned : Turns dialogue turn later) (number : Nat) :
    later.asked = dialogue.asked ++ [number] ↔ dialogue.Writes turn number later := by
  constructor
  · intro longer
    rcases asked_of_turns turned with same | ⟨other, grown, writes⟩
    · simp [same] at longer
    · obtain rfl : other = number := by simpa using grown.symm.trans longer
      exact writes
  · rintro ⟨host, action, ticket, bytes, rfl, writing, _, _, returned⟩
    cases turned with
    | advance _ next link change =>
        rw [show next = _ from returned, writing]
        rfl

end Turns

structure InOrder (dialogue : Dialogue) : Prop where
  /-- An action counts as asked in the turn in which its bytes go out, and in no other. -/
  asks : ∀ (turn : Turn) (later : Dialogue), dialogue.turn turn = some later →
    (later.asked = dialogue.asked ∨ ∃ number, later.asked = dialogue.asked ++ [number]) ∧
      ∀ number, later.asked = dialogue.asked ++ [number] ↔ dialogue.Writes turn number later
  /-- The worker reads the chunks as they were written, one for each action at most. -/
  heard : dialogue.heard <+: dialogue.replies
  answered : dialogue.replies.length ≤ dialogue.asked.length ∧
    dialogue.asked.length ≤ dialogue.heard.length + 1
  once : dialogue.asked.Nodup
  /-- What was found at the ticket of an action is what the action comes to, once; whoever looks
  again is told that the wait was interrupted. -/
  found : ∀ (place ticket : Nat), dialogue.asked[place]? = some ticket →
    dialogue.tidings ticket = [] ∨
      ∃ outcome again, dialogue.outcome? place = some outcome ∧
        dialogue.tidings ticket = outcome :: List.replicate again (.error .interrupted)
  /-- Whoever looks now finds it, unless it is too early or it was found before. -/
  looks : ∀ (place ticket : Nat) (step : Holding), dialogue.asked[place]? = some ticket →
    dialogue.desk.looksAt step = some ticket →
    (dialogue.desk.hold step).1 =
      match dialogue.outcome? place with
      | none => Desk.early step
      | some outcome => .outcome
          (if (dialogue.tidings ticket).isEmpty then outcome else .error .interrupted)
  /-- An action comes to something as soon as the worker goes on, unless the server has yet to
  answer it. -/
  settles : ∀ place < dialogue.asked.length, ∃ (course : List Turn) (later : Dialogue),
    (∀ turn ∈ course, turn = .work ∨ turn = .read) ∧ dialogue.turns course = some later ∧
      (later.outcome? place = none →
        later.link.worker = .reading ∧ dialogue.replies.length ≤ place)
  /-- It comes to one thing. -/
  kept : ∀ (turn : Turn) (later : Dialogue) (place : Nat) (outcome : Outcome),
    dialogue.turn turn = some later → dialogue.outcome? place = some outcome →
    later.outcome? place = some outcome

section InOrder

variable {dialogue : Dialogue}

theorem looks_of_paced (paced : dialogue.Paced) {place ticket : Nat} {step : Holding}
    (asked : dialogue.asked[place]? = some ticket)
    (looks : dialogue.desk.looksAt step = some ticket) :
    (dialogue.desk.hold step).1 =
      match dialogue.outcome? place with
      | none => Desk.early step
      | some outcome => .outcome
          (if (dialogue.tidings ticket).isEmpty then outcome else .error .interrupted) := by
  have fate := paced.fates place ticket asked
  have handles := Desk.handles_of_hold dialogue.desk step
  cases result : dialogue.outcome? place with
  | none =>
      rw [result] at fate
      rcases Desk.progress_of_look handles looks with ⟨_, early, _⟩ | ⟨outcome, due, _, _⟩
      · exact early
      · have waiting : dialogue.desk.exchange.progress ticket = .waiting := fate.1
        rw [waiting] at due
        cases due
  | some outcome =>
      rw [result] at fate
      rcases fate with ⟨resolved, untold⟩ | ⟨spent, again, told⟩
      · have progress : dialogue.desk.exchange.progress ticket = .resolved outcome := resolved
        rcases Desk.progress_of_look handles looks with ⟨waiting, _, _⟩ | ⟨found, due, answer, _⟩
        · rw [progress] at waiting
          cases waiting
        · rw [progress] at due
          cases due
          simp [answer, untold]
      · have progress : dialogue.desk.exchange.progress ticket = .spent := spent
        rcases Desk.progress_of_look handles looks with ⟨waiting, _, _⟩ | ⟨found, due, answer, _⟩
        · rw [progress] at waiting
          cases waiting
        · rw [progress] at due
          cases due
          simp [answer, told]

/-- In a dialogue of one caller with a server that answers each action with one chunk, the actions
are answered in order. What an action comes to is the chunk at its own place among those that the
server wrote, or an interruption if the transport ended before that chunk was read. It comes to that
as soon as the worker goes on, and for good; and it is found at no other ticket, whatever was given
up, refused or thrown away in between. -/
theorem answers_in_order {settings : Settings} {link : Link} {run : List Turn} {last : Dialogue}
    (created : Link.create settings = .ok link)
    (ran : ({ link } : Dialogue).turns run = some last) : last.InOrder := by
  have paced := turns_induction Paced paced_of_turns ran (paced_of_create created)
  have begun := turns_induction Begun begun_of_turns ran (begun_of_create created)
  obtain ⟨rest, replies, _⟩ := paced.streams.flowing
  exact {
    asks := by
      intro turn later took
      have turned := turns_of_turn took
      refine ⟨?_, asked_iff_writes turned⟩
      rcases asked_of_turns turned with same | ⟨number, grown, _⟩
      · exact .inl same
      · exact .inr ⟨number, grown⟩
    heard := ⟨rest, replies.symm⟩
    answered := ⟨paced.streams.answered, paced.streams.paced⟩
    once := paced.once
    found := by
      intro place ticket asked
      have fate := paced.fates place ticket asked
      cases result : last.outcome? place with
      | none =>
          rw [result] at fate
          exact .inl fate.2
      | some outcome =>
          rw [result] at fate
          rcases fate with ⟨_, untold⟩ | ⟨_, again, told⟩
          · exact .inl untold
          · exact .inr ⟨outcome, again, rfl, told⟩
    looks := fun _ _ _ asked looks => looks_of_paced paced asked looks
    settles := fun _ asked => settles_of_paced paced begun asked
    kept := fun _ _ _ _ took known =>
      have turned := turns_of_turn took
      outcome_of_turns paced (paced_of_turns paced turned).streams turned known }

end InOrder

/-- A ping is waited for too briefly and thrown away. A second one is refused as long as it is
unanswered; afterwards one is sent and answered. -/
def lateAnswer : List Turn :=
  [.begin .start, .advance .grants, .arrive .accepted, .work, .work, .begin (.act .ping),
    .advance .grants, .advance .grants, .hold (.ticket 0 .waitLimited), .hold (.ticket 0 .discard),
    .begin (.act .ping), .advance .grants, .reply [1], .read, .work, .work, .begin (.act .close),
    .advance .grants, .advance .grants, .advance .grants, .begin (.act .ping), .advance .grants,
    .advance .grants, .reply [2], .read, .hold (.ticket 2 .wait)]

def lateAnswered : Dialogue where
  link :=
    { settings := {}
      phase := .connected
      writable := true
      exchange :=
        { revision := .v2
          tickets :=
            [{ progress := .resolved (Exchange.outcomeOf .v2 [1]), held := false },
              { progress := .spent }, { progress := .spent, held := false }] }
      signal := { opening := some .ready }
      worker := .publishingChunk [2]
      sent := [0, 0] }
  task := .finished (.number 2)
  asked := [0, 2]
  replies := [[1], [2]]
  heard := [[1], [2]]
  told := [(2, Exchange.outcomeOf .v2 [2])]

theorem late_answer_in_order :
    ({ link := { settings := {}, exchange := { revision := .v2 } } } : Dialogue).turns lateAnswer =
        some lateAnswered ∧
      lateAnswered.InOrder ∧ lateAnswered.tidings 2 = [Exchange.outcomeOf .v2 [2]] := by
  have created : Link.create {} =
      .ok { settings := {}, exchange := { revision := .v2 } } := rfl
  have ran : ({ link := { settings := {}, exchange := { revision := .v2 } } } : Dialogue).turns
      lateAnswer = some lateAnswered := rfl
  exact ⟨ran, answers_in_order created ran, rfl⟩

end Dialogue

end WatchLink
