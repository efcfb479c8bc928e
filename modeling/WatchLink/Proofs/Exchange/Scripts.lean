import WatchLink.Proofs.Exchange.Taps

/-!
# Scripts on record

A script comes to an end just where each of its dispatches does, and whether one does is a matter of
the reactions that were set before it: `Terminates`. What the script did is then on record, and the
reactions of its taps leave no choice about it: `Accounts`. So whatever holds of every record holds
of every script, its dispatches included.
-/

namespace WatchLink

set_option autoImplicit false

namespace Exchange

/-! ## A dispatch is a course -/

/-- This comes to an end as the reactions of the taps have it, and makes this of the exchange. -/
def Ends (part : Part) (record : Record) (later : Exchange) : Prop :=
  ∃ after, Course .ofTaps part record after ∧ after.run = record.run.setExchange later

section Courses

variable {nested : Bytes → Exchange → Option Exchange} {record : Record} {later : Exchange}
  {chunk : Bytes}

theorem run_make_note (present : record.run.givenUp = false) (cause : Option Nat) (index : Nat)
    (line : Note) :
    (record.make cause (.note index line)).run =
      record.run.setExchange (record.exchange.note index line) := by
  simp [Record.make, Run.act, present, Record.exchange]

theorem run_make_operation (present : record.run.givenUp = false) (cause : Option Nat)
    (operation : Operation) :
    (record.make cause (.step (.operation operation))).run =
      record.run.setExchange (record.exchange.beginning operation).2 := by
  simp [Record.make, Run.act, Run.begin, present, Record.exchange]

theorem exchange_of_set {after : Record} {run : Run} (ran : after.run = run.setExchange later) :
    after.exchange = later := by
  rw [Record.exchange, ran]
  rfl

theorem present_of_set {after : Record} {run : Run} (ran : after.run = run.setExchange later)
    (present : run.givenUp = false) : after.run.givenUp = false := by
  rw [ran]
  exact present

theorem calls_hear (present : record.run.givenUp = false) (call : Nat) (chunk : Bytes)
    (index : Nat) :
    (record.hear call chunk index).exchange.calls chunk index =
      record.exchange.calls chunk index := by
  rw [Record.hear, exchange_of_set (run_make_note present (some call) index _)]
  simp only [calls, reactions_note]

/-- A way to dispatch that does what the reactions of the taps call for. -/
def Obeys (nested : Bytes → Exchange → Option Exchange) : Prop :=
  ∀ (cause : Option Nat) (chunk : Bytes) (record : Record) (later : Exchange),
    record.run.givenUp = false → nested chunk record.exchange = some later →
      Ends (.dispatch cause chunk) record later

theorem ends_of_perform (obeys : Obeys nested) (present : record.run.givenUp = false)
    {operation : Operation} {receipt : Receipt}
    (performed : performWith nested operation record.exchange = some (receipt, later))
    (call index : Nat) :
    Ends (.react call [.step (.operation operation),
      .note index (.reacted (record.exchange.beginning operation).1)]) record
      (later.note index (.reacted receipt)) := by
  have noted : Act.Inner (.note index (.reacted (record.exchange.beginning operation).1)) := trivial
  by_cases called : ∃ chunk, operation = .dispatch chunk
  · obtain ⟨chunk, rfl⟩ := called
    simp only [performWith, Option.map_eq_some_iff, Prod.mk.injEq] at performed
    obtain ⟨middle, dispatched, rfl, rfl⟩ := performed
    obtain ⟨between, course, ran⟩ := obeys (some call) chunk record middle present dispatched
    refine ⟨_, .nest call chunk course (.act call _ between noted (by simp) (by simp)
      (.done call _)), ?_⟩
    rw [run_make_note (present_of_set ran present), exchange_of_set ran, ran]
    rfl
  · have undispatched : ∀ chunk, operation ≠ .dispatch chunk :=
      fun chunk same => called ⟨chunk, same⟩
    rw [perform_with_of_undispatched undispatched] at performed
    have begun := run_make_operation present (some call) operation
    rw [Option.some.inj performed] at begun noted ⊢
    refine ⟨_, .act call (.step (.operation operation)) record trivial ?_ (by simp)
      (.act call _ _ noted (by simp) (by simp) (.done call _)), ?_⟩
    · intro chunk same
      cases same
      exact undispatched chunk rfl
    · rw [run_make_note (present_of_set begun present), exchange_of_set begun, begun]
      rfl

theorem ends_of_tell (obeys : Obeys nested) (present : record.run.givenUp = false) {index : Nat}
    (told : tell nested chunk record.exchange index = some later) (call : Nat) :
    ∃ between, between.run = record.run.setExchange later ∧
      Course .ofTaps (.react call (Conduct.ofTaps (record.hear call chunk index) index chunk))
        (record.hear call chunk index) between := by
  have heard := run_make_note present (some call) index (.heard chunk)
  simp only [Conduct.ofTaps, calls_hear present]
  cases called : record.exchange.calls chunk index with
  | none =>
      rw [tell_eq_of_calm called, Option.some.injEq] at told
      rw [← told]
      exact ⟨_, heard, .done call _⟩
  | some operation =>
      obtain ⟨receipt, after, performed, rfl⟩ := (tell_eq_some_iff_of_called called).mp told
      rw [← exchange_of_set heard] at performed
      obtain ⟨between, course, ran⟩ :=
        ends_of_perform obeys (present_of_set heard present) performed call index
      refine ⟨between, ?_, course⟩
      rw [ran, heard]
      rfl

theorem ends_of_tell_all (obeys : Obeys nested) (indices : List Nat)
    (present : record.run.givenUp = false)
    (told : indices.foldlM (tell nested chunk) record.exchange = some later) (call : Nat) :
    Ends (.tell call chunk indices) record later := by
  induction indices generalizing record with
  | nil =>
      cases told
      exact ⟨record, .told call chunk record, rfl⟩
  | cons index rest ih =>
      rw [List.foldlM_cons, Option.bind_eq_bind, Option.bind_eq_some_iff] at told
      obtain ⟨middle, first, others⟩ := told
      obtain ⟨between, ran, reacted⟩ := ends_of_tell obeys present first call
      rw [← exchange_of_set ran] at others
      obtain ⟨after, onwards, finished⟩ := ih (present_of_set ran present) others
      refine ⟨after, .tell call chunk index record reacted onwards, ?_⟩
      rw [finished, ran]
      rfl

end Courses

theorem obeys_dispatch_within (depth : Nat) : Obeys (dispatchWithin depth) := by
  induction depth with
  | zero =>
      intro cause chunk record later present dispatched
      cases dispatched
  | succ depth ih =>
      intro cause chunk record later present dispatched
      have begun := run_make_operation present cause (.dispatch chunk)
      rw [dispatchWithin, ← exchange_of_set begun] at dispatched
      obtain ⟨after, course, ran⟩ :=
        ends_of_tell_all ih _ (present_of_set begun present) dispatched record.next
      refine ⟨after, .dispatch cause chunk record course, ?_⟩
      rw [ran, begun]
      rfl

/-! ## A conduct leaves no choice -/

section Unique

variable {conduct : Conduct} {revision : Revision}

theorem course_unique {part : Part} {before after other : Record}
    (course : Course conduct part before after) (also : Course conduct part before other) :
    other = after := by
  induction course generalizing other with
  | dispatch _ _ _ _ ih =>
      cases also with
      | dispatch _ _ _ told => exact ih told
  | told | done =>
      cases also
      rfl
  | tell _ _ _ _ _ _ reacted told =>
      cases also with
      | tell _ _ _ _ reacts onwards =>
          cases reacted reacts
          exact told onwards
  | act _ act _ _ undispatched _ _ ih =>
      cases also with
      | act _ _ _ _ _ _ onwards => exact ih onwards
      | nest _ chunk => exact (undispatched chunk rfl).elim
  | nest _ chunk _ _ ran acted =>
      cases also with
      | act _ _ _ _ undispatched => exact (undispatched chunk rfl).elim
      | nest _ _ nested onwards =>
          cases ran nested
          exact acted onwards

theorem recorded_unique {steps : List Step} {answers others : List (Answer × Option Status)}
    {record other : Record} (recorded : Recorded conduct revision steps answers record)
    (also : Recorded conduct revision steps others other) : other = record := by
  induction recorded generalizing others other with
  | start =>
      generalize empty : ([] : List Step) = steps at also
      cases also with
      | start => rfl
      | step | dispatch => simp at empty
  | step _ step undispatched ih =>
      generalize split : _ ++ [step] = steps at also
      cases also with
      | start => simp at split
      | step before =>
          obtain ⟨rfl, same⟩ := List.append_inj' split rfl
          cases same
          rw [ih before]
      | dispatch before present chunk =>
          obtain ⟨rfl, same⟩ := List.append_inj' split rfl
          cases same
          rw [ih before] at present
          exact (undispatched present chunk rfl).elim
  | dispatch _ present chunk course ih =>
      generalize split : _ ++ [Step.operation (.dispatch chunk)] = steps at also
      cases also with
      | start => simp at split
      | step before _ undispatched =>
          obtain ⟨rfl, same⟩ := List.append_inj' split rfl
          cases same
          rw [ih before] at undispatched
          exact (undispatched present chunk rfl).elim
      | dispatch before _ _ others =>
          obtain ⟨rfl, same⟩ := List.append_inj' split rfl
          cases same
          cases ih before
          exact course_unique course others

end Unique

/-! ## When a script comes to an end -/

def Step.sets : Step → List (Option Reaction)
  | tap reaction => [reaction]
  | _ => []

/-- No dispatch of a script, given the reactions that were set before it, begins a chain without
end. Of an exchange that was given up nothing is dispatched. -/
def Terminates (reactions : List (Option Reaction)) : List Step → Prop
  | [] => True
  | step :: later =>
      (∀ chunk, step = .operation (.dispatch chunk) → ∃ depth, Settles reactions depth chunk) ∧
        (step ≠ .giveUp → Terminates (reactions ++ step.sets) later)

theorem reactions_hold (desk : Desk) (step : Holding) :
    (desk.hold step).2.exchange.reactions = desk.exchange.reactions := by
  by_cases reads : ∃ used, step = .takeLog used
  · obtain ⟨used, rfl⟩ := reads
    simp only [Desk.hold, takeLog]
    split
    · rfl
    next tap found =>
      apply List.ext_getElem?
      intro index
      simp only [reactions, List.getElem?_map, List.getElem?_set]
      by_cases same : used = index
      · subst same
        obtain ⟨bound, here⟩ := List.getElem?_eq_some_iff.mp found
        simp [bound, here]
      · simp [same]
  · have others : ∀ used, step ≠ .takeLog used := fun used same => reads ⟨used, same⟩
    rw [reactions, taps_of_handles (Desk.handles_of_hold desk step) others, reactions]

namespace Run

section Step

variable {run later : Run} {step : Step} {answer : Answer}

/-- A step that dispatches nothing is what it does before any tap is told. -/
theorem step_eq_begin
    (undispatched : run.givenUp = false → ∀ chunk, step ≠ .operation (.dispatch chunk)) :
    run.step step = some (run.begin step) := by
  cases step with
  | operation operation =>
      cases abandoned : run.givenUp with
      | true => simp [Run.step, Run.begin, abandoned]
      | false =>
          have others : ∀ chunk, operation ≠ .dispatch chunk := by
            intro chunk same
            exact undispatched abandoned chunk (by rw [same])
          simp [Run.step, Run.begin, abandoned, perform, perform_with_of_undispatched others]
  | _ => rfl

theorem step_dispatch (present : run.givenUp = false) (chunk : Bytes) :
    run.step (.operation (.dispatch chunk)) = (run.desk.exchange.dispatch chunk).map
      fun exchange => (.receipt .done, run.setExchange exchange) := by
  simp [Run.step, present, perform, performWith, Function.comp_def]

theorem step_isSome_iff (present : run.givenUp = false) (step : Step) :
    (run.step step).isSome ↔ ∀ chunk, step = .operation (.dispatch chunk) →
      ∃ depth, Settles run.desk.exchange.reactions depth chunk := by
  by_cases dispatches : ∃ chunk, step = .operation (.dispatch chunk)
  · obtain ⟨chunk, rfl⟩ := dispatches
    rw [step_dispatch present, Option.isSome_map, dispatch_isSome_iff]
    simp
  · have undispatched : ∀ chunk, step ≠ .operation (.dispatch chunk) :=
      fun chunk same => dispatches ⟨chunk, same⟩
    simp [step_eq_begin fun _ => undispatched, undispatched]

theorem reactions_begin (present : run.givenUp = false) (step : Step) :
    (run.begin step).2.desk.exchange.reactions = run.desk.exchange.reactions ++ step.sets ∧
      (step ≠ .giveUp → (run.begin step).2.givenUp = false) := by
  cases step with
  | operation operation =>
      simp [Run.begin, present, setExchange, Step.sets, reactions_beginning]
  | tap reaction => simp [Run.begin, present, setExchange, Step.sets, reactions, tap]
  | giveUp =>
      simp [Run.begin, present, setExchange, Step.sets, reactions, abandon, closeInboxes, release]
  | hold step => simp [Run.begin, present, Step.sets, reactions_hold]

theorem reactions_of_step (present : run.givenUp = false)
    (stepped : run.step step = some (answer, later)) :
    later.desk.exchange.reactions = run.desk.exchange.reactions ++ step.sets ∧
      (step ≠ .giveUp → later.givenUp = false) := by
  by_cases dispatches : ∃ chunk, step = .operation (.dispatch chunk)
  · obtain ⟨chunk, rfl⟩ := dispatches
    rw [step_dispatch present, Option.map_eq_some_iff] at stepped
    obtain ⟨exchange, dispatched, same⟩ := stepped
    cases same
    simp [setExchange, present, Step.sets,
      retains_dispatch_within _ chunk run.desk.exchange exchange dispatched]
  · rw [step_eq_begin fun _ chunk same => dispatches ⟨chunk, same⟩] at stepped
    have begun := reactions_begin present step
    rw [Option.some.inj stepped] at begun
    exact begun

theorem begin_of_given_up (abandoned : run.givenUp = true) (step : Step) :
    (run.begin step).2.givenUp = true := by
  cases step <;> simp [Run.begin, abandoned]

end Step

theorem answers_isSome_of_given_up {run : Run} (abandoned : run.givenUp = true)
    (steps : List Step) : (run.answers steps).isSome := by
  induction steps generalizing run with
  | nil => rfl
  | cons step rest ih =>
      have present : run.givenUp = false → ∀ chunk, step ≠ .operation (.dispatch chunk) := by
        simp [abandoned]
      obtain ⟨answers, answered⟩ :=
        Option.isSome_iff_exists.mp (ih (begin_of_given_up abandoned step))
      simp [Run.answers, step_eq_begin present, answered]

theorem answers_isSome_iff {run : Run} (present : run.givenUp = false) (steps : List Step) :
    (run.answers steps).isSome ↔ Terminates run.desk.exchange.reactions steps := by
  induction steps generalizing run with
  | nil => simp [Run.answers, Terminates]
  | cons step rest ih =>
      rw [Terminates, ← step_isSome_iff present]
      cases stepped : run.step step with
      | none => simp [Run.answers, stepped]
      | some after =>
          obtain ⟨kept, still⟩ := reactions_of_step present stepped
          have others : (run.answers (step :: rest)).isSome ↔ (after.2.answers rest).isSome := by
            cases answered : after.2.answers rest <;> simp [Run.answers, stepped, answered]
          simp only [others, Option.isSome_some, true_and, ← kept]
          by_cases ends : step = .giveUp
          · subst ends
            have abandoned : after.2.givenUp = true := by
              rw [step_eq_begin (by simp), Option.some.injEq] at stepped
              simp [← stepped, Run.begin, present]
            simp [answers_isSome_of_given_up abandoned rest]
          · rw [ih (still ends)]
            simp [ends]

/-- The run after the steps of a script; nothing where one of them would never end. -/
def last (run : Run) (steps : List Step) : Option Run :=
  steps.foldlM (fun found step => (found.step step).map Prod.snd) run

end Run

/-! ## Every script is on record -/

section Scripts

variable {revision : Revision} {steps : List Step} {answers : List (Answer × Option Status)}
  {record : Record}

theorem recorded_of_step (recorded : Recorded .ofTaps revision steps answers record) {step : Step}
    {answer : Answer} {later : Run} (stepped : record.run.step step = some (answer, later)) :
    ∃ after, Recorded .ofTaps revision (steps ++ [step]) (answers ++ [(answer, later.status)])
      after ∧ after.run = later := by
  by_cases dispatches : record.run.givenUp = false ∧ ∃ chunk, step = .operation (.dispatch chunk)
  · obtain ⟨present, chunk, rfl⟩ := dispatches
    rw [Run.step_dispatch present, Option.map_eq_some_iff] at stepped
    obtain ⟨exchange, dispatched, same⟩ := stepped
    cases same
    obtain ⟨after, course, ran⟩ :=
      obeys_dispatch_within _ none chunk record exchange present dispatched
    rw [← ran]
    exact ⟨after, .dispatch recorded present chunk course, rfl⟩
  · have undispatched : record.run.givenUp = false →
        ∀ chunk, step ≠ .operation (.dispatch chunk) :=
      fun present chunk same => dispatches ⟨present, chunk, same⟩
    rw [Run.step_eq_begin undispatched, Option.some.injEq] at stepped
    have made := Recorded.step recorded step undispatched
    rw [stepped] at made
    exact ⟨_, made, congrArg Prod.snd stepped⟩

theorem recorded_of_answers (recorded : Recorded .ofTaps revision steps answers record)
    {more : List Step} {replies : List (Answer × Option Status)}
    (ran : record.run.answers more = some replies) :
    ∃ after, Recorded .ofTaps revision (steps ++ more) (answers ++ replies) after ∧
      record.run.last more = some after.run := by
  induction more generalizing steps answers record replies with
  | nil =>
      cases ran
      exact ⟨record, by simpa using recorded, rfl⟩
  | cons step rest ih =>
      simp only [Run.answers, Option.bind_eq_bind, Option.bind_eq_some_iff] at ran
      obtain ⟨⟨answer, later⟩, stepped, others, answered, same⟩ := ran
      cases same
      obtain ⟨between, onwards, reached⟩ := recorded_of_step recorded stepped
      rw [← reached] at answered
      obtain ⟨after, there, finished⟩ := ih onwards answered
      refine ⟨after, by simpa using there, ?_⟩
      rw [Run.last, List.foldlM_cons, stepped, ← finished, reached]
      rfl

/-- This is on record of a script, and nothing else can be. -/
structure Accounts (revision : Revision) (steps : List Step)
    (answers : List (Answer × Option Status)) (record : Record) : Prop where
  recorded : Recorded .ofTaps revision steps answers record
  unique : ∀ other, Recorded .ofTaps revision steps answers other → other = record
  finishes : (Run.start revision).last steps = some record.run

theorem exists_accounts (ran : (Run.start revision).answers steps = some answers) :
    ∃ record, Accounts revision steps answers record := by
  obtain ⟨record, recorded, finishes⟩ := recorded_of_answers .start ran
  rw [List.nil_append, List.nil_append] at recorded
  exact ⟨record, recorded, fun other also => recorded_unique recorded also, finishes⟩

theorem answers_start_isSome_iff (revision : Revision) (steps : List Step) :
    ((Run.start revision).answers steps).isSome ↔ Terminates [] steps :=
  Run.answers_isSome_iff rfl steps

end Scripts

end Exchange

end WatchLink
