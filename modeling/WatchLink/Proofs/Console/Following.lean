import WatchLink.Proofs.Console.Holding
import WatchLink.Proofs.Link.Course
import WatchLink.Proofs.Traffic.Replies

/-!
# Following what the server reports

`Run.Attends` says what a run that watches has printed, by where it stands and by the chunks that
have come in since its request went out. The run, the worker of its link and the network keep it in
whatever order they move. Once the stream is over, every move brings the run nearer to its end, and
it does not come to rest before it has told everything and left.
-/

namespace WatchLink

set_option autoImplicit false

namespace Console

namespace Run

def Answers (revision : Revision) (heard : List Bytes) (response : Response) : Prop :=
  ∃ first others, heard = first :: others ∧ Exchange.outcomeOf revision first = .ok response

/-- What is left to be reported of the chunks that have come in: what shares a chunk with the
confirmation, if there is anything, and every other chunk. -/
def reportable (response : Response) (heard : List Bytes) : List Bytes :=
  (if response.trailing.isEmpty then [] else [response.trailing]) ++ heard.tail

def transcript (lead : List Line) (response : Response) (heard : List Bytes) : List Line :=
  lead ++ .plain s!"Watch mode set: {response.text}" ::
    (reportable response heard).map fun piece => .plain (pushLine piece)

def farewellLine : Line := .log .info programTarget "Server closed the connection"

/-- Where a run that watches can stand once its request has gone out, and what it has printed; it
had printed `lead` before. -/
inductive Standing (lead : List Line) (heard : List Bytes) (run : Run) : Prop where
  | asked
      (place : run.stage = .sending (.finished (.number 0)) (some 0) ∨
        run.stage = .awaiting 0 (some 0))
      (holds : run.link.Holds heard false 0) (printed : run.printed = lead)
  | answered (response : Response) (place : run.stage = .skipping response 0)
      (answers : Answers run.link.revision heard response)
      (holds : run.link.Holds heard true 0)
      (printed : run.printed = lead ++ [.plain s!"Watch mode set: {response.text}"])
  | following (response : Response) (taken : Nat) (place : run.stage = .following 0)
      (answers : Answers run.link.revision heard response)
      (holds : run.link.Holds heard true (taken + 1)) (within : taken < heard.length)
      (printed : run.printed = transcript lead response (heard.take (taken + 1)))
  | leaving (response : Response)
      (place : run.stage = .leaving .closing none ∨ run.stage = .leaving (.finished .done) none)
      (answers : Answers run.link.revision heard response) (ended : run.link.worker = .ended)
      (printed : run.printed = transcript lead response heard ++ [farewellLine])
  | finished (response : Response) (place : run.stage = .finished 0)
      (answers : Answers run.link.revision heard response) (ended : run.link.worker = .ended)
      (printed : run.printed = transcript lead response heard ++ [farewellLine])

/-- A run that watches, after its request has gone out: `heard` has come in since, and the stream
has `ceased` or not. -/
structure Attends (lead : List Line) (heard : List Bytes) (ceased : Bool) (run : Run) : Prop where
  watches : ∃ mode tag, run.command = .watch mode tag
  modern : run.link.revision ≠ .v1
  placed : run.link.Placed
  follows : run.link.worker.Follows ceased
  nonempty : ∀ chunk ∈ heard, chunk ≠ []
  answered : ceased = true → heard ≠ []
  standing : Standing lead heard run

section Attending

variable {lead : List Line} {heard : List Bytes} {ceased : Bool} {run later : Run}

theorem answers_append {revision : Revision} {response : Response}
    (answers : Answers revision heard response) (more : List Bytes) :
    Answers revision (heard ++ more) response := by
  obtain ⟨first, others, rfl, outcome⟩ := answers
  exact ⟨first, others ++ more, rfl, outcome⟩

theorem reportable_take_succ {response : Response} {taken : Nat} {chunk : Bytes}
    (next : heard[taken + 1]? = some chunk) :
    reportable response (heard.take (taken + 2)) =
      reportable response (heard.take (taken + 1)) ++ [chunk] := by
  cases heard with
  | nil => simp at next
  | cons first others =>
      have here : others[taken]? = some chunk := by simpa using next
      simp only [reportable, List.take_succ_cons, List.tail_cons, List.append_assoc]
      rw [List.take_add_one, here, Option.toList_some]

theorem transcript_take_succ (lead : List Line) {response : Response} {taken : Nat} {chunk : Bytes}
    (next : heard[taken + 1]? = some chunk) :
    transcript lead response (heard.take (taken + 2)) =
      transcript lead response (heard.take (taken + 1)) ++ [.plain (pushLine chunk)] := by
  simp [transcript, reportable_take_succ next]

theorem not_ended_of_works {cause : Option Arrival} {link changed : Link}
    (change : Link.Works link cause changed) : link.worker ≠ .ended := by
  cases change <;> simp [*]

/-- A run that waits stands where it stood, whatever comes in meanwhile. -/
theorem standing_of_works {cause : Option Arrival} {more : List Bytes} {link : Link}
    (standing : Standing lead heard run) (change : Link.Works run.link cause link)
    (holds : ∀ collected taken, (heard = [] → collected = false) →
      run.link.Holds heard collected taken → link.Holds (heard ++ more) collected taken) :
    Standing lead (heard ++ more) { run with link } := by
  have same := Link.revision_of_works change
  have going := not_ended_of_works change
  cases standing with
  | asked place held printed => exact .asked place (holds _ _ (fun _ => rfl) held) printed
  | answered response place answers held printed =>
      refine .answered response place (same ▸ answers_append answers more) ?_ printed
      refine holds _ _ (fun empty => ?_) held
      obtain ⟨first, others, rfl, _⟩ := answers
      cases empty
  | following response taken place answers held within printed =>
      refine .following response taken place (same ▸ answers_append answers more) ?_ ?_ ?_
      · exact holds _ _ (fun empty => by simp [empty] at within) held
      · simp only [List.length_append]
        omega
      · rw [List.take_append_of_le_length (by omega)]
        exact printed
  | leaving response place answers ended printed
  | finished response place answers ended printed => exact (going ended).elim

theorem transcript_take_one (lead : List Line) {response : Response} (nonempty : heard ≠ []) :
    transcript lead response (heard.take 1) =
      lead ++ [.plain s!"Watch mode set: {response.text}"] ++
        if response.trailing.isEmpty then [] else [.plain (pushLine response.trailing)] := by
  obtain ⟨first, others, rfl⟩ := List.exists_cons_of_ne_nil nonempty
  simp only [transcript, reportable, List.take_succ_cons, List.take_zero, List.tail_cons,
    List.append_nil, List.append_assoc, List.singleton_append]
  split <;> rfl

/-- A run that watches has gone on by itself, and stands where it may. -/
structure Proceeds (lead : List Line) (heard : List Bytes) (run later : Run) : Prop where
  command : later.command = run.command
  link : ∃ exchange, later.link = { run.link with exchange }
  standing : Standing lead heard later

theorem proceeds_of_awaiting (attends : Attends lead heard ceased run)
    (place : run.stage = .awaiting 0 (some 0)) (holds : run.link.Holds heard false 0)
    (printed : run.printed = lead) (stepped : run.step = some later) :
    Proceeds lead heard run later := by
  obtain ⟨mode, tag, watches⟩ := attends.watches
  obtain ⟨arrived, split, exchange⟩ := holds
  rw [step, place] at stepped
  cases heard with
  | nil =>
      simp only [exchange, Exchange.collect_attended_nil] at stepped
      cases stepped
  | cons first others =>
      obtain ⟨byte, rest, rfl⟩ :=
        List.exists_cons_of_ne_nil (attends.nonempty first List.mem_cons_self)
      have outcome := Reply.outcome_of_cons attends.modern byte rest
      simp only [exchange, Exchange.collect_attended_cons, outcome, answered] at stepped
      cases stepped
      refine ⟨rfl, ⟨_, rfl⟩, .answered _ rfl ⟨_, _, rfl, outcome⟩ ⟨arrived, split, rfl⟩ ?_⟩
      simp only [enter, say, print, printed, watches]
      rfl

theorem proceeds_of_skipping {response : Response} (place : run.stage = .skipping response 0)
    (answers : Answers run.link.revision heard response) (holds : run.link.Holds heard true 0)
    (printed : run.printed = lead ++ [.plain s!"Watch mode set: {response.text}"])
    (stepped : run.step = some later) : Proceeds lead heard run later := by
  have nonempty : heard ≠ [] := by
    obtain ⟨first, others, rfl, _⟩ := answers
    exact List.cons_ne_nil first others
  simp only [step, place, Option.map_eq_some_iff, Prod.exists] at stepped
  obtain ⟨taking, after, taken, rfl⟩ := stepped
  rcases take_from_of_holds holds with ⟨chunk, exchange, here, takes, held⟩ | waits | ceased
  · rw [takes] at taken
    cases taken
    rw [skipped_eq]
    refine ⟨rfl, ⟨_, rfl⟩, .following response 0 rfl answers held ?_ ?_⟩
    · exact List.length_pos_iff.mpr nonempty
    · rw [transcript_take_one lead nonempty, ← printed]
  · simp [waits.1] at taken
  · exact (nonempty (List.length_eq_zero_iff.mp (Nat.le_zero.mp ceased.2.2))).elim

theorem proceeds_of_following {response : Response} {taken : Nat} (place : run.stage = .following 0)
    (answers : Answers run.link.revision heard response)
    (holds : run.link.Holds heard true (taken + 1))
    (printed : run.printed = transcript lead response (heard.take (taken + 1)))
    (stepped : run.step = some later) : Proceeds lead heard run later := by
  simp only [step, place, Option.map_eq_some_iff, Prod.exists] at stepped
  obtain ⟨taking, after, takes, rfl⟩ := stepped
  rcases take_from_of_holds holds with ⟨chunk, exchange, here, found, held⟩ | waits | ceased
  · rw [found] at takes
    cases takes
    refine ⟨rfl, ⟨_, rfl⟩, .following response (taken + 1) place answers held ?_ ?_⟩
    · exact (List.getElem?_eq_some_iff.mp here).1
    · rw [transcript_take_succ lead here, ← printed]
      rfl
  · simp [waits.1] at takes
  · obtain ⟨found, ended, all⟩ := ceased
    rw [found] at takes
    cases takes
    refine ⟨rfl, ⟨_, rfl⟩, .leaving response (.inl rfl) answers ended ?_⟩
    rw [List.take_of_length_le all] at printed
    rw [← printed]
    rfl

theorem proceeds_of_leaving {response : Response}
    (place : run.stage = .leaving .closing none ∨ run.stage = .leaving (.finished .done) none)
    (answers : Answers run.link.revision heard response) (ended : run.link.worker = .ended)
    (closed : run.link.phase = .closed)
    (printed : run.printed = transcript lead response heard ++ [farewellLine])
    (stepped : run.step = some later) : Proceeds lead heard run later := by
  rcases place with place | place
  · simp only [step, place, advance, Task.receipt?, Task.advance, closed, if_true,
      Option.map_some, Option.some.injEq] at stepped
    subst stepped
    exact ⟨rfl, ⟨_, rfl⟩, .leaving response (.inr rfl) answers ended printed⟩
  · simp only [step, place, advance, Task.receipt?, Option.some.injEq] at stepped
    subst stepped
    exact ⟨rfl, ⟨_, rfl⟩, .finished response rfl answers ended printed⟩

theorem proceeds_of_step (attends : Attends lead heard ceased run)
    (stepped : run.step = some later) : Proceeds lead heard run later := by
  cases attends.standing with
  | asked place holds printed =>
      rcases place with place | place
      · simp only [step, place, advance, Task.receipt?, Option.some.injEq] at stepped
        subst stepped
        exact ⟨rfl, ⟨_, rfl⟩, .asked (.inr rfl) holds printed⟩
      · exact proceeds_of_awaiting attends place holds printed stepped
  | answered response place answers holds printed =>
      exact proceeds_of_skipping place answers holds printed stepped
  | following response taken place answers holds within printed =>
      exact proceeds_of_following place answers holds printed stepped
  | leaving response place answers ended printed =>
      have closed := (attends.placed.sealed (by rw [ended]; trivial)).1
      exact proceeds_of_leaving place answers ended closed printed stepped
  | finished response place => simp [step, place] at stepped

/-! ## What every move keeps -/

theorem placed_of_exchange {link : Link} (placed : link.Placed) (exchange : Exchange) :
    ({ link with exchange } : Link).Placed :=
  ⟨placed.fresh, placed.heralds, placed.unheard, placed.unopened, placed.sealed⟩

theorem attends_of_step (attends : Attends lead heard ceased run)
    (stepped : run.step = some later) :
    Attends lead heard ceased later ∧ later.link.worker = run.link.worker := by
  obtain ⟨command, ⟨exchange, link⟩, standing⟩ := proceeds_of_step attends stepped
  have same : later.link.worker = run.link.worker := by rw [link]
  refine ⟨⟨?_, ?_, ?_, ?_, attends.nonempty, attends.answered, standing⟩, same⟩
  · rw [command]
    exact attends.watches
  · rw [link]
    exact attends.modern
  · rw [link]
    exact placed_of_exchange attends.placed exchange
  · rw [same]
    exact attends.follows

theorem attends_of_works {cause : Option Arrival} {more : List Bytes} {ceasedAfter : Bool}
    {link : Link} (attends : Attends lead heard ceased run)
    (change : Link.Works run.link cause link)
    (holds : ∀ collected taken, (heard = [] → collected = false) →
      run.link.Holds heard collected taken → link.Holds (heard ++ more) collected taken)
    (follows : link.worker.Follows ceasedAfter) (nonempty : ∀ chunk ∈ more, chunk ≠ [])
    (answered : ceasedAfter = true → heard ++ more ≠ []) :
    Attends lead (heard ++ more) ceasedAfter { run with link } := by
  have same := Link.revision_of_works change
  refine ⟨attends.watches, ?_, Link.placed_of_works attends.placed change, follows, ?_, answered,
    standing_of_works attends.standing change holds⟩
  · rw [same]
    exact attends.modern
  · intro chunk member
    rcases List.mem_append.mp member with before | now
    · exact attends.nonempty chunk before
    · exact nonempty chunk now

theorem attends_of_chunk {bytes : Bytes} {link : Link} (attends : Attends lead heard false run)
    (change : Link.Works run.link (some (.chunk bytes)) link) :
    Attends lead (heard ++ [bytes]) false { run with link } := by
  refine attends_of_works attends change ?_ ?_ ?_ (by simp)
  · intro collected taken uncollected holds
    exact Link.holds_of_chunk holds uncollected change
  · cases change with
    | lose place arrival ends => simp at ends
    | answer => rfl
  · cases change with
    | lose place arrival ends => simp at ends
    | answer place bytes nonempty => simpa using nonempty

theorem attends_of_end {link : Link} (attends : Attends lead heard false run) (spoken : heard ≠ [])
    (change : Link.Works run.link (some .ended) link) :
    Attends lead heard true { run with link } := by
  rw [← List.append_nil heard] at spoken ⊢
  refine attends_of_works attends change ?_ ?_ (by simp) (fun _ => spoken)
  · intro collected taken _ holds
    rw [List.append_nil]
    exact Link.holds_of_end holds change
  · cases change with
    | lose => rfl

theorem attends_of_work {link : Link} (attends : Attends lead heard ceased run)
    (change : Link.Works run.link none link) : Attends lead heard ceased { run with link } := by
  have answered := attends.answered
  have follows := Link.follows_of_work attends.follows change
  rw [← List.append_nil heard] at answered ⊢
  refine attends_of_works attends change ?_ follows (by simp) answered
  intro collected taken _ holds
  rw [List.append_nil]
  exact Link.holds_of_work holds attends.follows attends.answered change

/-! ## Whole schedules -/

def pace (run : Run) : Nat := run.remaining + run.link.worker.remaining

def Rests (run : Run) : Prop := ∀ move, run.move move = none

theorem rests_of_finished {exitCode : UInt32} (place : run.stage = .finished exitCode)
    (ended : run.link.worker = .ended) : run.Rests := by
  intro move
  cases move with
  | step => simp only [Run.move, step, place]
  | work => simp only [Run.move, Link.work, ended, Option.map_none]
  | arrive arrival => simp only [Run.move, hear, Link.hear, ended, Option.map_none]

theorem remaining_of_work {link : Link} (follows : run.link.worker.Follows true)
    (change : Link.Works run.link none link) :
    ({ run with link } : Run).remaining = run.remaining := by
  have kept : link.exchange.backlog = run.link.exchange.backlog := by
    cases change with
    | publish _ place =>
        rw [place] at follows
        cases follows
    | reject => exact Exchange.backlog_conclude run.link.exchange _
    | closeInboxes => exact Exchange.backlog_close_inboxes run.link.exchange
    | _ => rfl
  simp only [remaining, queued_eq_backlog, kept]

theorem not_ceased_of_hear {arrival : Arrival} (follows : run.link.worker.Follows true)
    (moved : run.move (.arrive arrival) = some later) : False := by
  simp only [move, hear, Option.map_eq_some_iff] at moved
  obtain ⟨link, heard, _⟩ := moved
  cases Link.works_of_hear heard with
  | dial place | fail place | spoil place | lose place | answer place =>
      rw [place] at follows
      cases follows

/-- Once the stream is over, every move brings a run that watches nearer to its end. -/
theorem ceased_of_move {move : Move} (attends : Attends lead heard true run)
    (moved : run.move move = some later) :
    Attends lead heard true later ∧ later.pace < run.pace := by
  cases move with
  | step =>
      obtain ⟨kept, same⟩ := attends_of_step attends moved
      have nearer := remaining_of_steps (steps_of_step moved)
      refine ⟨kept, ?_⟩
      rw [pace, pace, same]
      omega
  | work =>
      obtain ⟨link, worked, rfl⟩ := worked_of_move moved
      have change := Link.works_of_work worked
      have nearer := Link.work_remaining worked
      refine ⟨attends_of_work attends change, ?_⟩
      rw [pace, pace, remaining_of_work attends.follows change]
      exact Nat.add_lt_add_left nearer _
  | arrive arrival => exact (not_ceased_of_hear attends.follows moved).elim

theorem ceased_of_moves {moves : List Move} {last : Run} (attends : Attends lead heard true run)
    (ran : run.moves moves = some last) :
    Attends lead heard true last ∧ moves.length + last.pace ≤ run.pace := by
  induction moves generalizing run with
  | nil =>
      cases ran
      exact ⟨attends, by simp⟩
  | cons move later ih =>
      obtain ⟨next, moved, continued⟩ := moves_cons_eq_some.mp ran
      obtain ⟨kept, nearer⟩ := ceased_of_move attends moved
      obtain ⟨keptStill, near⟩ := ih kept continued
      refine ⟨keptStill, ?_⟩
      rw [List.length_cons]
      omega

/-- The chunks come in one after the other, then the stream ends, and in between the run and its
worker move as they may. -/
theorem attends_of_moves {moves : List Move} {chunks : List Bytes} {last : Run}
    (attends : Attends lead heard false run) (spoken : heard ++ chunks ≠ [])
    (comes : moves.filterMap Move.arrival? = chunks.map .chunk ++ [.ended])
    (ran : run.moves moves = some last) : Attends lead (heard ++ chunks) true last := by
  induction moves generalizing run heard chunks with
  | nil => simp at comes
  | cons move later ih =>
      obtain ⟨next, moved, continued⟩ := moves_cons_eq_some.mp ran
      cases move with
      | step => exact ih (attends_of_step attends moved).1 spoken comes continued
      | work =>
          obtain ⟨link, worked, rfl⟩ := worked_of_move moved
          exact ih (attends_of_work attends (Link.works_of_work worked)) spoken comes continued
      | arrive arrival =>
          cases chunks with
          | nil =>
              simp only [List.filterMap_cons, Move.arrival?, List.map_nil, List.nil_append,
                List.cons.injEq] at comes
              obtain ⟨rfl, _⟩ := comes
              obtain ⟨link, change, rfl⟩ := works_of_peace (.inr (.inr rfl)) moved
              rw [List.append_nil] at spoken ⊢
              exact (ceased_of_moves (attends_of_end attends spoken change) continued).1
          | cons chunk others =>
              simp only [List.filterMap_cons, Move.arrival?, List.map_cons, List.cons_append,
                List.cons.injEq] at comes
              obtain ⟨rfl, comes⟩ := comes
              obtain ⟨link, change, rfl⟩ := works_of_peace (.inr (.inl ⟨chunk, rfl⟩)) moved
              have kept := ih (attends_of_chunk attends change) (by simp) comes continued
              simpa using kept

/-- A run that watches does not come to rest before it has told everything and left. -/
theorem finished_of_rests (attends : Attends lead heard true run) (rests : run.Rests) :
    run.stage = .finished 0 ∧ ∃ response, Answers run.link.revision heard response ∧
      run.printed = transcript lead response heard ++ [farewellLine] := by
  have still : run.step = none := rests .step
  have asleep : run.link.work = none := by simpa [move] using rests .work
  have ended : run.link.worker = .ended := by
    have follows := attends.follows
    cases place : run.link.worker with
    | finishing stage opening => cases stage <;> simp [Link.work, place] at asleep
    | ended => rfl
    | _ =>
        rw [place] at follows
        cases follows
  cases attends.standing with
  | asked place holds printed =>
      exfalso
      rcases place with place | place
      · simp [step, place, advance, Task.receipt?] at still
      · obtain ⟨first, others, rfl⟩ := List.exists_cons_of_ne_nil (attends.answered rfl)
        obtain ⟨arrived, split, exchange⟩ := holds
        simp only [step, place, exchange, Exchange.collect_attended_cons] at still
        split at still <;> cases still
  | answered response place answers holds printed
  | following response taken place answers holds within printed =>
      simp only [step, place, Option.map_eq_none_iff] at still
      exact (takes_of_ended holds ended still).elim
  | leaving response place answers ended printed =>
      have closed := (attends.placed.sealed (by rw [ended]; trivial)).1
      rcases place with place | place <;>
        simp [step, place, advance, Task.receipt?, Task.advance, closed] at still
  | finished response place answers ended printed => exact ⟨place, response, answers, printed⟩

end Attending

end Run

end Console

end WatchLink
