import WatchLink.Proofs.Console.Responding

/-!
# Throwing the acknowledgement away

A run that watches counts on the chunk that acknowledged its request being the first one in its
inbox, and throws that one away unread. But the inbox was opened before the request was registered.
What came in between is in there first: `Confirmed.acknowledgement_skipped_iff` says that the right
chunk is thrown away, and every later one told, just where nothing had come in by then.
-/

namespace WatchLink

set_option autoImplicit false

namespace Console

namespace Run

theorem chunk_of_outcome {revision : Revision} {chunk : Bytes} {response : Response}
    (outcome : Exchange.outcomeOf revision chunk = .ok response) : response.chunk = chunk :=
  (Response.origin_of_decode (Exchange.outcome_eq_ok_iff_decode.mp outcome)).2

/-- What a run has told of the chunks in its inbox; the others are still on their way. -/
theorem told_of_tells {run : Run} {response : Response} {discarded : Bytes} {others : List Bytes}
    (tells : Tells response (discarded :: others) run) :
    ∃ told, others = told ++ run.link.incoming ∧
      run.results = recital run.command response (discarded :: told) := by
  cases tells with
  | following taken place stores printed =>
      refine ⟨others.take taken, ?_, printed⟩
      rw [Link.incoming_of_stores stores, List.drop_succ_cons, List.take_append_drop]
  | departed departs ended drained printed =>
      refine ⟨others, ?_, printed⟩
      have empty := List.length_eq_zero_iff.mp drained
      rw [Link.incoming, empty, ended]
      simp [Worker.waiting]

theorem incoming_of_rest {run : Run} {response : Response} {chunks : List Bytes}
    (tells : Tells response chunks run) (still : run.step = none)
    (asleep : run.link.work = none) : run.link.incoming = [] := by
  cases tells with
  | following taken place stores printed =>
      have waits : run.takeFrom 0 = none := by simpa [step, place] using still
      rcases take_from_of_stores stores with ⟨chunk, exchange, _, takes, _⟩ | ⟨late, _⟩
      · rw [takes] at waits
        cases waits
      · rw [Link.incoming_of_stores stores, late, Link.waiting_of_work_eq_none asleep]
  | departed departs ended drained printed =>
      have empty := List.length_eq_zero_iff.mp drained
      rw [Link.incoming, empty, ended]
      rfl

/-- A run that watches and whose request succeeds: it has its response, and throws a chunk away. The
worker and the network move as they may throughout. -/
structure Confirmed extends Asked where
  mode : WatchMode
  tag : Option UInt64
  watches : invocation.command = .watch mode tag
  waiting : List Move
  answered : Run
  ranWaiting : prepared.moves (.step :: waiting) = some answered
  response : Response
  succeeded : answered.stage = .skipping response 0
  following : List Move
  last : Run
  ranFollowing : answered.moves (.step :: following) = some last

def played (run : Run) (moves : List Move) : Run := (run.moves moves).getD run

namespace Confirmed

def heard (confirmed : Confirmed) : List Bytes :=
  (confirmed.waiting ++ confirmed.following).filterMap Move.chunk?

theorem command_last (confirmed : Confirmed) :
    confirmed.last.command = .watch confirmed.mode confirmed.tag := by
  rw [(kept_of_moves confirmed.ranFollowing).1, (kept_of_moves confirmed.ranWaiting).1,
    (kept_of_moves confirmed.ranPreparing).1, (kept_of_begin confirmed.invocation).1]
  exact confirmed.watches

theorem standing (confirmed : Confirmed) :
    Underway confirmed.answered ∧
      (∃ others, confirmed.waiting.filterMap Move.chunk? = confirmed.response.chunk :: others) ∧
      confirmed.answered.link.Stores
        (confirmed.early ++ confirmed.waiting.filterMap Move.chunk?) 0 ∧
      confirmed.answered.results =
        [confirmed.answered.command.responseLine confirmed.response] := by
  obtain ⟨underway, stands⟩ := confirmed.stands confirmed.ranWaiting
  refine ⟨underway, ?_⟩
  have place := confirmed.succeeded
  cases stands with
  | skipping response answers here found stores printed =>
      obtain ⟨rfl, _⟩ := Stage.skipping.inj (place.symm.trans found)
      obtain ⟨first, others, same, outcome⟩ := answers
      rw [← chunk_of_outcome outcome] at same
      exact ⟨⟨others, same⟩, stores, printed⟩
  | writing _ found => rw [place] at found; cases found
  | awaiting found => rcases found with found | found <;> rw [place] at found <;> cases found
  | dealt response _ _ dealt =>
      have departs := dealt.departs
      rw [place] at departs
      exact departs.elim
  | tells response _ _ tells =>
      cases tells with
      | following _ found => rw [place] at found; cases found
      | departed departs =>
          rw [place] at departs
          exact departs.elim
  | astray strays =>
      rw [place] at strays
      exact strays.elim

/-- The chunk that is thrown away is the acknowledgement, and all that came after it and nothing
else is told, just where the inbox was empty when the request was registered. Otherwise what was in
it is thrown away and told first, and then the acknowledgement is told. -/
theorem acknowledgement_skipped_iff (confirmed : Confirmed) :
    (∃ later discarded after told,
      confirmed.heard = confirmed.response.chunk :: later ∧
      confirmed.answered.takeFrom 0 = some (.chunk discarded, after) ∧
      confirmed.last.results = s!"Watch mode set: {confirmed.response.text}" ::
        (reportable confirmed.response (discarded :: told)).map pushLine ∧
      confirmed.early ++ confirmed.heard =
        discarded :: told ++ confirmed.last.link.incoming ∧
      (discarded = confirmed.response.chunk ∧ told ++ confirmed.last.link.incoming = later ↔
        confirmed.early = [])) ∧
    (confirmed.last.step = none → confirmed.last.link.work = none →
      confirmed.last.link.incoming = []) ∧
    ∃ bound, ∀ more final, (∀ move ∈ more, move.arrival? = none) →
      confirmed.last.moves more = some final → more.length ≤ bound := by
  obtain ⟨underway, ⟨others, first⟩, stores, printed⟩ := confirmed.standing
  obtain ⟨next, moved, continued⟩ := moves_cons_eq_some.mp confirmed.ranFollowing
  have nonempty : confirmed.early ++ confirmed.waiting.filterMap Move.chunk? ≠ [] := by
    rw [first]
    simp
  obtain ⟨⟨discarded, after, head, takes⟩, tells⟩ :=
    tells_of_skipping confirmed.succeeded stores nonempty printed moved
  obtain ⟨underwayLast, tellsLast⟩ :=
    tells_of_moves (underway_of_move underway moved) tells continued
  have heard : confirmed.heard = confirmed.response.chunk ::
      (others ++ confirmed.following.filterMap Move.chunk?) := by
    rw [Confirmed.heard, List.filterMap_append, first, List.cons_append]
  obtain ⟨rest, taken⟩ := List.head?_eq_some_iff.mp head
  have inbox : confirmed.early ++ confirmed.heard =
      discarded :: (rest ++ confirmed.following.filterMap Move.chunk?) := by
    rw [Confirmed.heard, List.filterMap_append, ← List.append_assoc, taken, List.cons_append]
  rw [taken, List.cons_append] at tellsLast
  obtain ⟨told, split, results⟩ := told_of_tells tellsLast
  rw [split] at inbox
  refine ⟨⟨_, discarded, after, told, heard, takes, ?_, inbox, ?_⟩, incoming_of_rest tellsLast,
    confirmed.last.labour, fun more final own ran => length_of_own_moves underwayLast own ran⟩
  · rw [results, confirmed.command_last]
    rfl
  · rw [heard] at inbox
    constructor
    · rintro ⟨rfl, all⟩
      rw [all] at inbox
      exact List.append_left_eq_self.mp inbox
    · intro empty
      rw [empty, List.nil_append, List.cons.injEq] at inbox
      exact ⟨inbox.1.symm, inbox.2.symm⟩

/-! ## With and without an early chunk -/

def watchAll : Invocation where
  host := "127.0.0.1"
  port := 3126
  revision := .v2
  command := .watch .all none

def openInbox : List Move := [.arrive .accepted, .work, .work, .step, .step]

def take (chunk : Bytes) : List Move := [.arrive (.chunk chunk), .work, .work]

/-- The request is written, and acknowledged in a chunk of its own. -/
def request : List Move := [.step, .step] ++ take [8] ++ [.step]

def follow (early : List Bytes) : List Move :=
  take [5] ++ List.replicate (early.length + 1) .step

def preparedOf (early : List Bytes) : Run :=
  played (begin watchAll) (openInbox ++ early.flatMap take)

def answeredOf (early : List Bytes) : Run := played (preparedOf early) (.step :: request)

def lastOf (early : List Bytes) : Run := played (answeredOf early) (.step :: follow early)

def confirmedOf (early : List Bytes)
    (prepares : (begin watchAll).moves (openInbox ++ early.flatMap take) = some (preparedOf early))
    (registers : (preparedOf early).stage =
      .sending (.registering (.setWatchMode .all none)) (some 0))
    (answers : (preparedOf early).moves (.step :: request) = some (answeredOf early))
    (succeeds : (answeredOf early).stage =
      .skipping { revision := .v2, value := 8, chunk := [8] } 0)
    (follows : (answeredOf early).moves (.step :: follow early) = some (lastOf early)) :
    Confirmed where
  invocation := watchAll
  action := .setWatchMode .all none
  inbox := some 0
  preparing := openInbox ++ early.flatMap take
  prepared := preparedOf early
  ranPreparing := prepares
  registering := registers
  mode := .all
  tag := none
  watches := rfl
  waiting := request
  answered := answeredOf early
  ranWaiting := answers
  response := { revision := .v2, value := 8, chunk := [8] }
  succeeded := succeeds
  following := follow early
  last := lastOf early
  ranFollowing := follows

def undisturbed : Confirmed := confirmedOf [] rfl rfl rfl rfl rfl

/-- The server has refused the client before it could ask for anything. -/
def disturbed : Confirmed := confirmedOf [[9, 0]] rfl rfl rfl rfl rfl

theorem acknowledgement_skipped_undisturbed :
    undisturbed.early = [] ∧ ∃ later discarded after told,
      undisturbed.heard = undisturbed.response.chunk :: later ∧
      undisturbed.answered.takeFrom 0 = some (.chunk discarded, after) ∧
      discarded = undisturbed.response.chunk ∧ told = later ∧
      undisturbed.last.results = ["Watch mode set: 8 (Ok)", "Pushed [05]"] := by
  have empty : undisturbed.early = [] := rfl
  obtain ⟨⟨later, discarded, after, told, heard, takes, _, _, exactly⟩, rests, _⟩ :=
    acknowledgement_skipped_iff undisturbed
  have incoming : undisturbed.last.link.incoming = [] := rests rfl rfl
  obtain ⟨same, all⟩ := exactly.mpr empty
  rw [incoming, List.append_nil] at all
  exact ⟨empty, later, discarded, after, told, heard, takes, same, all, by decide⟩

/-- The refusal is thrown away, and the acknowledgement is told as if it were a notice. -/
theorem acknowledgement_told_disturbed :
    disturbed.response.chunk = [8] ∧ disturbed.heard = [[8], [5]] ∧
      (disturbed.answered.takeFrom 0).map Prod.fst = some (.chunk [9, 0]) ∧
      disturbed.last.results = ["Watch mode set: 8 (Ok)", "Pushed [08]", "Pushed [05]"] := by
  refine ⟨rfl, rfl, rfl, ?_⟩
  decide

end Confirmed

end Run

end Console

end WatchLink
