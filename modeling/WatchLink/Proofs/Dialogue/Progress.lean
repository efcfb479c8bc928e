import WatchLink.Proofs.Dialogue.Pace

/-!
# What the worker has yet to do

An action that was written comes to something as soon as the worker goes on: it reads the answer,
or it says that the transport has ended, unless it waits for an answer that the server has yet to
write. No turn of anybody else is needed for that, `settles_of_paced`; and what an action has come
to, no turn changes, `outcome_of_turns`.
-/

namespace WatchLink

set_option autoImplicit false

namespace Dialogue

structure Begun (dialogue : Dialogue) : Prop where
  untouched : dialogue.link.phase = .disconnected → dialogue.link.worker = .absent
  unheard : dialogue.link.worker.Unheard →
    dialogue.link.writable = false ∧ dialogue.link.phase ≠ .connected ∧ dialogue.asked = []

section Turns

variable {dialogue later : Dialogue} {turn : Turn}

theorem begun_of_works (begun : dialogue.Begun) {link : Link} {cause : Option Arrival}
    (change : Link.Works dialogue.link cause link) : Begun { dialogue with link } where
  untouched untouched := by
    have before := ((Link.grows_of_works change).unopened untouched).1
    exact ((Link.begun_of_works change).1 (begun.untouched before)).elim
  unheard unheard := (Link.not_unheard_of_works change unheard).elim

theorem asks_of_unwritable {host : Host} {link changed : Link} {task next : Task}
    (unwritable : link.writable = false) (change : Task.Changes host link task next changed) :
    task.asks next = none := by
  cases change with
  | write _ _ _ writable | writeFails _ _ _ _ _ writable | unsayable _ _ _ writable =>
      rw [unwritable] at writable
      cases writable
  | _ => rfl

theorem begun_of_advance (begun : dialogue.Begun) {host : Host} {next : Task} {link : Link}
    (change : Task.Changes host dialogue.link dialogue.task next link) :
    Begun { dialogue with
      task := next, link, asked := dialogue.asked ++ (dialogue.task.asks next).toList } := by
  have shut : dialogue.link.worker.Unheard → link.writable = false ∧ link.phase ≠ .connected ∧
      dialogue.asked ++ (dialogue.task.asks next).toList = [] := by
    intro unheard
    obtain ⟨unwritable, unconnected, unasked⟩ := begun.unheard unheard
    obtain ⟨unwritableStill, unconnectedStill, _⟩ :=
      Link.shut_of_changes unwritable unconnected change
    exact ⟨unwritableStill, unconnectedStill,
      by simp [unasked, asks_of_unwritable unwritable change]⟩
  constructor
  · intro untouched
    have before := ((Task.grows_of_changes change).unopened untouched).1
    exact (Link.worker_of_untouched untouched change).trans (begun.untouched before)
  · intro unheard
    rcases Traffic.worker_of_changes change with same | ⟨untouched, _⟩
    · exact shut (same ▸ unheard)
    · exact shut (by rw [begun.untouched untouched]; trivial)

theorem begun_of_turns (begun : dialogue.Begun) (turned : Turns dialogue turn later) :
    later.Begun := by
  cases turned with
  | begin | hold | reply => exact { begun with }
  | advance host next link change => exact begun_of_advance begun change
  | work link change | arrive arrival link silent change => exact begun_of_works begun change
  | read chunk taken nonempty reading =>
      refine ⟨fun untouched => ?_, fun impossible => impossible.elim⟩
      cases reading.symm.trans (begun.untouched untouched)

theorem begun_of_create {settings : Settings} {link : Link}
    (created : Link.create settings = .ok link) : ({ link } : Dialogue).Begun := by
  rw [Traffic.link_of_create created]
  exact ⟨fun _ => rfl, fun _ => ⟨rfl, by simp, rfl⟩⟩

/-! ## What was known stays known -/

theorem revision_of_turns (turned : Turns dialogue turn later) :
    later.link.revision = dialogue.link.revision := by
  unfold Link.revision
  cases turned with
  | advance host next link change => rw [(Task.grows_of_changes change).settings]
  | work link change | arrive arrival link silent change =>
      rw [(Link.grows_of_works change).settings]
  | _ => rfl

theorem heard_of_turns (turned : Turns dialogue turn later) :
    later.heard = dialogue.heard ∨
      dialogue.link.worker = .reading ∧ ∃ chunk, later.heard = dialogue.heard ++ [chunk] := by
  cases turned with
  | read chunk taken nonempty reading => exact .inr ⟨reading, chunk, rfl⟩
  | _ => exact .inl rfl

theorem rejected_of_works {link changed : Link} {cause : Option Arrival}
    (rejected : link.worker.rejected = true) (change : Link.Works link cause changed) :
    changed.worker.rejected = true := by
  cases change with
  | reject | fire => rfl
  | closeInboxes opening worker place rest =>
      rw [rest]
      cases opening <;> rfl
  | _ => simp_all [Worker.rejected]

theorem rejected_of_turns (paced : dialogue.Paced) (turned : Turns dialogue turn later)
    (rejected : dialogue.link.worker.rejected = true) : later.link.worker.rejected = true := by
  cases turned with
  | advance host next link change =>
      rcases Traffic.worker_of_changes change with same | ⟨untouched, _⟩
      · exact same ▸ rejected
      · have sealed := paced.sealed (Worker.sealed_of_rejected rejected)
        rw [untouched] at sealed
        cases sealed.1
  | work link change | arrive arrival link silent change => exact rejected_of_works rejected change
  | read chunk taken nonempty reading =>
      rw [reading] at rejected
      cases rejected
  | _ => exact rejected

theorem outcome_of_turns (paced : dialogue.Paced) (streams : later.Streams)
    (turned : Turns dialogue turn later) {place : Nat} {outcome : Outcome}
    (known : dialogue.outcome? place = some outcome) : later.outcome? place = some outcome := by
  rw [outcome_of_streams paced.streams] at known
  rw [outcome_of_streams streams, revision_of_turns turned]
  cases heard : dialogue.heard[place]? with
  | some chunk =>
      have still : later.heard[place]? = some chunk := by
        rcases heard_of_turns turned with same | ⟨_, next, longer⟩
        · rw [same, heard]
        · rw [longer, List.getElem?_append_left (List.getElem?_eq_some_iff.mp heard).1, heard]
      simpa only [heard, still] using known
  | none =>
      simp only [heard] at known
      split at known
      next rejected =>
        have still : later.heard = dialogue.heard := by
          rcases heard_of_turns turned with same | ⟨reading, _⟩
          · exact same
          · rw [reading] at rejected
            cases rejected
        simpa only [still, heard, rejected_of_turns paced turned rejected, if_true] using known
      next => cases known

end Turns

/-! ## The worker alone -/

section Settling

variable {dialogue : Dialogue}

theorem rests (dialogue : Dialogue) :
    ∃ (count : Nat) (link : Link),
      dialogue.turns (List.replicate count .work) = some { dialogue with link } ∧
        link.work = none := by
  -- The induction is on the changes that are left to the worker; each one leaves fewer.
  induction left : dialogue.link.worker.remaining using Nat.strongRecOn generalizing dialogue with
  | ind left ih =>
      subst left
      cases worked : dialogue.link.work with
      | none => exact ⟨0, dialogue.link, rfl, worked⟩
      | some next =>
          obtain ⟨count, link, ran, rested⟩ :=
            ih _ (Link.work_remaining worked) { dialogue with link := next } rfl
          refine ⟨count + 1, link, ?_, rested⟩
          simpa [turns, turn, worked, List.replicate_succ] using ran

theorem read_of_paced (paced : dialogue.Paced) (reading : dialogue.link.worker = .reading)
    (pending : dialogue.heard ≠ dialogue.replies) :
    ∃ later, dialogue.turn .read = some later ∧ later.heard = dialogue.replies := by
  rcases single_of_streams paced.streams with ⟨same, _⟩ | ⟨chunk, replies, stream, nonempty, fits⟩
  · exact (pending same.symm).elim
  · have taken : dialogue.stream.take dialogue.link.settings.readBufferSize = chunk := by
      rw [stream, List.take_of_length_le fits]
    have heard := Link.hear_chunk_of_reading reading nonempty fits
    simp only [turn, taken, heard, Option.map_some, Option.some.injEq, exists_eq_left']
    exact replies.symm

/-- The worker alone brings it about that an action comes to something, unless it comes to wait for
an answer that was not written. -/
theorem settles_of_paced (paced : dialogue.Paced) (begun : dialogue.Begun) {place : Nat}
    (asked : place < dialogue.asked.length) :
    ∃ (course : List Turn) (later : Dialogue), (∀ turn ∈ course, turn = .work ∨ turn = .read) ∧
      dialogue.turns course = some later ∧
      (later.outcome? place = none →
        later.link.worker = .reading ∧ dialogue.replies.length ≤ place) := by
  obtain ⟨count, link, ran, rested⟩ := rests dialogue
  have pacedRest := turns_induction Paced paced_of_turns ran paced
  have begunRest := turns_induction Begun begun_of_turns ran begun
  have works : ∀ turn ∈ List.replicate count Turn.work, turn = .work ∨ turn = .read :=
    fun _ member => .inl (List.eq_of_mem_replicate member)
  have heard : ¬link.worker.Unheard := fun unheard => by
    have unasked : dialogue.asked = [] := (begunRest.unheard unheard).2.2
    simp [unasked] at asked
  rcases Link.waits_of_work_eq_none rested with absent | dialing | reading | ended
  · exact (heard (absent ▸ trivial)).elim
  · exact (heard (dialing ▸ trivial)).elim
  · by_cases pending : dialogue.heard = dialogue.replies
    · refine ⟨_, _, works, ran, fun unknown => ⟨reading, ?_⟩⟩
      by_contra answered
      have heard : place < dialogue.heard.length := by
        rw [pending]
        exact Nat.lt_of_not_le answered
      exact outcome_of_heard pacedRest.streams heard unknown
    · obtain ⟨later, took, heard⟩ := read_of_paced pacedRest reading pending
      have pacedLater := paced_of_turns pacedRest (turns_of_turn took)
      have longer : place < later.heard.length := by
        rw [heard]
        exact Nat.lt_of_lt_of_le asked (asked_le_of_pending paced.streams pending)
      refine ⟨List.replicate count .work ++ [.read], later, ?_,
        by simp [turns_append, ran, turns, took],
        fun unknown => (outcome_of_heard pacedLater.streams longer unknown).elim⟩
      intro turn member
      rcases List.mem_append.mp member with before | last
      · exact works turn before
      · exact .inr (List.mem_singleton.mp last)
  · refine ⟨_, _, works, ran, fun unknown => ?_⟩
    rw [outcome_of_streams pacedRest.streams] at unknown
    split at unknown
    · cases unknown
    · simp [ended, Worker.rejected] at unknown

end Settling

end Dialogue

end WatchLink
