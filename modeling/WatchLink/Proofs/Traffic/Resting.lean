import WatchLink.Proofs.Traffic.Closing
import WatchLink.Proofs.Traffic.Runs

/-!
# A link at rest

While a call or the worker is on its way, the phase may be ahead of the write half and of the
inboxes. `Regular` says who is on their way then. So where everybody has come to rest, phase, write
half, slot, inboxes and signal agree, which is `Link.Consistent`.
-/

namespace WatchLink

set_option autoImplicit false

/-- A call that has made the phase closed and has yet to close the inboxes. -/
def Task.Tears : Task → Prop
  | hangingUp | rejecting _ | closingInboxes _ | failing _ | retiring _ => True
  | _ => False

/-- The worker has made the phase closed and has yet to close the inboxes. -/
def Worker.Tears : Worker → Prop
  | finishing .failPending _ | finishing .closeInboxes _ => True
  | _ => False

def Phase.Early (phase : Phase) : Prop := phase = .disconnected ∨ phase = .connecting

/-- The parts of a link agree about how far it has come. -/
structure Link.Consistent (link : Link) : Prop where
  writable : link.writable = true ↔ link.phase = .connected
  awaiting : link.exchange.isAwaiting = true → link.phase = .connected
  closed : link.exchange.closed = true ↔ link.phase = .closed
  fired : link.phase = .connected → link.signal.opening = some .ready

namespace Traffic

/-- The link has been torn down, or somebody is about it. -/
def Attended (traffic : Traffic) : Prop :=
  traffic.TornDown ∨ traffic.link.worker.Tears ∨
    ∃ (number : Nat) (call : Call) (task : Task),
      traffic.calls[number]? = some (call, task) ∧ task.Tears

structure Regular (traffic : Traffic) : Prop where
  early : traffic.link.phase.Early →
    traffic.link.writable = false ∧ ∀ ticket, ¬traffic.Sent ticket
  ready : traffic.link.phase = .connected → traffic.link.writable = true
  attended : traffic.link.phase = .closed → traffic.Attended

/-- No call is on its way, except that it may wait for the signal, and the worker stands still until
the network does something. -/
structure Quiet (traffic : Traffic) : Prop where
  calls : ∀ (number : Nat) (call : Call) (task : Task),
    traffic.calls[number]? = some (call, task) → task.receipt?.isSome = true ∨ task = .awaiting
  worker : traffic.link.work = none

section Moves

variable {traffic later : Traffic} {move : Move}

/-! ## One move -/

theorem early_of_changes {host : Host} {link changed : Link} {task next : Task}
    (change : Task.Changes host link task next changed) (early : changed.phase.Early) :
    link.phase.Early ∧ (link.writable = false → changed.writable = false) := by
  cases change with
  | start fresh => exact ⟨.inl fresh, id⟩
  | startFails | close => rcases early with impossible | impossible <;> cases impossible
  | hangUp => exact ⟨early, fun _ => rfl⟩
  | _ => exact ⟨early, id⟩

theorem early_of_works {cause : Option Arrival} {link changed : Link}
    (change : Link.Works link cause changed) (early : changed.phase.Early) :
    link.phase.Early ∧ (link.writable = false → changed.writable = false) := by
  cases change with
  | connect | sever => rcases early with impossible | impossible <;> cases impossible
  | _ => exact ⟨early, id⟩

theorem early_of_moves (moved : Moves traffic move later) (early : later.link.phase.Early) :
    traffic.link.phase.Early ∧
      (traffic.link.writable = false → later.link.writable = false) := by
  cases moved with
  | begin call => exact ⟨early, id⟩
  | advance number host call task next link stands change => exact early_of_changes change early
  | work link change | hear arrival link change => exact early_of_works change early

theorem ready_of_moves (sound : traffic.Sound) (regular : traffic.Regular)
    (moved : Moves traffic move later) (connected : later.link.phase = .connected) :
    later.link.writable = true := by
  cases moved with
  | begin call => exact regular.ready connected
  | advance number host call task next link stands change =>
      cases change with
      | start | startFails | close => cases connected
      | hangUp =>
          have closed : traffic.link.phase = .closed := sound.grounded number call _ stands
          cases closed.symm.trans connected
      | _ => exact regular.ready connected
  | work link change =>
      cases change with
      | connect => rfl
      | sever => cases connected
      | _ => exact regular.ready connected
  | hear arrival link change => cases change <;> exact regular.ready connected

/-- Whoever is about to tear the link down goes on with it, until it is torn down. -/
theorem attended_of_moves (closed : traffic.link.phase = .closed) (attended : traffic.Attended)
    (moved : Moves traffic move later) : later.Attended := by
  have worker : ∀ {cause : Option Arrival} {link : Link}, traffic.link.worker.Tears →
      Link.Works traffic.link cause link → Attended { traffic with link } := by
    intro cause link tears change
    cases change with
    | reject => exact .inr (.inl trivial)
    | closeInboxes => exact .inl rfl
    | _ => simp_all [Worker.Tears]
  rcases attended with torn | tears | ⟨number, call, task, stands, tears⟩
  · exact .inl ((grows_of_moves moved).exchange.torn torn)
  · cases moved with
    | begin call => exact .inr (.inl tears)
    | advance number host call task next link stands change =>
        rcases worker_of_changes change with same | ⟨fresh, _⟩
        · exact .inr (.inl (same ▸ tears))
        · cases fresh.symm.trans closed
    | work link change | hear arrival link change => exact worker tears change
  · rcases next_standing_of_moves moved stands with stood | ⟨host, next, _, stood, change⟩
    · exact .inr (.inr ⟨number, call, task, stood, tears⟩)
    · generalize same : later.link = link at change
      cases change with
      | hangUp | nothingToHangUp | reject | fireFailure =>
          exact .inr (.inr ⟨number, call, _, stood, trivial⟩)
      | closeInboxes | retire =>
          left
          rw [TornDown, same]
          rfl
      | _ => exact tears.elim

theorem attended_of_closed_moves (regular : traffic.Regular) (moved : Moves traffic move later)
    (closed : later.link.phase = .closed) : later.Attended := by
  by_cases before : traffic.link.phase = .closed
  · exact attended_of_moves before (regular.attended before) moved
  cases moved with
  | begin call => exact (before closed).elim
  | advance number host call task next link stands change =>
      have present := (List.getElem?_eq_some_iff.mp stands).1
      cases change with
      | startFails | close =>
          exact .inr (.inr ⟨number, call, _, List.getElem?_set_self present, trivial⟩)
      | start => cases closed
      | _ => exact (before closed).elim
  | work link change =>
      cases change with
      | sever => exact .inr (.inl trivial)
      | connect => cases closed
      | _ => exact (before closed).elim
  | hear arrival link change => cases change <;> exact (before closed).elim

theorem regular_of_moves (sound : traffic.Sound) (regular : traffic.Regular)
    (moved : Moves traffic move later) : later.Regular where
  early early := by
    obtain ⟨before, still⟩ := early_of_moves moved early
    obtain ⟨unwritable, unsent⟩ := regular.early before
    refine ⟨still unwritable, ?_⟩
    intro ticket sent
    rcases sent_of_moves sound moved sent with earlier | writable
    · exact unsent ticket earlier
    · rw [unwritable] at writable
      cases writable
  ready := ready_of_moves sound regular moved
  attended := attended_of_closed_moves regular moved

end Moves

theorem regular_of_create {settings : Settings} {link : Link}
    (created : Link.create settings = .ok link) : ({ link } : Traffic).Regular := by
  have fresh := link_of_create created
  exact {
    early := fun _ => ⟨by rw [fresh], fun _ ⟨number, _, stands⟩ => by simp at stands⟩
    ready := by simp [fresh]
    attended := by simp [fresh] }

/-! ## Where everybody rests -/

section Rest

variable {traffic : Traffic}

theorem quiet_of_finished
    (finished : ∀ entry ∈ traffic.calls, entry.2.receipt?.isSome = true)
    (stands : traffic.link.work = none) : traffic.Quiet where
  calls _ _ _ found := .inl (finished _ (List.mem_of_getElem? found))
  worker := stands

theorem torn_down_of_quiet (regular : traffic.Regular) (quiet : traffic.Quiet)
    (closed : traffic.link.phase = .closed) : traffic.TornDown := by
  rcases regular.attended closed with torn | tears | ⟨number, call, task, stands, tears⟩
  · exact torn
  · rcases Link.waits_of_work_eq_none quiet.worker with place | place | place | place <;>
      (rw [place] at tears; exact tears.elim)
  · rcases quiet.calls number call task stands with ended | rfl
    · obtain ⟨receipt, ended⟩ := Option.isSome_iff_exists.mp ended
      rw [receipt_eq_some_iff] at ended
      rw [ended] at tears
      exact tears.elim
    · exact tears.elim

/-- Where everybody rests, the outstanding ticket is one of an action that was sent. -/
theorem sent_of_quiet (sound : traffic.Sound) (quiet : traffic.Quiet) {ticket : Nat}
    (outstanding : traffic.link.exchange.awaiting = some ticket) : traffic.Sent ticket := by
  obtain ⟨number, action, task, stands, holds⟩ := sound.owned ticket outstanding
  rcases quiet.calls number _ task stands with ended | rfl
  · obtain ⟨receipt, ended⟩ := Option.isSome_iff_exists.mp ended
    rw [receipt_eq_some_iff] at ended
    subst ended
    rcases holds with claims | ⟨cause, releasing⟩
    · cases receipt with
      | number made =>
          obtain rfl : made = ticket := Option.some.inj claims
          exact ⟨number, action, stands⟩
      | _ => cases claims
    · cases releasing
  · rcases holds with claims | ⟨cause, releasing⟩
    · cases claims
    · cases releasing

theorem connected_of_awaiting (sound : traffic.Sound) (regular : traffic.Regular)
    (quiet : traffic.Quiet) {ticket : Nat}
    (outstanding : traffic.link.exchange.awaiting = some ticket) :
    traffic.link.phase = .connected := by
  have sent := sent_of_quiet sound quiet outstanding
  cases phase : traffic.link.phase with
  | connected => rfl
  | disconnected => exact ((regular.early (.inl phase)).2 ticket sent).elim
  | connecting => exact ((regular.early (.inr phase)).2 ticket sent).elim
  | closed =>
      have come := ((sound.torn (torn_down_of_quiet regular quiet phase)).2 ticket sent).2
      exact (come ((sound.coherent ticket).mpr outstanding)).elim

theorem ready_of_connected (course : traffic.OnCourse) (quiet : traffic.Quiet)
    (connected : traffic.link.phase = .connected) :
    traffic.link.signal.opening = some .ready := by
  rcases Link.waits_of_work_eq_none quiet.worker with place | place | place | place
  · exact ((course.placed.unopened (place ▸ trivial)).2 connected).elim
  · exact ((course.placed.unopened (place ▸ trivial)).2 connected).elim
  · have heralds := course.placed.heralds
    rw [place] at heralds
    exact heralds
  · cases (course.placed.sealed (place ▸ trivial)).1.symm.trans connected

theorem consistent_of_quiet (course : traffic.OnCourse) (regular : traffic.Regular)
    (quiet : traffic.Quiet) : traffic.link.Consistent where
  writable := by
    constructor
    · intro writable
      cases phase : traffic.link.phase with
      | connected => rfl
      | disconnected | connecting =>
          have early : traffic.link.phase.Early := by simp [Phase.Early, phase]
          rw [(regular.early early).1] at writable
          cases writable
      | closed =>
          have severed := (course.sound.torn (torn_down_of_quiet regular quiet phase)).1
          rw [severed.2] at writable
          cases writable
    · exact regular.ready
  awaiting awaits := by
    obtain ⟨ticket, outstanding⟩ := Option.isSome_iff_exists.mp awaits
    exact connected_of_awaiting course.sound regular quiet outstanding
  closed := by
    constructor
    · exact fun torn => (course.sound.torn torn).1.1
    · exact torn_down_of_quiet regular quiet
  fired := ready_of_connected course quiet

end Rest

end Traffic

end WatchLink
