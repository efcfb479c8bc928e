import WatchLink.Proofs.Traffic.Sound

/-!
# The course of a worker

A worker passes through its places in one direction, and each place tells what has become of the
signal, of the write half and of the phase by then. `Link.Placed` collects this; every change of the
worker keeps it, and so does every change of a call, as long as no call reports the failure of a
thread on a link that has a worker.
-/

namespace WatchLink

set_option autoImplicit false

namespace Worker

/-- What the signal can have been fired with while the worker stands here. -/
def Heralds (opening : Option Opening) : Worker → Prop
  | absent => opening ≠ some .ready
  | dialing | publishing | announcing => opening = none
  | reading | publishingChunk _ | notifying _ | finishing _ none => opening = some .ready
  | finishing _ (some due) | signalling due => opening = none ∧ due ≠ .ready
  | ended => opening ≠ none

def Unheard : Worker → Prop
  | absent | dialing => True
  | _ => False

def Unopened : Worker → Prop
  | absent | dialing | publishing | finishing .seal (some _) => True
  | _ => False

def Sealed : Worker → Prop
  | finishing .failPending _ | finishing .closeInboxes _ | signalling _ | ended => True
  | _ => False

end Worker

namespace Signal

theorem opening_fire_of_none {signal : Signal} (unfired : signal.opening = none)
    (opening : Opening) : (signal.fire opening).opening = some opening := by
  simp [fire, unfired]

theorem opening_fire_of_some {signal : Signal} {first : Opening}
    (fired : signal.opening = some first) (opening : Opening) :
    (signal.fire opening).opening = some first := by
  simp [fire, fired]

end Signal

namespace Link

@[simp] theorem signal_map_exchange (change : Exchange → Exchange) (link : Link) :
    (link.mapExchange change).signal = link.signal := rfl

/-- What is known of a link by the place of its worker. -/
structure Placed (link : Link) : Prop where
  fresh : link.phase = .disconnected → link.worker = .absent ∧ link.signal.opening = none
  heralds : link.worker.Heralds link.signal.opening
  unheard : link.worker.Unheard → link.sent = []
  unopened : link.worker.Unopened → link.writable = false ∧ link.phase ≠ .connected
  sealed : link.worker.Sealed → link.phase = .closed ∧ link.writable = false

theorem placed_of_create {settings : Settings} {link : Link}
    (created : link = { settings, exchange := { revision := settings.revision } }) :
    link.Placed := by
  subst created
  exact ⟨fun _ => ⟨rfl, rfl⟩, by simp [Worker.Heralds], fun _ => rfl, fun _ => ⟨rfl, by simp⟩,
    fun impossible => impossible.elim⟩

theorem unopened_of_unheard {worker : Worker} (unheard : worker.Unheard) : worker.Unopened := by
  cases worker <;> trivial

section Works

variable {link later : Link} {cause : Option Arrival}

theorem heralds_of_works (heralds : link.worker.Heralds link.signal.opening)
    (change : Works link cause later) : later.worker.Heralds later.signal.opening := by
  cases change with
  | announce place =>
      have unfired : link.signal.opening = none := by
        simpa only [place, Worker.Heralds] using heralds
      exact Signal.opening_fire_of_none unfired .ready
  | fire opening place =>
      simp only [place, Worker.Heralds] at heralds
      simp [Worker.Heralds, Signal.opening_fire_of_none heralds.1]
  | closeInboxes opening worker place rest =>
      cases opening <;> simp_all [Worker.Heralds, mapExchange]
  | fail place | spoil place | forestall place =>
      simp only [place, Worker.Heralds] at heralds
      exact ⟨heralds, by simp⟩
  | sever opening place | reject opening place =>
      rw [place] at heralds
      cases opening <;> exact heralds
  | dial place | lose place | answer place | connect place | publish _ place | notify _ place =>
      rw [place] at heralds
      exact heralds

theorem begun_of_works (change : Works link cause later) :
    link.worker ≠ .absent ∧ later.worker ≠ .absent := by
  cases change with
  | closeInboxes opening worker place rest => cases opening <;> simp_all
  | _ => simp_all

theorem not_unheard_of_works (change : Works link cause later) : ¬later.worker.Unheard := by
  cases change with
  | closeInboxes opening worker place rest => cases opening <;> simp_all [Worker.Unheard]
  | _ => simp [Worker.Unheard]

theorem unopened_of_works (change : Works link cause later) (unopened : later.worker.Unopened) :
    link.worker.Unopened ∧ later.writable = link.writable ∧ later.phase = link.phase := by
  cases change with
  | closeInboxes opening worker place rest => cases opening <;> simp_all [Worker.Unopened]
  | dial place | fail place | spoil place | forestall place =>
      rw [place]
      exact ⟨trivial, rfl, rfl⟩
  | _ => exact unopened.elim

theorem sealed_of_works (change : Works link cause later) (sealed : later.worker.Sealed) :
    (later.phase = .closed ∧ later.writable = false) ∨
      link.worker.Sealed ∧ later.phase = link.phase ∧ later.writable = link.writable := by
  cases change with
  | sever => exact .inl ⟨rfl, rfl⟩
  | reject _ place | closeInboxes _ _ place | fire _ place =>
      rw [place]
      exact .inr ⟨trivial, rfl, rfl⟩
  | _ => exact sealed.elim

theorem placed_of_works (placed : link.Placed) (change : Works link cause later) :
    later.Placed where
  fresh untouched := by
    have before := ((grows_of_works change).unopened untouched).1
    exact ((begun_of_works change).1 (placed.fresh before).1).elim
  heralds := heralds_of_works placed.heralds change
  unheard unheard := (not_unheard_of_works change unheard).elim
  unopened unopened := by
    obtain ⟨before, writable, phase⟩ := unopened_of_works change unopened
    rw [writable, phase]
    exact placed.unopened before
  sealed sealed := by
    rcases sealed_of_works change sealed with now | ⟨before, phase, writable⟩
    · exact now
    · rw [writable, phase]
      exact placed.sealed before

end Works

section Changes

variable {link later : Link} {host : Host} {task next : Task}

theorem shut_of_changes (unwritable : link.writable = false) (unconnected : link.phase ≠ .connected)
    (change : Task.Changes host link task next later) :
    later.writable = false ∧ later.phase ≠ .connected ∧ later.sent = link.sent := by
  cases change with
  | write _ _ _ writable | writeFails _ _ _ _ _ writable | hangUp writable =>
      rw [unwritable] at writable
      cases writable
  | start | startFails | close => exact ⟨unwritable, by simp, rfl⟩
  | _ => exact ⟨unwritable, unconnected, rfl⟩

theorem heralds_of_changes (placed : link.Placed)
    (failing : ∀ reason, task = .failing reason → link.worker = .absent)
    (change : Task.Changes host link task next later) :
    later.worker.Heralds later.signal.opening := by
  cases change with
  | start untouched => exact (placed.fresh untouched).2
  | fireFailure reason =>
      have heralds := placed.heralds
      simp only [failing reason rfl, Worker.Heralds] at heralds ⊢
      cases fired : link.signal.opening <;> simp_all [Signal.fire]
  | _ => exact placed.heralds

theorem worker_of_untouched (untouched : later.phase = .disconnected)
    (change : Task.Changes host link task next later) : later.worker = link.worker := by
  cases change with
  | start => cases untouched
  | _ => rfl

theorem opening_of_changes (change : Task.Changes host link task next later) :
    later.signal.opening = link.signal.opening ∨ ∃ reason, task = .failing reason := by
  cases change with
  | fireFailure reason => exact .inr ⟨reason, rfl⟩
  | _ => exact .inl rfl

/-- A call keeps it, too; where a call reports that there is no thread, there is no worker. -/
theorem placed_of_changes (placed : link.Placed)
    (failing : ∀ reason, task = .failing reason → link.worker = .absent ∧ link.phase = .closed)
    (change : Task.Changes host link task next later) : later.Placed := by
  have grows := Task.grows_of_changes change
  have heralds := heralds_of_changes placed (fun reason fails => (failing reason fails).1) change
  have fresh : later.phase = .disconnected →
      later.worker = .absent ∧ later.signal.opening = none := by
    intro untouched
    have before := (grows.unopened untouched).1
    obtain ⟨absent, unfired⟩ := placed.fresh before
    refine ⟨(worker_of_untouched untouched change).trans absent, ?_⟩
    rcases opening_of_changes change with still | ⟨reason, fails⟩
    · exact still.trans unfired
    · rw [(failing reason fails).2] at before
      cases before
  rcases Traffic.worker_of_changes change with same | ⟨untouched, dialing⟩
  · refine ⟨fresh, heralds, ?_, ?_, ?_⟩
    · rw [same]
      intro unheard
      obtain ⟨unwritable, unconnected⟩ := placed.unopened (unopened_of_unheard unheard)
      rw [(shut_of_changes unwritable unconnected change).2.2]
      exact placed.unheard unheard
    · rw [same]
      intro unopened
      obtain ⟨unwritable, unconnected⟩ := placed.unopened unopened
      obtain ⟨unwritableStill, unconnectedStill, _⟩ :=
        shut_of_changes unwritable unconnected change
      exact ⟨unwritableStill, unconnectedStill⟩
    · rw [same]
      intro sealed
      obtain ⟨closed, unwritable⟩ := placed.sealed sealed
      exact ⟨grows.closed closed, grows.severed closed unwritable⟩
  · have absent := (placed.fresh untouched).1
    obtain ⟨unwritable, unconnected⟩ := placed.unopened (by rw [absent]; trivial)
    obtain ⟨unwritableStill, unconnectedStill, sent⟩ :=
      shut_of_changes unwritable unconnected change
    refine ⟨fresh, heralds, ?_, fun _ => ⟨unwritableStill, unconnectedStill⟩, ?_⟩
    · intro _
      rw [sent]
      exact placed.unheard (by rw [absent]; trivial)
    · rw [dialing]
      exact fun impossible => impossible.elim

end Changes

/-! ## Whether a link was ever usable -/

/-- The link has been usable: the signal has fired for it, or is about to. -/
def Opened (link : Link) : Prop :=
  link.worker = .announcing ∨ link.signal.opening = some .ready

theorem opened_of_writable {link : Link} (placed : link.Placed) (writable : link.writable = true) :
    link.Opened := by
  have heralds := placed.heralds
  have opened : ¬link.worker.Unopened := fun unopened => by
    simp [(placed.unopened unopened).1] at writable
  have unsealed : ¬link.worker.Sealed := fun sealed => by
    simp [(placed.sealed sealed).2] at writable
  unfold Opened
  -- The places that are left lie between opening and sealing.
  generalize link.worker = worker at *
  cases worker with
  | finishing stage opening =>
      cases stage <;> cases opening <;> simp_all [Worker.Heralds, Worker.Unopened, Worker.Sealed]
  | _ => simp_all [Worker.Heralds, Worker.Unopened, Worker.Sealed]

theorem not_unheard_of_opened {link : Link} (placed : link.Placed) (opened : link.Opened) :
    ¬link.worker.Unheard := by
  have heralds := placed.heralds
  rcases opened with place | fired
  · simp [place, Worker.Unheard]
  · rw [fired] at heralds
    intro unheard
    cases place : link.worker <;> simp_all [Worker.Heralds, Worker.Unheard]

theorem opened_of_works {link later : Link} {cause : Option Arrival} (placed : link.Placed)
    (opened : link.Opened) (change : Works link cause later) : later.Opened := by
  rcases opened with announcing | fired
  · have heralds := placed.heralds
    rw [announcing] at heralds
    cases change with
    | announce place => exact .inr (Signal.opening_fire_of_none heralds .ready)
    | _ => simp_all
  · right
    cases change with
    | announce => exact Signal.opening_fire_of_some fired .ready
    | fire opening => exact Signal.opening_fire_of_some fired opening
    | _ => exact fired

theorem opened_of_changes {link later : Link} {host : Host} {task next : Task}
    (placed : link.Placed) (opened : link.Opened)
    (change : Task.Changes host link task next later) : later.Opened := by
  cases change with
  | start untouched =>
      obtain ⟨absent, unfired⟩ := placed.fresh untouched
      simp [Opened, absent, unfired] at opened
  | fireFailure reason =>
      rcases opened with announcing | fired
      · exact .inl announcing
      · exact .inr (Signal.opening_fire_of_some fired _)
  | _ => exact opened

/-- Where a link comes to have been usable, it is usable and nobody has been told. -/
theorem connected_of_opened {link later : Link} {cause : Option Arrival} (placed : link.Placed)
    (unopened : ¬link.Opened) (change : Works link cause later) (opened : later.Opened) :
    link.worker = .publishing ∧ later.phase = .connected ∧ later.writable = true ∧
      later.signal.opening = none := by
  have heralds := placed.heralds
  cases change with
  | connect place =>
      rw [place] at heralds
      exact ⟨place, rfl, rfl, heralds⟩
  | announce place => exact (unopened (.inl place)).elim
  | fire due place =>
      rw [place] at heralds
      simp [Opened, Signal.opening_fire_of_none heralds.1, heralds.2] at opened
  | closeInboxes due worker place rest => cases due <;> simp_all [Opened, mapExchange]
  | _ =>
      rcases opened with impossible | fired
      · cases impossible
      · exact (unopened (.inr fired)).elim

theorem opened_of_opened_changes {link later : Link} {host : Host} {task next : Task}
    (change : Task.Changes host link task next later) (opened : later.Opened) : link.Opened := by
  cases change with
  | start =>
      rcases opened with impossible | fired
      · cases impossible
      · exact .inr fired
  | fireFailure reason =>
      rcases opened with announcing | fired
      · exact .inl announcing
      · right
        cases earlier : link.signal.opening <;> simp_all [Signal.fire]
  | _ => exact opened

/-- The server has accepted the client, and nothing has come in the way of using the link. -/
def Greeted (link : Link) : Prop := link.worker = .publishing ∨ link.Opened

theorem greeted_of_greeted_works {link later : Link} {cause : Option Arrival}
    (placed : link.Placed) (change : Works link cause later) (greeted : later.Greeted) :
    link.Greeted ∨
      link.worker = .dialing ∧ cause = some .accepted ∧
        later.sent = link.sent ++ link.handshake := by
  by_cases opened : link.Opened
  · exact .inl (.inr opened)
  rcases greeted with place | openedLater
  · cases change with
    | dial dialing => exact .inr ⟨dialing, rfl, rfl⟩
    | closeInboxes due worker _ rest => cases due <;> simp_all
    | _ => cases place
  · exact .inl (.inl (connected_of_opened placed opened change openedLater).1)

theorem greeted_of_greeted_changes {link later : Link} {host : Host} {task next : Task}
    (change : Task.Changes host link task next later) (greeted : later.Greeted) :
    link.Greeted := by
  rcases greeted with place | opened
  · cases change with
    | start => cases place
    | _ => exact .inl place
  · exact .inr (opened_of_opened_changes change opened)

end Link

end WatchLink
