import Mathlib.Data.List.Induction
import WatchLink.Proofs.Link.Course

/-!
# Runs, and what was done in them

A run is made longer by one move at its end; `run_induction` is the induction that follows it.
`Traffic.along` collects, in order, what the moves of a run did, so that a theorem can speak of all
the writes of a run, or of all the times its signal was fired. `OnCourse` is the invariant behind
such theorems: the traffic is sound and the worker keeps to its course.
-/

namespace WatchLink

set_option autoImplicit false

namespace Traffic

/-- What the moves of a run did, in order; `sees` says it of a move and the state it is made in. -/
def along {Item : Type} (sees : Traffic → Move → Option Item) : Traffic → List Move → List Item
  | _, [] => []
  | traffic, move :: rest =>
      (sees traffic move).toList ++
        ((traffic.move move).map fun after => along sees after rest).getD []

/-- The call whose move the host refuses, whether or not anything is asked of the host in it. -/
def refuses? (traffic : Traffic) : Move → Option Call
  | .advance number (.refuses _ _) => traffic.calls[number]?.map Prod.fst
  | _ => none

section Runs

variable {Item : Type} {sees : Traffic → Move → Option Item} {first state later last : Traffic}
  {front back run : List Move} {move : Move}

theorem moves_append (first : Traffic) (front back : List Move) :
    first.moves (front ++ back) = (first.moves front).bind fun state => state.moves back := by
  induction front generalizing first with
  | nil => rfl
  | cons move rest ih =>
      cases moved : first.move move with
      | none => simp [moves, moved]
      | some after => simp [moves, moved, ih]

theorem reachable_of_run (reachable : first.Reachable) (ran : first.moves run = some last) :
    last.Reachable := by
  obtain ⟨settings, link, before, created, ranBefore⟩ := reachable
  refine ⟨settings, link, before ++ run, created, ?_⟩
  rw [moves_append, ranBefore, Option.bind_some, ran]

theorem moves_snoc_eq_some (ran : first.moves (front ++ [move]) = some last) :
    ∃ state, first.moves front = some state ∧ state.move move = some last := by
  rw [moves_append, Option.bind_eq_some_iff] at ran
  obtain ⟨state, ranFront, ranMove⟩ := ran
  obtain ⟨after, moved, finished⟩ := moves_cons_eq_some ranMove
  cases finished
  exact ⟨state, ranFront, moved⟩

theorem moves_snoc (ran : first.moves front = some state) (moved : state.move move = some later) :
    first.moves (front ++ [move]) = some later := by
  simp [moves_append, ran, moves, moved]

theorem along_append (ran : first.moves front = some state) (back : List Move) :
    first.along sees (front ++ back) = first.along sees front ++ state.along sees back := by
  induction front generalizing first with
  | nil =>
      cases ran
      rfl
  | cons move rest ih =>
      obtain ⟨after, moved, finished⟩ := moves_cons_eq_some ran
      simp [along, moved, ih finished]

theorem along_snoc (ran : first.moves front = some state) (move : Move) :
    first.along sees (front ++ [move]) = first.along sees front ++ (sees state move).toList := by
  rw [along_append ran]
  cases moved : state.move move <;> simp [along, moved]

theorem moves_split (ran : first.moves front = some state) (moved : state.move move = some later)
    (back : List Move) : first.moves (front ++ move :: back) = later.moves back := by
  simp [moves_append, ran, moves, moved]

theorem along_split (ran : first.moves front = some state) (moved : state.move move = some later)
    (back : List Move) :
    first.along sees (front ++ move :: back) =
      first.along sees front ++ ((sees state move).toList ++ later.along sees back) := by
  rw [along_append ran]
  simp [along, moved]

/-- What holds at the beginning, and of every longer run if of the shorter one, holds of every
run. -/
theorem run_induction (holds : List Move → Traffic → Prop) (begins : holds [] first)
    (goesOn : ∀ {front : List Move} {state later : Traffic} {move : Move},
      first.moves front = some state → holds front state → state.move move = some later →
        holds (front ++ [move]) later)
    (ran : first.moves run = some last) : holds run last := by
  induction run using List.reverseRecOn generalizing last with
  | nil =>
      cases ran
      exact begins
  | append_singleton front move ih =>
      obtain ⟨state, ranFront, moved⟩ := moves_snoc_eq_some ran
      exact goesOn ranFront (ih ranFront) moved

/-- What nobody did in a run, nobody did in its shorter runs or in the move that follows them. -/
theorem not_mem_of_snoc {item : Item} (ran : first.moves front = some state)
    (never : item ∉ first.along sees (front ++ [move])) :
    item ∉ first.along sees front ∧ sees state move ≠ some item := by
  rw [along_snoc ran] at never
  simp only [List.mem_append, Option.mem_toList, not_or] at never
  exact never

end Runs

/-! ## The invariant -/

structure OnCourse (traffic : Traffic) : Prop where
  sound : traffic.Sound
  placed : traffic.link.Placed
  idle : ∀ (number : Nat) (call : Call) (reason : String),
    traffic.calls[number]? = some (call, .failing reason) → traffic.link.worker = .absent

section OnCourse

variable {traffic later : Traffic} {move : Move}

theorem OnCourse.failing (course : traffic.OnCourse) {number : Nat} {call : Call} {reason : String}
    (stands : traffic.calls[number]? = some (call, .failing reason)) :
    traffic.link.worker = .absent ∧ traffic.link.phase = .closed := by
  have settled : traffic.Settled := course.sound.grounded number call _ stands
  exact ⟨course.idle number call reason stands, settled.1.1⟩

theorem placed_of_moves (course : traffic.OnCourse) (moved : Moves traffic move later) :
    later.link.Placed := by
  cases moved with
  | begin call => exact course.placed
  | advance number host call task next link stands change =>
      refine Link.placed_of_changes course.placed ?_ change
      rintro reason rfl
      exact course.failing stands
  | work link change | hear arrival link change => exact Link.placed_of_works course.placed change

theorem idle_of_moves (course : traffic.OnCourse) (moved : Moves traffic move later)
    {number : Nat} {call : Call} {reason : String}
    (stands : later.calls[number]? = some (call, .failing reason)) :
    later.link.worker = .absent := by
  rcases standing_of_moves moved stands with stood | ⟨_, _, begun⟩ | ⟨host, task, _, stood, change⟩
  · obtain ⟨absent, closed⟩ := course.failing stood
    cases moved with
    | begin => exact absent
    | advance _ _ _ _ _ link _ change =>
        rcases worker_of_changes change with same | ⟨untouched, _⟩
        · exact same.trans absent
        · rw [untouched] at closed
          cases closed
    | work link change | hear arrival link change =>
        exact ((Link.begun_of_works change).1 absent).elim
  · cases call <;> cases begun
  · generalize later.link = link at change
    generalize fails : Task.failing reason = next at change
    cases change with
    | startFails fresh => exact (course.placed.fresh fresh).1
    | unsayable _ ticket | writeFails _ ticket | explain ticket => cases ticket <;> cases fails
    | _ => cases fails

theorem on_course_of_moves (course : traffic.OnCourse) (moved : Moves traffic move later) :
    later.OnCourse where
  sound := sound_of_moves course.sound moved
  placed := placed_of_moves course moved
  idle _ _ _ stands := idle_of_moves course moved stands

theorem on_course_of_create {settings : Settings} {link : Link}
    (created : Link.create settings = .ok link) : ({ link } : Traffic).OnCourse where
  sound := sound_of_create created
  placed := Link.placed_of_create (link_of_create created)
  idle _ _ _ stands := by simp at stands

theorem on_course_of_run (course : traffic.OnCourse) {run : List Move}
    (ran : traffic.moves run = some later) : later.OnCourse :=
  moves_induction OnCourse on_course_of_moves ran course

theorem on_course_of_reachable (reachable : traffic.Reachable) : traffic.OnCourse := by
  obtain ⟨settings, link, run, created, ran⟩ := reachable
  exact on_course_of_run (on_course_of_create created) ran

theorem opened_of_moves (course : traffic.OnCourse) (opened : traffic.link.Opened)
    (moved : Moves traffic move later) : later.link.Opened := by
  cases moved with
  | begin call => exact opened
  | advance number host call task next link stands change =>
      exact Link.opened_of_changes course.placed opened change
  | work link change | hear arrival link change =>
      exact Link.opened_of_works course.placed opened change

end OnCourse

/-! ## The server has answered -/

section Greeting

variable {first state later last : Traffic} {front run : List Move} {move : Move}

/-- Nothing that was written is taken back. -/
theorem sent_prefix_of_moves (moved : Moves state move later) :
    state.link.sent <+: later.link.sent := by
  cases moved with
  | begin call => exact List.prefix_rfl
  | advance number host call task next link stands change =>
      cases change with
      | write | writeFails | hangUp => exact List.prefix_append _ _
      | _ => exact List.prefix_rfl
  | work link change => cases change <;> exact List.prefix_rfl
  | hear arrival link change =>
      cases change with
      | dial | spoil => exact List.prefix_append _ _
      | _ => exact List.prefix_rfl

theorem handshake_of_moves (moved : Moves state move later) :
    later.link.handshake = state.link.handshake := by
  unfold Link.handshake Link.revision
  rw [(grows_of_moves moved).settings]

theorem greeted_of_greeted_moves (course : state.OnCourse) (moved : Moves state move later)
    (greeted : later.link.Greeted) :
    state.link.Greeted ∨
      move = .arrive .accepted ∧ later.link.sent = later.link.handshake := by
  have same := handshake_of_moves moved
  cases moved with
  | begin call => exact .inl greeted
  | advance number host call task next link stands change =>
      exact .inl (Link.greeted_of_greeted_changes change greeted)
  | work link change =>
      rcases Link.greeted_of_greeted_works course.placed change greeted with
        before | ⟨_, impossible, _⟩
      · exact .inl before
      · cases impossible
  | hear arrival link change =>
      rcases Link.greeted_of_greeted_works course.placed change greeted with
        before | ⟨dialing, accepted, sent⟩
      · exact .inl before
      · right
        have silent := course.placed.unheard (by rw [dialing]; trivial)
        rw [silent, List.nil_append, ← same] at sent
        exact ⟨by rw [Option.some.inj accepted], sent⟩

theorem greeted_of_run (course : first.OnCourse) (ungreeted : ¬first.link.Greeted)
    (ran : first.moves run = some last) (greeted : last.link.Greeted) :
    .arrive .accepted ∈ run ∧ last.link.handshake <+: last.link.sent := by
  refine run_induction
    (fun run state => state.link.Greeted →
      .arrive .accepted ∈ run ∧ state.link.handshake <+: state.link.sent)
    (fun impossible => (ungreeted impossible).elim) ?_ ran greeted
  intro front state later move ranFront known moved greetedLater
  have moves := moves_of_move moved
  rcases greeted_of_greeted_moves (on_course_of_run course ranFront) moves greetedLater with
    before | ⟨rfl, sent⟩
  · obtain ⟨accepted, shaken⟩ := known before
    rw [handshake_of_moves moves]
    exact ⟨List.mem_append_left _ accepted, shaken.trans (sent_prefix_of_moves moves)⟩
  · exact ⟨List.mem_append_right _ (List.mem_singleton_self _), sent ▸ List.prefix_rfl⟩

theorem not_greeted_of_create {settings : Settings} {link : Link}
    (created : Link.create settings = .ok link) : ¬link.Greeted := by
  simp [Link.Greeted, Link.Opened, link_of_create created]

end Greeting

/-! ## Who has sent what -/

/-- A call that sent this action has returned, and not with an error. -/
def Spoke (traffic : Traffic) (number : Nat) (action : Action) : Prop :=
  traffic.calls[number]? = some (.send action, .finished .done) ∨
    ∃ ticket, traffic.calls[number]? = some (.act action, .finished (.number ticket))

def sends? (traffic : Traffic) : Move → Option (Nat × Action)
  | .advance number host =>
      match traffic.calls[number]? with
      | some (_, .writing action ticket) =>
          if (traffic.move (.advance number host)).bind (fun later => later.receipt? number) =
              some (Task.sentReceipt ticket) then
            some (number, action)
          else none
      | _ => none
  | _ => none

section Sending

variable {traffic later : Traffic} {move : Move} {number : Nat} {action : Action}

theorem receipt_eq_some_iff (task : Task) (receipt : Receipt) :
    task.receipt? = some receipt ↔ task = .finished receipt := by
  cases task <;> simp [Task.receipt?]

theorem write_of_changes {host : Host} {link changed : Link} {ticket : Option Nat}
    (change : Task.Changes host link (.writing action ticket)
      (.finished (Task.sentReceipt ticket)) changed) :
    link.writable = true ∧ ∃ bytes, action.encode link.revision = .ok bytes ∧
      changed = { link with sent := link.sent ++ bytes } := by
  generalize reported : Task.finished (Task.sentReceipt ticket) = next at change
  cases change with
  | write _ _ bytes writable encoded => exact ⟨writable, bytes, encoded, rfl⟩
  | unsayable | writeFails => cases ticket <;> cases reported
  | nothingToWriteTo => cases reported

theorem sends_eq_some_iff (moved : traffic.move move = some later) :
    traffic.sends? move = some (number, action) ↔
      ∃ host call ticket, move = .advance number host ∧
        traffic.calls[number]? = some (call, .writing action ticket) ∧
        later.calls[number]? = some (call, .finished (Task.sentReceipt ticket)) := by
  constructor
  · intro sends
    cases move with
    | advance moving host =>
        simp only [sends?] at sends
        split at sends
        next call written ticket stands =>
          split at sends
          next reported =>
            cases sends
            refine ⟨host, call, ticket, rfl, stands, ?_⟩
            rw [moved, Option.bind_some, receipt?] at reported
            rcases next_standing_of_moves (moves_of_move moved) stands with
              still | ⟨_, next, _, now, _⟩
            · simp [still, Task.receipt?] at reported
            · rw [now, Option.bind_some, receipt_eq_some_iff] at reported
              rw [now, reported]
          next => cases sends
        next => cases sends
    | _ => cases sends
  · rintro ⟨host, call, ticket, rfl, stands, ended⟩
    simp [sends?, stands, moved, receipt?, ended, Task.receipt?]

theorem spoke_stays (moved : Moves traffic move later) (spoke : traffic.Spoke number action) :
    later.Spoke number action := by
  have stays : ∀ {call : Call} {receipt : Receipt},
      traffic.calls[number]? = some (call, .finished receipt) →
        later.calls[number]? = some (call, .finished receipt) := by
    intro call receipt stands
    rcases next_standing_of_moves moved stands with still | ⟨_, _, _, _, change⟩
    · exact still
    · cases change
  rcases spoke with sent | ⟨ticket, acted⟩
  · exact .inl (stays sent)
  · exact .inr ⟨ticket, stays acted⟩

theorem writes_of_changes {host : Host} {link changed : Link} {task : Task}
    (reaches : (Call.send action).Reaches task)
    (change : Task.Changes host link task (.finished .done) changed) :
    task = .writing action none := by
  generalize reported : Task.finished .done = next at change
  cases change with
  | write written ticket =>
      obtain ⟨rfl, rfl⟩ := reaches
      rfl
  | unsayable _ ticket | writeFails _ ticket | explain ticket => cases ticket <;> cases reported
  | start | closeAgain | closeInboxes | learn => exact reaches.elim
  | _ => cases reported

/-- Whoever has sent an action wrote it in some move. -/
theorem spoke_iff_of_move (sound : traffic.Sound) (moved : traffic.move move = some later) :
    later.Spoke number action ↔
      traffic.Spoke number action ∨ traffic.sends? move = some (number, action) := by
  have moves := moves_of_move moved
  rw [sends_eq_some_iff moved]
  constructor
  · rintro (sent | ⟨ticket, acted⟩)
    · rcases standing_of_moves moves sent with
        stood | ⟨_, _, begun⟩ | ⟨host, task, own, stood, change⟩
      · exact .inl (.inl stood)
      · cases begun
      · obtain rfl := writes_of_changes (sound.reaches number _ task stood) change
        exact .inr ⟨host, _, none, own, stood, sent⟩
    · rcases standing_of_moves moves acted with
        stood | ⟨_, _, begun⟩ | ⟨host, task, own, stood, change⟩
      · exact .inl (.inr ⟨ticket, stood⟩)
      · cases begun
      · obtain ⟨_, rfl⟩ := sends_of_changes (sound.reaches number _ task stood) change
        exact .inr ⟨host, _, some ticket, own, stood, acted⟩
  · rintro (spoke | ⟨host, call, ticket, rfl, stands, ended⟩)
    · exact spoke_stays moves spoke
    · have reaches := sound.reaches number call _ stands
      cases call with
      | send sent =>
          obtain ⟨rfl, rfl⟩ := reaches
          exact .inl ended
      | act acted =>
          obtain ⟨rfl, registered⟩ := reaches
          obtain ⟨made, rfl⟩ := Option.isSome_iff_exists.mp registered
          exact .inr ⟨made, ended⟩
      | _ => exact reaches.elim

/-- An action is written while the link is usable, and its bytes go out. -/
theorem written_of_sends (moved : traffic.move move = some later)
    (sends : traffic.sends? move = some (number, action)) :
    traffic.link.writable = true ∧ ∃ bytes, action.encode traffic.link.revision = .ok bytes ∧
      later.link = { traffic.link with sent := traffic.link.sent ++ bytes } := by
  obtain ⟨host, call, ticket, rfl, stands, ended⟩ := (sends_eq_some_iff moved).mp sends
  cases moves_of_move moved with
  | advance _ _ mover task next link stood change =>
      rw [stands] at stood
      cases stood
      have present := (List.getElem?_eq_some_iff.mp stands).1
      rw [List.getElem?_set_self present] at ended
      cases ended
      exact write_of_changes change

/-- Nobody has sent anything on a link that was never usable. -/
theorem opened_of_spoke (reachable : traffic.Reachable) (spoke : traffic.Spoke number action) :
    traffic.link.Opened := by
  obtain ⟨settings, link, run, created, ran⟩ := reachable
  refine run_induction
    (fun _ state => state.Spoke number action → state.link.Opened)
    ?_ ?_ ran spoke
  · intro spokeFirst
    simp [Spoke] at spokeFirst
  · intro front state later move ranFront opened moved spokeLater
    have course := on_course_of_run (on_course_of_create created) ranFront
    refine opened_of_moves course ?_ (moves_of_move moved)
    rcases (spoke_iff_of_move course.sound moved).mp spokeLater with before | sends
    · exact opened before
    · exact Link.opened_of_writable course.placed (written_of_sends moved sends).1

end Sending

end Traffic

end WatchLink
