import WatchLink.Proofs.Dealings.Steps

/-!
# A link and what its server writes

The server writes bytes whenever it likes, and the worker takes them up in reads of whatever size,
up to its read buffer. A `Reception` is a link in use together with the bytes that were written and
not read. `written` and `heard` are its history, on which no step depends.

The stream ends behind the last byte that was written, unless somebody on this side has closed the
link, which shuts the socket; and it may break anywhere. A link is `Calm` while neither has
happened. On a calm link nothing is left unread once the socket is gone, `Steady.read`.
-/

namespace WatchLink

set_option autoImplicit false

def Worker.Online : Worker → Prop
  | publishing | announcing | reading | publishingChunk _ | notifying _ => True
  | _ => False

instance : DecidablePred Worker.Online
  | .publishing | .announcing | .reading | .publishingChunk _ | .notifying _ => .isTrue trivial
  | .absent | .dialing | .finishing _ _ | .signalling _ | .ended => .isFalse id

structure Reception where
  dealings : Dealings
  /-- What the server has written and the worker has not read. -/
  stream : Bytes := []
  written : Bytes := []
  /-- What the worker has read, read by read. -/
  heard : List Bytes := []
  broken : Bool := false

namespace Reception

inductive Step where
  | deal (step : Dealings.Step)
  | write (bytes : Bytes)
  /-- The worker takes up at most so many bytes. -/
  | read (count : Nat)
  deriving DecidableEq, Repr

def link (state : Reception) : Link := state.dealings.link

def calls (state : Reception) : List (Call × Task) := state.dealings.traffic.calls

/-- Whether a step of the parties agrees with what is in the stream. Chunks come by reads only. -/
def admits (state : Reception) : Dealings.Step → Bool
  | .move (.arrive (.chunk _)) => false
  | .move (.arrive .ended) => state.stream = [] ∨ state.link.phase = .closed
  | _ => true

def breaks : Dealings.Step → Bool
  | .move (.arrive (.broken _)) => true
  | _ => false

def step (state : Reception) : Step → Option Reception
  | .deal step =>
      if state.admits step then
        (state.dealings.step step).map fun dealings =>
          { state with dealings, broken := state.broken || breaks step }
      else none
  | .write bytes =>
      if state.link.worker.Online then
        some { state with stream := state.stream ++ bytes, written := state.written ++ bytes }
      else none
  | .read count =>
      (state.dealings.step (.move (.arrive (.chunk (state.stream.take count))))).map fun dealings =>
        { state with
          dealings
          stream := state.stream.drop count
          heard := state.heard ++ [state.stream.take count] }

def run (state : Reception) : List Step → Option Reception
  | [] => some state
  | step :: later => (state.step step).bind fun after => after.run later

inductive Steps (state : Reception) : Step → Reception → Prop where
  | deal (step : Dealings.Step) (dealings : Dealings) (admitted : state.admits step = true)
      (change : Dealings.Steps state.dealings step dealings) :
      Steps state (.deal step) { state with dealings, broken := state.broken || breaks step }
  | write (bytes : Bytes) (online : state.link.worker.Online) :
      Steps state (.write bytes)
        { state with stream := state.stream ++ bytes, written := state.written ++ bytes }
  | read (count : Nat) (chunk : Bytes) (taken : chunk = state.stream.take count)
      (reading : state.link.worker = .reading) (nonempty : chunk ≠ [])
      (fits : chunk.length ≤ state.link.settings.readBufferSize) :
      Steps state (.read count)
        { state with
          dealings.traffic.link :=
            { state.link.mapExchange (Exchange.answer chunk) with
              worker := .publishingChunk chunk }
          stream := state.stream.drop count
          heard := state.heard ++ [chunk] }

theorem steps_of_step {state later : Reception} {step : Step}
    (stepped : state.step step = some later) : Steps state step later := by
  cases step with
  | deal step =>
      simp only [Reception.step] at stepped
      split at stepped
      next admitted =>
        obtain ⟨dealings, changed, rfl⟩ := Option.map_eq_some_iff.mp stepped
        exact .deal step dealings admitted (Dealings.steps_of_step changed)
      · cases stepped
  | write bytes =>
      simp only [Reception.step] at stepped
      split at stepped
      next online =>
        cases stepped
        exact .write bytes online
      · cases stepped
  | read count =>
      obtain ⟨dealings, changed, rfl⟩ := Option.map_eq_some_iff.mp stepped
      cases Dealings.steps_of_step changed with
      | move _ traffic moved =>
          cases moved with
          | hear _ link change =>
              cases change with
              | lose _ _ ends => rcases ends with impossible | ⟨_, impossible⟩ <;> cases impossible
              | answer place _ nonempty fits => exact .read count _ rfl place nonempty fits

theorem run_cons_eq_some {state last : Reception} {step : Step} {later : List Step} :
    state.run (step :: later) = some last ↔
      ∃ after, state.step step = some after ∧ after.run later = some last := by
  simp [run, Option.bind_eq_some_iff]

/-- Whatever every step keeps, every run keeps. -/
theorem steps_induction (keeps : Reception → Prop)
    (stays : ∀ {state later : Reception} {step : Step}, keeps state → Steps state step later →
      keeps later)
    {state last : Reception} {steps : List Step} (ran : state.run steps = some last)
    (held : keeps state) : keeps last := by
  induction steps generalizing state with
  | nil =>
      cases ran
      exact held
  | cons step rest ih =>
      obtain ⟨after, stepped, finished⟩ := run_cons_eq_some.mp ran
      exact ih finished (stays held (steps_of_step stepped))

def fresh (link : Link) : Reception where
  dealings := { traffic := { link } }

section Steps

variable {state later last : Reception} {step : Step}

/-! ## What is read -/

theorem orderly_of_steps (orderly : state.dealings.Orderly) (stepped : Steps state step later) :
    later.dealings.Orderly := by
  cases stepped with
  | deal step dealings admitted change => exact Dealings.orderly_of_steps orderly change
  | write => exact orderly
  | read count chunk taken reading nonempty fits =>
      exact Dealings.orderly_of_steps orderly
        (.move _ _ (.hear _ _ (.answer reading _ nonempty fits)))

/-! ## A calm link -/

/-- Nobody has begun to close the link, and the stream did not break. -/
structure Calm (state : Reception) : Prop where
  unbroken : state.broken = false
  unclosed : ∀ (number : Nat) (task : Task), state.calls[number]? ≠ some (.close, task)

theorem calm_of_steps (stepped : Steps state step later) (calm : later.Calm) : state.Calm := by
  cases stepped with
  | deal step dealings admitted change =>
      refine ⟨(Bool.or_eq_false_iff.mp calm.unbroken).1, ?_⟩
      intro number task stands
      cases change with
      | move move traffic moved =>
          rcases Traffic.next_standing_of_moves moved stands with still | ⟨_, next, _, still, _⟩
          · exact calm.unclosed number task still
          · exact calm.unclosed number next still
      | hold => exact calm.unclosed number task stands
  | write | read => exact ⟨calm.unbroken, calm.unclosed⟩

/-- Where the phase of a link says that it is closed, its worker is over or was never there. -/
def Settled (link : Link) : Prop :=
  link.phase = .closed → ¬link.worker.Online ∧ link.worker ≠ .dialing

theorem settled_of_changes {host : Host} {link changed : Link} {call : Call} {task next : Task}
    (placed : link.Placed) (reaches : call.Reaches task) (other : call ≠ .close)
    (change : Task.Changes host link task next changed) (settled : Settled link) :
    Settled changed := by
  cases change with
  | start => exact fun impossible => by cases impossible
  | startFails fresh =>
      intro _
      simp [(placed.fresh fresh).1, Worker.Online]
  | close =>
      cases call with
      | close => exact (other rfl).elim
      | _ => exact reaches.elim
  | _ => exact settled

theorem settled_of_works {cause : Option Arrival} {link changed : Link}
    (change : Link.Works link cause changed) (settled : Settled link) : Settled changed := by
  unfold Settled at settled ⊢
  cases change with
  | connect => exact fun impossible => by cases impossible
  | closeInboxes opening worker place rest =>
      intro _
      cases opening <;> simp [rest, Worker.Online]
  | _ => simp_all [Worker.Online, Link.mapExchange]

/-- A worker loses its socket because it finds the link closed, or because the stream is over. -/
theorem online_of_works {cause : Option Arrival} {link changed : Link}
    (change : Link.Works link cause changed) (online : link.worker.Online) :
    changed.worker.Online ∨ link.phase = .closed ∨ cause = some .ended ∨
      ∃ reason, cause = some (.broken reason) := by
  cases change with
  | forestall place closed => exact .inr (.inl closed)
  | lose place arrival ends =>
      rcases ends with rfl | ⟨reason, rfl⟩
      · exact .inr (.inr (.inl rfl))
      · exact .inr (.inr (.inr ⟨reason, rfl⟩))
  | _ => simp_all [Worker.Online]

structure Steady (state : Reception) : Prop where
  settled : Settled state.link
  read : ¬state.link.worker.Online → state.stream = []

theorem settled_of_deal {dealings : Dealings} {step : Dealings.Step}
    (orderly : state.dealings.Orderly) (calm : state.Calm) (settled : Settled state.link)
    (change : Dealings.Steps state.dealings step dealings) : Settled dealings.link := by
  cases change with
  | move move traffic moved =>
      cases moved with
      | begin call => exact settled
      | advance number host call task next link stands change =>
          have other : call ≠ .close := by
            rintro rfl
            exact calm.unclosed number task stands
          exact settled_of_changes orderly.course.placed
            (orderly.course.sound.reaches number call task stands) other change settled
      | work link change | hear arrival link change => exact settled_of_works change settled
  | hold => exact settled

theorem read_of_deal {dealings : Dealings} {step : Dealings.Step}
    (placed : state.link.Placed) (unbroken : breaks step = false) (steady : state.Steady)
    (admitted : state.admits step = true) (change : Dealings.Steps state.dealings step dealings)
    (offline : ¬dealings.link.worker.Online) : state.stream = [] := by
  apply Classical.byContradiction
  intro unread
  have online : state.link.worker.Online := by
    apply Classical.byContradiction
    intro already
    exact unread (steady.read already)
  have unclosed : state.link.phase ≠ .closed := fun closed => (steady.settled closed).1 online
  have ends {cause : Option Arrival} {link : Link} (change : Link.Works state.link cause link)
      (gone : ¬link.worker.Online) :
      cause = some .ended ∨ ∃ reason, cause = some (.broken reason) :=
    ((online_of_works change online).resolve_left gone).resolve_left unclosed
  cases change with
  | move move traffic moved =>
      cases moved with
      | begin call => exact offline online
      | advance number host call task next link stands change =>
          rcases Traffic.worker_of_changes change with same | ⟨fresh, _⟩
          · exact offline (same ▸ online)
          · rw [(placed.fresh fresh).1] at online
            exact online
      | work link change =>
          rcases ends change offline with impossible | ⟨_, impossible⟩ <;> cases impossible
      | hear arrival link change =>
          rcases ends change offline with ended | ⟨reason, broke⟩
          · cases ended
            rcases of_decide_eq_true admitted with empty | closed
            · exact unread empty
            · exact unclosed closed
          · cases broke
            cases unbroken
  | hold => exact offline online

/-- A state in which the parts of the link agree, and which is steady as long as it is calm. -/
structure Kept (state : Reception) : Prop where
  orderly : state.dealings.Orderly
  steady : state.Calm → state.Steady

theorem kept_of_steps (kept : state.Kept) (stepped : Steps state step later) : later.Kept := by
  refine ⟨orderly_of_steps kept.orderly stepped, ?_⟩
  intro calmLater
  have calm := calm_of_steps stepped calmLater
  have steady := kept.steady calm
  cases stepped with
  | deal step dealings admitted change =>
      have unbroken := (Bool.or_eq_false_iff.mp calmLater.unbroken).2
      have placed : state.link.Placed := kept.orderly.course.placed
      have read := read_of_deal placed unbroken steady admitted change
      exact ⟨settled_of_deal kept.orderly calm steady.settled change, read⟩
  | write bytes online => exact ⟨steady.settled, fun offline => (offline online).elim⟩
  | read count chunk taken reading nonempty fits =>
      refine ⟨?_, fun offline => (offline trivial).elim⟩
      intro closed
      have offline := (steady.settled closed).1
      rw [reading] at offline
      exact (offline trivial).elim

end Steps

end Reception

end WatchLink
