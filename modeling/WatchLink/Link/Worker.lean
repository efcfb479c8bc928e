import WatchLink.Link.Basic

/-!
# The worker of a link

The worker dials, announces the outcome, reads until the transport ends, and then tears the link
down. `Link.hear` is what the network does to a worker that waits for it; `Link.work` is one
indivisible change that the worker makes on its own; `Link.rest` lets it go on until it waits again
or has ended.
-/

namespace WatchLink

set_option autoImplicit false

inductive Arrival where
  | accepted
  | unreachable (reason : String)
  /-- The server accepts the connection, and its socket fails the client after the handshake. -/
  | unusable (reason : String)
  /-- Bytes arrive, as many as one read takes up. -/
  | chunk (bytes : Bytes)
  | ended
  | broken (reason : String)
  deriving DecidableEq, Repr

/-- The changes that a worker can still make before it waits again or has ended. -/
def Worker.remaining : Worker → Nat
  | absent | dialing | reading | ended => 0
  | announcing | notifying _ | signalling _ => 1
  | publishingChunk _ => 2
  | finishing .closeInboxes _ => 2
  | finishing .failPending _ => 3
  | finishing .seal _ => 4
  | publishing => 5

namespace Link

/-- What the network does to a worker that waits for it; a worker that does not wait for it hears
nothing. A handshake belongs to the dialing: nobody else can write yet. -/
def hear (arrival : Arrival) (link : Link) : Option Link :=
  match link.worker, arrival with
  | .dialing, .accepted =>
      some { link with worker := .publishing, sent := link.sent ++ link.handshake }
  | .dialing, .unreachable reason =>
      some { link with worker := .finishing .seal (some (.failed link.settings.address reason)) }
  | .dialing, .unusable reason =>
      some { link with
        worker := .finishing .seal (some (.failed link.settings.address reason))
        sent := link.sent ++ link.handshake }
  | .reading, .chunk bytes =>
      if bytes = [] ∨ link.settings.readBufferSize < bytes.length then none
      else some { link.mapExchange (Exchange.answer bytes) with worker := .publishingChunk bytes }
  | .reading, .ended | .reading, .broken _ =>
      some { link with worker := .finishing .seal none }
  | _, _ => none

/-- The worker's next change of its own. Whether the link was closed meanwhile is asked in the same
change that makes it usable. -/
def work (link : Link) : Option Link :=
  match link.worker with
  | .publishing =>
      if link.phase = .closed then some { link with worker := .finishing .seal (some .closed) }
      else some { link with phase := .connected, writable := true, worker := .announcing }
  | .announcing => some { link with signal := link.signal.fire .ready, worker := .reading }
  | .publishingChunk chunk =>
      some { link.mapExchange (Exchange.publish chunk) with worker := .notifying chunk }
  | .notifying chunk =>
      some { link.mapExchange (Exchange.notify chunk) with worker := .reading }
  | .finishing .seal opening =>
      some { link with
        phase := .closed, writable := false, worker := .finishing .failPending opening }
  | .finishing .failPending opening =>
      some { link.mapExchange (Exchange.failPending .interrupted) with
        worker := .finishing .closeInboxes opening }
  | .finishing .closeInboxes opening =>
      some { link.mapExchange Exchange.closeInboxes with
        worker := match opening with
          | none => .ended
          | some opening => .signalling opening }
  | .signalling opening => some { link with signal := link.signal.fire opening, worker := .ended }
  | .absent | .dialing | .reading | .ended => none

/-- Every change brings the worker nearer to where it waits or ends. -/
theorem work_remaining {link later : Link} (worked : link.work = some later) :
    later.worker.remaining < link.worker.remaining := by
  grind [work, Worker.remaining]

def workAtMost : Nat → Link → Link
  | 0, link => link
  | count + 1, link =>
      match link.work with
      | none => link
      | some later => workAtMost count later

/-- The link once its worker waits for the network or has ended. -/
def rest (link : Link) : Link := link.workAtMost link.worker.remaining

theorem work_at_most_of_remaining_le {count : Nat} {link : Link}
    (enough : link.worker.remaining ≤ count) : (link.workAtMost count).work = none := by
  induction count generalizing link with
  | zero =>
      cases worked : link.work with
      | none => exact worked
      | some later =>
          have nearer := work_remaining worked
          omega
  | succ count ih =>
      cases worked : link.work with
      | none => simp only [workAtMost, worked]
      | some later =>
          have nearer := work_remaining worked
          simp only [workAtMost, worked]
          exact ih (by omega)

theorem work_rest (link : Link) : link.rest.work = none :=
  work_at_most_of_remaining_le (Nat.le_refl _)

def deal (arrival : Arrival) (link : Link) : Link :=
  ((link.hear arrival).getD link).rest

/-- The link after the server has written `bytes` at once: one arrival for each read. -/
def receive (bytes : Bytes) (link : Link) : Link :=
  (bytes.pieces link.settings.readBufferSize).foldl
    (fun current piece => current.deal (.chunk piece)) link

end Link

end WatchLink
