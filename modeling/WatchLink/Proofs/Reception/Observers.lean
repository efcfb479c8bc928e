import WatchLink.Proofs.Exchange.Listening
import WatchLink.Proofs.Reception.Steps

/-!
# Who hears what is read

An observer is an inbox or a tap. The chunk that the worker has just read waits to be handed over,
first to the inboxes and then to the taps; every other step leaves what an observer was handed as it
is. `Follows` says what one step comes to, for either kind, and `registered_of_steps` that a step
which makes an observer does nothing else.
-/

namespace WatchLink

set_option autoImplicit false

inductive Observer where
  | inbox (number : Nat)
  | tap (index : Nat)
  deriving DecidableEq, Repr

def Observer.place : Observer → Nat
  | inbox number => number
  | tap index => index

/-- The chunk that was read and has still to go to an observer. -/
def Worker.waiting : Worker → Observer → List Bytes
  | publishingChunk chunk, _ => [chunk]
  | notifying chunk, .tap _ => [chunk]
  | _, _ => []

namespace Exchange

def arrivals (exchange : Exchange) : Observer → Option (List Bytes)
  | .inbox number => exchange.inboxes[number]?.map fun inbox => inbox.feed.arrived
  | .tap index => exchange.taps[index]?.map fun tap => tap.log.arrived.filterMap Note.chunk?

/-- Whether chunks still come to an observer. They always do to a tap. -/
def reaches (exchange : Exchange) : Observer → Bool
  | .inbox number => exchange.inboxes[number]?.any Inbox.attached
  | .tap _ => true

def keeps (exchange : Exchange) : Observer → Bool
  | .inbox number => exchange.inboxes[number]?.any Inbox.held
  | .tap _ => true

structure Leaves (observer : Observer) (before after : Exchange) : Prop where
  arrivals : ∀ chunks, before.arrivals observer = some chunks →
    after.arrivals observer = some chunks
  reaches : before.arrivals observer ≠ none → after.reaches observer = true →
    before.reaches observer = true
  keeps : before.arrivals observer ≠ none → after.keeps observer = true →
    before.keeps observer = true

section Leaves

variable {observer : Observer} {before after : Exchange}

theorem leaves_of_same (inboxes : after.inboxes = before.inboxes)
    (taps : after.taps = before.taps) : Leaves observer before after := by
  have same : after.arrivals observer = before.arrivals observer ∧
      after.reaches observer = before.reaches observer ∧
      after.keeps observer = before.keeps observer := by
    cases observer <;> simp [arrivals, reaches, keeps, inboxes, taps]
  exact ⟨fun _ present => same.1.trans present, fun _ => same.2.1.symm.trans,
    fun _ => same.2.2.symm.trans⟩

theorem leaves_of_inboxes (taps : after.taps = before.taps)
    (kept : ∀ (number : Nat) (inbox : Inbox), before.inboxes[number]? = some inbox →
      ∃ later, after.inboxes[number]? = some later ∧ later.feed.arrived = inbox.feed.arrived ∧
        (later.attached = true → inbox.attached = true) ∧
        (later.held = true → inbox.held = true)) :
    Leaves observer before after := by
  cases observer with
  | tap index => exact ⟨fun chunks => by simp [arrivals, taps], fun _ _ => rfl, fun _ _ => rfl⟩
  | inbox number =>
      cases found : before.inboxes[number]? with
      | none =>
          have absent : before.arrivals (.inbox number) = none := by simp [arrivals, found]
          exact ⟨fun _ present => by simp [absent] at present, fun there => (there absent).elim,
            fun there => (there absent).elim⟩
      | some inbox =>
          obtain ⟨later, foundLater, arrived, attached, held⟩ := kept number inbox found
          refine ⟨?_, fun _ => ?_, fun _ => ?_⟩
          · simp [arrivals, found, foundLater, arrived]
          · simpa [reaches, found, foundLater] using attached
          · simpa [keeps, found, foundLater] using held

theorem leaves_close_inboxes (exchange : Exchange) :
    Leaves observer exchange exchange.closeInboxes := by
  refine leaves_of_inboxes rfl ?_
  intro number inbox found
  refine ⟨inbox.detach, by simp [closeInboxes, found], rfl, ?_, id⟩
  intro impossible
  cases impossible

theorem leaves_subscribe (exchange : Exchange) :
    Leaves observer exchange exchange.subscribe.2 := by
  refine leaves_of_inboxes rfl ?_
  intro number inbox found
  have bound := (List.getElem?_eq_some_iff.mp found).1
  exact ⟨inbox, (List.getElem?_append_left bound).trans found, rfl, id, id⟩

theorem leaves_tap (exchange : Exchange) (reaction : Option Reaction) :
    Leaves observer exchange (exchange.tap reaction).2 := by
  cases observer with
  | inbox number => exact ⟨fun _ => id, fun _ => id, fun _ => id⟩
  | tap index =>
      refine ⟨?_, fun _ _ => rfl, fun _ _ => rfl⟩
      intro chunks present
      obtain ⟨found, here, same⟩ := Option.map_eq_some_iff.mp present
      have bound := (List.getElem?_eq_some_iff.mp here).1
      exact Option.map_eq_some_iff.mpr ⟨found, (List.getElem?_append_left bound).trans here, same⟩

end Leaves

/-! ## Handing over -/

end Exchange

theorem Task.leaves_of_changes {observer : Observer} {host : Host} {link changed : Link}
    {task next : Task} (change : Task.Changes host link task next changed) :
    Exchange.Leaves observer link.exchange changed.exchange := by
  cases change with
  | register action ticket exchange registered =>
      have same := (Exchange.register_ok registered).2.2
      exact Exchange.leaves_of_same (by rw [same]) (by rw [same])
  | release | reject =>
      exact Exchange.leaves_of_same (Exchange.inboxes_conclude _ _) (Exchange.taps_conclude _ _)
  | subscribe => exact Exchange.leaves_subscribe _
  | listen => exact Exchange.leaves_tap _ none
  | retire | closeInboxes => exact Exchange.leaves_close_inboxes _
  | _ => exact Exchange.leaves_of_same rfl rfl

namespace Reception

/-- What a step comes to for an observer: `more` is handed to it, and `fresh` is read. -/
structure Follows (observer : Observer) (state later : Reception) (more fresh : List Bytes) :
    Prop where
  arrivals : ∀ chunks, state.link.exchange.arrivals observer = some chunks →
    later.link.exchange.arrivals observer = some (chunks ++ more)
  reaches : later.link.exchange.reaches observer = true →
    state.link.exchange.reaches observer = true
  keeps : later.link.exchange.keeps observer = true → state.link.exchange.keeps observer = true
  heard : later.heard = state.heard ++ fresh
  shut : later.link.exchange.reaches observer = false → more = []
  /-- What was read and not handed over before is handed over now or later. -/
  waiting : state.link.exchange.reaches observer = true ∨ ¬state.link.worker.Online →
    more ++ later.link.worker.waiting observer = state.link.worker.waiting observer ++ fresh

section Follows

variable {observer : Observer} {state later last : Reception} {step : Step}

end Follows

end Reception

/-! ## Registering -/

namespace Exchange

def count (exchange : Exchange) : Observer → Nat
  | .inbox _ => exchange.inboxes.length
  | .tap _ => exchange.taps.length

end Exchange

theorem Task.count_of_changes {observer : Observer} {host : Host} {link changed : Link}
    {task next : Task} (change : Task.Changes host link task next changed)
    (others : task ≠ .subscribing ∧ task ≠ .listening) :
    changed.exchange.count observer = link.exchange.count observer := by
  cases change with
  | register action ticket exchange registered =>
      cases observer <;> simp [Exchange.count, (Exchange.register_ok registered).2.2]
  | release | reject | retire | closeInboxes =>
      cases observer <;>
        simp [Exchange.count, Link.mapExchange, Exchange.release, Exchange.failPending,
          Exchange.closeInboxes]
  | subscribe => exact (others.1 rfl).elim
  | listen => exact (others.2 rfl).elim
  | _ => rfl

theorem Link.count_of_works {observer : Observer} {cause : Option Arrival} {link changed : Link}
    (change : Link.Works link cause changed) :
    changed.exchange.count observer = link.exchange.count observer := by
  cases change with
  | answer | reject | publish | notify | closeInboxes =>
      cases observer <;>
        simp [Exchange.count, Link.mapExchange, Exchange.answer, Exchange.failPending,
          Exchange.publish, Exchange.notify, Exchange.closeInboxes]
  | _ => rfl

namespace Reception

end Reception

end WatchLink
