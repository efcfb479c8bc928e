/-!
# Feeds

A feed is a queue that one side fills and one holder empties. It keeps everything that ever arrived
and how much of it the holder has taken, so the order and the number of items are never in doubt: an
arrival appends, a look moves the mark.
-/

namespace WatchLink

set_option autoImplicit false

/-- Items in order of arrival, of which the first `taken` have been handed to the holder. -/
structure Feed (Item : Type) where
  arrived : List Item := []
  taken : Nat := 0
  deriving DecidableEq, Repr

namespace Feed

variable {Item : Type}

def queued (feed : Feed Item) : List Item := feed.arrived.drop feed.taken

def received (feed : Feed Item) : List Item := feed.arrived.take feed.taken

def push (item : Item) (feed : Feed Item) : Feed Item :=
  { feed with arrived := feed.arrived ++ [item] }

def next (feed : Feed Item) : Option (Item × Feed Item) :=
  feed.arrived[feed.taken]?.map fun item => (item, { feed with taken := feed.taken + 1 })

def emptied (feed : Feed Item) : Feed Item := { feed with taken := feed.arrived.length }

theorem received_append_queued (feed : Feed Item) : feed.received ++ feed.queued = feed.arrived :=
  List.take_append_drop ..

theorem next_eq_none_iff (feed : Feed Item) : feed.next = none ↔ feed.queued = [] := by
  simp [next, queued]

theorem next_some {feed later : Feed Item} {item : Item} (found : feed.next = some (item, later)) :
    feed.queued = item :: later.queued ∧ later.received = feed.received ++ [item] := by
  simp only [next, Option.map_eq_some_iff, Prod.mk.injEq] at found
  obtain ⟨_, present, same, moved⟩ := found
  subst same moved
  obtain ⟨bound, here⟩ := List.getElem?_eq_some_iff.mp present
  subst here
  exact ⟨List.drop_eq_getElem_cons bound, List.take_succ_eq_append_getElem bound⟩

end Feed

end WatchLink
