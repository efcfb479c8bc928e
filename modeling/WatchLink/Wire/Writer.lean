import WatchLink.Wire.Bytes

/-!
# Writers

A writer extends a buffer part by part and may fail on the way. What it has put into the buffer by
then stays there: that a failure leaves nothing behind is not in the type, it has to be shown of a
writer. `Appends` and `Refuses` say what a writer does to every buffer, and follow its parts.
-/

namespace WatchLink

set_option autoImplicit false

abbrev Writer (Failure : Type) := ExceptT Failure (StateM Bytes)

namespace Writer

variable {Failure : Type}

def put (bytes : Bytes) : Writer Failure Unit := modify (· ++ bytes)

def demand (granted : Bool) (cause : Failure) : Writer Failure Unit :=
  if granted then pure () else throw cause

/-- The outcome of a writer, and what it has made of the buffer. -/
def onto (buffer : Bytes) (writer : Writer Failure Unit) : Except Failure Unit × Bytes :=
  writer.run.run buffer

/-- The writer succeeds and adds these bytes, whatever the buffer holds. -/
def Appends (bytes : Bytes) (writer : Writer Failure Unit) : Prop :=
  ∀ buffer, writer.onto buffer = (.ok (), buffer ++ bytes)

def Refuses (cause : Failure) (writer : Writer Failure Unit) : Prop :=
  ∀ buffer, writer.onto buffer = (.error cause, buffer)

section Parts

variable {bytes more : Bytes} {cause other : Failure} {next : Writer Failure Unit}

theorem appends_nothing : Appends [] (pure () : Writer Failure Unit) := fun buffer => by
  rw [List.append_nil]
  rfl

theorem appends_put (bytes : Bytes) : Appends bytes (put bytes : Writer Failure Unit) :=
  fun _ => rfl

theorem refuses_throw (cause : Failure) : Refuses cause (throw cause : Writer Failure Unit) :=
  fun _ => rfl

theorem Appends.after_put (there : Appends more next) (bytes : Bytes) :
    Appends (bytes ++ more) (put bytes >>= fun _ => next) := fun buffer => by
  have parts : (put bytes >>= fun _ => next).onto buffer = next.onto (buffer ++ bytes) := rfl
  rw [parts, there, List.append_assoc]

theorem Appends.after_demand {granted : Bool} (there : Appends bytes next)
    (given : granted = true) : Appends bytes (demand granted cause >>= fun _ => next) := by
  rw [given]
  exact there

/-- A failure is clean where only demands stand before it. -/
theorem Refuses.after_demand {granted : Bool} (there : Refuses other next)
    (given : granted = true) : Refuses other (demand granted cause >>= fun _ => next) := by
  rw [given]
  exact there

theorem refuses_demand {granted : Bool} (denied : granted = false) (cause : Failure)
    (next : Writer Failure Unit) : Refuses cause (demand granted cause >>= fun _ => next) := by
  rw [denied]
  exact fun _ => rfl

end Parts

end Writer

end WatchLink
