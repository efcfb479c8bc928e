import WatchLink.Proofs.Exchange.Depth
import WatchLink.Proofs.Exchange.History

/-!
# An exchange on record

A record is a run together with everything that was done in it, act by act. Dispatches are numbered
in the order in which they begin, and whatever a tap does is put down to the dispatch in the course
of which it does so.

What the taps do about the chunks they hear is a `Conduct`. `Recorded` says which records there are
under a conduct: every dispatch is told to the taps in turn, and each of them makes just the acts
that the conduct lays down, whatever they are. The taps of a script do at most one thing about a
chunk, and what that is their reactions say: `Conduct.ofTaps`.
-/

namespace WatchLink

set_option autoImplicit false

namespace Exchange

/-- An act that was made, and the dispatch in the course of which a tap made it. What the script
does by itself has no cause. -/
structure Deed extends Entry where
  cause : Option Nat

/-- The chunk of a dispatch. An exchange that was given up dispatches nothing. -/
def Entry.dispatches? (entry : Entry) : Option Bytes :=
  match entry.act, entry.answer with
  | .step (.operation (.dispatch chunk)), .receipt _ => some chunk
  | _, _ => none

def dispatchesIn (deeds : List Deed) : List Bytes := deeds.filterMap fun deed => deed.dispatches?

def ownIn (deeds : List Deed) : List Deed := deeds.filter fun deed => deed.cause.isNone

structure Record where
  run : Run
  deeds : List Deed := []

namespace Record

def start (revision : Revision) : Record := { run := .start revision }

def exchange (record : Record) : Exchange := record.run.desk.exchange

def acts (record : Record) : List Act := record.deeds.map fun deed => deed.act

def entries (record : Record) : List Entry := record.deeds.map fun deed => deed.toEntry

def deed (cause : Option Nat) (act : Act) (record : Record) : Deed where
  found := record.run
  act
  answer := (record.run.act act).1
  cause

def make (cause : Option Nat) (act : Act) (record : Record) : Record where
  run := (record.run.act act).2
  deeds := record.deeds ++ [record.deed cause act]

def next (record : Record) : Nat := (dispatchesIn record.deeds).length

def hear (call : Nat) (chunk : Bytes) (index : Nat) (record : Record) : Record :=
  record.make (some call) (.note index (.heard chunk))

end Record

/-- The acts that a tap makes about a chunk it has just heard, by the number of the tap and by all
that is on record. -/
abbrev Conduct := Record → Nat → Bytes → List Act

/-- What the reactions of the taps call for: an operation, and a note of what came of it. -/
def Conduct.ofTaps : Conduct := fun record index chunk =>
  match record.exchange.calls chunk index with
  | none => []
  | some operation =>
      [.step (.operation operation),
        .note index (.reacted (record.exchange.beginning operation).1)]

/-- What can be done while chunks are dispatched. A tap sets no tap, and nobody gives up an exchange
that is dispatching. -/
def Act.Inner : Act → Prop
  | step (.tap _) | step .giveUp => False
  | _ => True

inductive Part where
  | dispatch (cause : Option Nat) (chunk : Bytes)
  /-- These taps are still to hear the chunk. -/
  | tell (call : Nat) (chunk : Bytes) (indices : List Nat)
  /-- A tap has heard the chunk, and has these acts still to make. -/
  | react (call : Nat) (acts : List Act)

inductive Course (conduct : Conduct) : Part → Record → Record → Prop where
  | dispatch (cause : Option Nat) (chunk : Bytes) (record : Record) {after : Record}
      (told : Course conduct (.tell record.next chunk (List.range record.exchange.taps.length))
        (record.make cause (.step (.operation (.dispatch chunk)))) after) :
      Course conduct (.dispatch cause chunk) record after
  | told (call : Nat) (chunk : Bytes) (record : Record) :
      Course conduct (.tell call chunk []) record record
  | tell (call : Nat) (chunk : Bytes) (index : Nat) {indices : List Nat} (record : Record)
      {between after : Record}
      (reacts : Course conduct (.react call (conduct (record.hear call chunk index) index chunk))
        (record.hear call chunk index) between)
      (onwards : Course conduct (.tell call chunk indices) between after) :
      Course conduct (.tell call chunk (index :: indices)) record after
  | done (call : Nat) (record : Record) : Course conduct (.react call []) record record
  | act (call : Nat) (act : Act) {acts : List Act} (record : Record) {after : Record}
      (inner : act.Inner) (undispatched : ∀ chunk, act ≠ .step (.operation (.dispatch chunk)))
      (unheard : ∀ index chunk, act ≠ .note index (.heard chunk))
      (onwards : Course conduct (.react call acts) (record.make (some call) act) after) :
      Course conduct (.react call (act :: acts)) record after
  | nest (call : Nat) (chunk : Bytes) {acts : List Act} {record between after : Record}
      (nested : Course conduct (.dispatch (some call) chunk) record between)
      (onwards : Course conduct (.react call acts) between after) :
      Course conduct (.react call (.step (.operation (.dispatch chunk)) :: acts)) record after

/-- What is on record once these steps were taken by a script and these answers given to it, each
with what could be seen after it. -/
inductive Recorded (conduct : Conduct) (revision : Revision) :
    List Step → List (Answer × Option Status) → Record → Prop where
  | start : Recorded conduct revision [] [] (.start revision)
  | step {steps : List Step} {answers : List (Answer × Option Status)} {record : Record}
      (recorded : Recorded conduct revision steps answers record) (step : Step)
      (undispatched : record.run.givenUp = false → ∀ chunk, step ≠ .operation (.dispatch chunk)) :
      Recorded conduct revision (steps ++ [step])
        (answers ++ [((record.run.begin step).1, (record.run.begin step).2.status)])
        (record.make none (.step step))
  | dispatch {steps : List Step} {answers : List (Answer × Option Status)} {record after : Record}
      (recorded : Recorded conduct revision steps answers record)
      (present : record.run.givenUp = false) (chunk : Bytes)
      (course : Course conduct (.dispatch none chunk) record after) :
      Recorded conduct revision (steps ++ [.operation (.dispatch chunk)])
        (answers ++ [(.receipt .done, after.run.status)]) after

/-! ## What lasts -/

section Lasting

variable {conduct : Conduct} {part : Part} {before after : Record} {revision : Revision}
  {steps : List Step} {answers : List (Answer × Option Status)}

theorem kept_of_course {Kept : Record → Prop}
    (each : ∀ record cause act, Kept record → Kept (record.make cause act))
    (course : Course conduct part before after) (kept : Kept before) : Kept after := by
  induction course with
  | dispatch cause chunk record _ ih => exact ih (each record cause _ kept)
  | told | done => exact kept
  | tell call chunk index record _ _ reacted onwards =>
      exact onwards (reacted (each record _ _ kept))
  | act call act record _ _ _ _ ih => exact ih (each record _ act kept)
  | nest _ _ _ _ nested onwards => exact onwards (nested kept)

theorem kept_of_recorded {Kept : Record → Prop} (start : Kept (.start revision))
    (each : ∀ record cause act, Kept record → Kept (record.make cause act))
    (recorded : Recorded conduct revision steps answers after) : Kept after := by
  induction recorded with
  | start => exact start
  | step _ step _ ih => exact each _ none (.step step) ih
  | dispatch _ _ _ course ih => exact kept_of_course each course ih

structure Historical (revision : Revision) (record : Record) : Prop where
  entries : record.entries = (Run.start revision).history record.acts
  run : record.run = (Run.start revision).after record.acts

theorem historical_make (historical : Historical revision before) (cause : Option Nat) (act : Act) :
    Historical revision (before.make cause act) := by
  have acts : (before.make cause act).acts = before.acts ++ [act] := by
    simp [Record.acts, Record.make, Record.deed]
  constructor
  · rw [acts, Run.history_append, ← historical.entries, ← historical.run]
    simp [Record.entries, Record.make, Record.deed, Run.history]
  · rw [acts, Run.after_append, ← historical.run]
    rfl

theorem historical_of_recorded (recorded : Recorded conduct revision steps answers after) :
    Historical revision after :=
  kept_of_recorded ⟨rfl, rfl⟩ (fun _ cause act historical => historical_make historical cause act)
    recorded

def Part.Caused : Part → Prop
  | dispatch none _ => False
  | _ => True

theorem own_in_make (record : Record) (call : Nat) (act : Act) :
    ownIn (record.make (some call) act).deeds = ownIn record.deeds := by
  simp [ownIn, Record.make, Record.deed]

theorem own_of_course (course : Course conduct part before after) (caused : part.Caused) :
    ownIn after.deeds = ownIn before.deeds := by
  induction course with
  | dispatch cause chunk record _ ih =>
      cases cause with
      | none => exact caused.elim
      | some call => exact (ih trivial).trans (own_in_make record call _)
  | told | done => rfl
  | tell call chunk index record _ _ reacted onwards =>
      exact (onwards trivial).trans ((reacted trivial).trans (own_in_make record call _))
  | act call act record _ _ _ _ ih => exact (ih trivial).trans (own_in_make record call act)
  | nest _ _ _ _ nested onwards => exact (onwards trivial).trans (nested trivial)

theorem own_of_dispatch {chunk : Bytes}
    (course : Course conduct (.dispatch none chunk) before after) :
    ownIn after.deeds =
      ownIn (before.make none (.step (.operation (.dispatch chunk)))).deeds := by
  cases course with
  | dispatch _ _ _ told => exact own_of_course told trivial

end Lasting

end Exchange

end WatchLink
