import WatchLink.Proofs.Exchange.Scripts
import WatchLink.Proofs.Exchange.Subscriptions

/-!
# What the taps hear

Every tap hears every chunk that is dispatched after it was set, once, whatever the taps do in the
meantime and whether or not the inboxes are closed. What one dispatch comes to is `Tells`; it is
carried along a course, and over a whole record by `Attentive`.
-/

namespace WatchLink

set_option autoImplicit false

def Note.chunk? : Note → Option Bytes
  | heard chunk => some chunk
  | reacted _ => none

namespace Exchange

/-- What a tap hears, with the dispatch that made it hear it. -/
def Deed.hears? (index : Nat) (deed : Deed) : Option (Bytes × Option Nat) :=
  (deed.note? index).bind fun line => line.chunk?.map fun chunk => (chunk, deed.cause)

/-- The chunks that were dispatched, each with the number of its dispatch. -/
def callsIn (first : Nat) (deeds : List Deed) : List (Bytes × Option Nat) :=
  (dispatchesIn deeds).mapIdx fun place chunk => (chunk, some (place + first))

/-- What a tap has heard that was set between `front` and `back`. -/
structure Heard (index : Nat) (front back : List Deed) : Prop where
  before : front.filterMap (fun deed => deed.hears? index) = []
  /-- Every chunk that was dispatched since, and each once. -/
  once : (back.filterMap fun deed => deed.hears? index).Perm
    (callsIn (dispatchesIn front).length back)
  /-- Where no tap dispatches anything, the chunks come in their order. -/
  inOrder : (∀ deed ∈ back, deed.dispatches?.isSome = true → deed.cause = none) →
    (back.filterMap fun deed => deed.hears? index) = callsIn (dispatchesIn front).length back

/-- What has become of a tap that was set between `front` and `back`. -/
structure Informed (index : Nat) (front back : List Deed) (exchange : Exchange) (tap : Tap) :
    Prop where
  found : exchange.taps[index]? = some tap
  heard : Heard index front back
  /-- What was read from the log, and then what is still to be read. -/
  log : back.flatMap (fun deed => deed.reads index) ++ tap.log.queued =
    back.filterMap fun deed => deed.note? index
  /-- Where no tap dispatches anything, the log has the chunks in their order. -/
  chunks : (∀ deed ∈ back, deed.dispatches?.isSome = true → deed.cause = none) →
    (back.filterMap fun deed => deed.note? index).filterMap Note.chunk? = dispatchesIn back

/-! ## What one dispatch comes to -/

theorem calls_in_append (first : Nat) (front back : List Deed) :
    callsIn first (front ++ back) =
      callsIn first front ++ callsIn (first + (dispatchesIn front).length) back := by
  rw [callsIn, dispatches_in_append, List.mapIdx_append, callsIn, callsIn]
  congr 2
  funext place chunk
  rw [Nat.add_assoc, Nat.add_comm first]

theorem calls_in_of_nothing {deeds : List Deed} (first : Nat) (nothing : dispatchesIn deeds = []) :
    callsIn first deeds = [] := by
  rw [callsIn, nothing, List.mapIdx_nil]

/-- What a tap hears while something is done: chunks that are on their way to it already, and those
that are dispatched in the meantime, if there is such a tap. -/
structure Tells (index : Nat) (coming : List (Bytes × Option Nat)) (before : Record)
    (more : List Deed) (after : Record) : Prop where
  deeds : after.deeds = before.deeds ++ more
  present : after.run.givenUp = false
  taps : after.exchange.taps.length = before.exchange.taps.length
  unset : ∀ deed ∈ more, ¬deed.Sets index
  heard : (more.filterMap fun deed => deed.hears? index).Perm
    (coming ++ if index < before.exchange.taps.length then callsIn before.next more else [])

section Telling

variable {index : Nat} {coming later : List (Bytes × Option Nat)} {before between after : Record}
  {front back : List Deed}

theorem tells_nothing (present : before.run.givenUp = false) : Tells index [] before [] before :=
  ⟨by simp, present, rfl, by simp, by simp [callsIn, dispatchesIn]⟩

theorem tells_append (there : Tells index coming before front between)
    (onwards : Tells index later between back after) :
    Tells index (coming ++ later) before (front ++ back) after where
  deeds := by rw [onwards.deeds, there.deeds, List.append_assoc]
  present := onwards.present
  taps := onwards.taps.trans there.taps
  unset := List.forall_mem_append.mpr ⟨there.unset, onwards.unset⟩
  heard := by
    have next : between.next = before.next + (dispatchesIn front).length := by
      rw [Record.next, there.deeds, dispatches_in_append, List.length_append]
      rfl
    have both := there.heard.append onwards.heard
    rw [there.taps, next] at both
    rw [List.filterMap_append, calls_in_append]
    refine both.trans ?_
    -- What is coming now moves in front of what is dispatched before what is coming later.
    split
    · simp only [List.append_assoc]
      exact (List.perm_append_comm_assoc _ _ _).append_left coming
    · simp

theorem unset_of_inner (record : Record) (cause : Option Nat) {act : Act} (inner : act.Inner) :
    ¬(record.deed cause act).Sets index := by
  rintro ⟨⟨reaction, rfl⟩, _⟩
  exact inner

theorem dispatches_of_begun (present : before.run.givenUp = false) (cause : Option Nat)
    (chunk : Bytes) :
    (before.deed cause (.step (.operation (.dispatch chunk)))).dispatches? = some chunk := by
  simp [Entry.dispatches?, Record.deed, Run.act, Run.begin, present]

theorem dispatches_of_undispatched {cause : Option Nat} {act : Act}
    (undispatched : ∀ chunk, act ≠ .step (.operation (.dispatch chunk))) :
    (before.deed cause act).dispatches? = none := by
  unfold Entry.dispatches?
  split
  next chunk _ same _ => exact (undispatched chunk same).elim
  next => rfl

theorem hears_of_unheard {cause : Option Nat} {act : Act}
    (unheard : ∀ used chunk, act ≠ .note used (.heard chunk)) :
    ((before.deed cause act).hears? index).toList = [] := by
  unfold Deed.hears? Entry.note?
  split
  next used line _ same _ =>
    cases line with
    | heard chunk => exact (unheard used chunk same).elim
    | reacted => split <;> rfl
  next => rfl

theorem tells_make (index : Nat) (present : before.run.givenUp = false) (cause : Option Nat)
    {act : Act} (inner : act.Inner) (silent : (before.deed cause act).dispatches? = none) :
    Tells index ((before.deed cause act).hears? index).toList before [before.deed cause act]
      (before.make cause act) where
  deeds := rfl
  present := present_of_inner present inner
  taps := length_taps_of_inner before.run inner
  unset := List.forall_mem_singleton.mpr (unset_of_inner before cause inner)
  heard := by
    have nothing : dispatchesIn [before.deed cause act] = [] := by
      rw [dispatches_in_singleton, silent, Option.toList_none]
    rw [calls_in_of_nothing _ nothing, ite_self, List.append_nil]
    simp [List.filterMap_eq_flatMap_toList]

theorem tells_heard (index : Nat) (present : before.run.givenUp = false) (call : Nat)
    (chunk : Bytes) (used : Nat) :
    Tells index (if used = index then [(chunk, some call)] else []) before
      [before.deed (some call) (.note used (.heard chunk))]
      (before.make (some call) (.note used (.heard chunk))) := by
  have hears : ((before.deed (some call) (.note used (.heard chunk))).hears? index).toList =
      if used = index then [(chunk, some call)] else [] := by
    by_cases same : used = index <;>
      simp [Deed.hears?, Entry.note?, Record.deed, Run.act, present, same, Note.chunk?]
  rw [← hears]
  exact tells_make index present (some call) trivial rfl

/-- A dispatch begins, and the taps hear its chunk before it is over. -/
theorem tells_begun (present : before.run.givenUp = false) (cause : Option Nat) (chunk : Bytes)
    (told : Tells index
      (List.replicate ((List.range before.exchange.taps.length).count index)
        (chunk, some before.next))
      (before.make cause (.step (.operation (.dispatch chunk)))) back after) :
    Tells index [] before (before.deed cause (.step (.operation (.dispatch chunk))) :: back)
      after where
  deeds := by rw [told.deeds, Record.make, List.append_assoc, List.singleton_append]
  present := told.present
  taps := told.taps.trans (length_taps_of_inner before.run trivial)
  unset := by
    rw [List.forall_mem_cons]
    exact ⟨unset_of_inner before cause trivial, told.unset⟩
  heard := by
    have begins : dispatchesIn [before.deed cause (.step (.operation (.dispatch chunk)))] =
        [chunk] := by
      rw [dispatches_in_singleton, dispatches_of_begun present, Option.toList_some]
    have numbered : callsIn before.next
        (before.deed cause (.step (.operation (.dispatch chunk))) :: back) =
          (chunk, some before.next) :: callsIn (before.next + 1) back := by
      rw [← List.singleton_append, calls_in_append, callsIn, begins]
      simp
    have next : (before.make cause (.step (.operation (.dispatch chunk)))).next =
        before.next + 1 := by
      rw [Record.next, Record.make, dispatches_in_append, List.length_append, begins]
      rfl
    have taps : (before.make cause (.step (.operation (.dispatch chunk)))).exchange.taps.length =
        before.exchange.taps.length := length_taps_of_inner before.run trivial
    have heard := told.heard
    rw [taps, next, List.nodup_range.count] at heard
    rw [List.filterMap_cons_none rfl, numbered, List.nil_append]
    by_cases bound : index < before.exchange.taps.length
    · simpa [bound] using heard
    · simpa [bound] using heard

/-- The chunks that are on their way to a tap while this is left to do. -/
def Part.brings (index : Nat) : Part → List (Bytes × Option Nat)
  | tell call chunk indices => List.replicate (indices.count index) (chunk, some call)
  | _ => []

theorem brings_cons (index call used : Nat) (chunk : Bytes) (indices : List Nat) :
    (Part.tell call chunk (used :: indices)).brings index =
      (if used = index then [(chunk, some call)] else []) ++
        (Part.tell call chunk indices).brings index := by
  by_cases same : used = index <;> simp [Part.brings, same, List.replicate_succ]

theorem tells_of_course {conduct : Conduct} {part : Part}
    (course : Course conduct part before after) (present : before.run.givenUp = false) :
    ∃ more, ∀ index, Tells index (part.brings index) before more after := by
  induction course with
  | dispatch cause chunk record _ ih =>
      obtain ⟨more, told⟩ := ih (present_of_inner present trivial)
      exact ⟨_, fun index => tells_begun present cause chunk (told index)⟩
  | told | done => exact ⟨[], fun index => tells_nothing present⟩
  | tell call chunk used record _ _ reacted onwards =>
      obtain ⟨first, reacts⟩ := reacted (present_of_inner present trivial)
      obtain ⟨rest, others⟩ := onwards (reacts used).present
      refine ⟨[record.deed (some call) (.note used (.heard chunk))] ++ (first ++ rest), ?_⟩
      intro index
      have heard := tells_heard index present call chunk used
      rw [brings_cons]
      exact tells_append heard (tells_append (reacts index) (others index))
  | act call act record inner undispatched unheard _ ih =>
      obtain ⟨rest, others⟩ := ih (present_of_inner present inner)
      refine ⟨[record.deed (some call) act] ++ rest, ?_⟩
      intro index
      have made := tells_make index present (some call) inner
        (dispatches_of_undispatched undispatched)
      rw [hears_of_unheard unheard] at made
      exact tells_append made (others index)
  | nest call _ _ _ nested onwards =>
      obtain ⟨first, told⟩ := nested present
      obtain ⟨rest, others⟩ := onwards (told call).present
      exact ⟨_, fun index => tells_append (told index) (others index)⟩

end Telling

/-! ## What a whole record comes to -/

/-- The invariant behind `Informed`. -/
structure Attentive (record : Record) : Prop where
  unheard : ∀ index, record.exchange.taps.length ≤ index →
    record.deeds.filterMap (fun deed => deed.hears? index) = []
  heard : ∀ (index : Nat) (front : List Deed) (setting : Deed) (back : List Deed),
    record.deeds = front ++ setting :: back → setting.Sets index →
      index < record.exchange.taps.length ∧ Heard index front back

section Whole

variable {index : Nat} {front back more : List Deed} {record after : Record}

theorem heard_append (heard : Heard index front back)
    (told : (more.filterMap fun deed => deed.hears? index).Perm
      (callsIn (dispatchesIn (front ++ back)).length more))
    (straight : (∀ deed ∈ more, deed.dispatches?.isSome = true → deed.cause = none) →
      (more.filterMap fun deed => deed.hears? index) =
        callsIn (dispatchesIn (front ++ back)).length more) : Heard index front (back ++ more) := by
  rw [dispatches_in_append, List.length_append] at told straight
  refine ⟨heard.before, ?_, ?_⟩
  · rw [List.filterMap_append, calls_in_append]
    exact heard.once.append told
  · intro uncaused
    rw [List.forall_mem_append] at uncaused
    rw [List.filterMap_append, calls_in_append, heard.inOrder uncaused.1, straight uncaused.2]

theorem attentive_start (revision : Revision) : Attentive (.start revision) where
  unheard index _ := rfl
  heard index front setting back split := by simp [Record.start] at split

theorem dispatches_of_step {step : Step}
    (undispatched : record.run.givenUp = false → ∀ chunk, step ≠ .operation (.dispatch chunk)) :
    (record.deed none (.step step)).dispatches? = none := by
  cases present : record.run.givenUp with
  | false =>
      apply dispatches_of_undispatched
      intro chunk same
      exact undispatched present chunk (Act.step.inj same)
  | true =>
      -- A dispatch is still a step of the script then, and is answered that nothing is there.
      cases step with
      | operation operation =>
          cases operation <;> simp [Record.deed, Run.act, Run.begin, present, Entry.dispatches?]
      | _ => rfl

theorem attentive_step (attentive : Attentive record) (step : Step)
    (undispatched : record.run.givenUp = false → ∀ chunk, step ≠ .operation (.dispatch chunk)) :
    Attentive (record.make none (.step step)) := by
  have grows : record.exchange.taps.length ≤ (record.make none (.step step)).exchange.taps.length :=
    length_taps_le_act record.run (.step step)
  have hears : ∀ index, [record.deed none (.step step)].filterMap
      (fun deed => deed.hears? index) = [] := fun index => List.filterMap_cons_none rfl
  have silent : dispatchesIn [record.deed none (.step step)] = [] := by
    rw [dispatches_in_singleton, dispatches_of_step undispatched, Option.toList_none]
  refine ⟨?_, ?_⟩
  · intro index beyond
    rw [Record.make, List.filterMap_append, hears, List.append_nil]
    exact attentive.unheard index (Nat.le_trans grows beyond)
  · intro index front setting back split sets
    rcases split_snoc split with ⟨earlier, rfl, before⟩ | ⟨rfl, rfl, rfl⟩
    · obtain ⟨bound, heard⟩ := attentive.heard index front setting earlier before sets
      refine ⟨Nat.lt_of_lt_of_le bound grows, heard_append heard ?_ ?_⟩
      · rw [hears, calls_in_of_nothing _ silent]
      · intro _
        rw [hears, calls_in_of_nothing _ silent]
    · obtain ⟨here, reaction, found⟩ := set_of_act sets
      refine ⟨(List.getElem?_eq_some_iff.mp found).1, ?_, ?_, fun _ => rfl⟩
      · exact attentive.unheard index (Nat.le_of_eq here.symm)
      · exact .nil

theorem dispatches_in_of_own
    (uncaused : ∀ deed ∈ more, deed.dispatches?.isSome = true → deed.cause = none) :
    dispatchesIn more = dispatchesIn (ownIn more) := by
  rw [dispatchesIn, dispatchesIn, ownIn, List.filterMap_filter]
  refine List.filterMap_congr ?_
  intro deed member
  cases dispatches : deed.dispatches? with
  | none => simp
  | some chunk => simp [uncaused deed member (by simp [dispatches])]

theorem dispatches_of_sets {entry : Entry} (sets : entry.Sets index) :
    entry.dispatches? = none := by
  obtain ⟨⟨reaction, act⟩, _⟩ := sets
  simp [Entry.dispatches?, act]

theorem split_append {Item : Type} {history later front back : List Item} {entry : Item}
    (split : history ++ later = front ++ entry :: back) :
    (∃ earlier, back = earlier ++ later ∧ history = front ++ entry :: earlier) ∨
      entry ∈ later := by
  rcases List.append_eq_append_iff.mp split with ⟨between, _, rest⟩ | ⟨between, first, rest⟩
  · exact .inr (by simp [rest])
  · cases between with
    | nil =>
        rw [List.nil_append] at rest
        exact .inr (by simp [← rest])
    | cons head tail =>
        obtain ⟨rfl, same⟩ := List.cons.inj rest
        exact .inl ⟨tail, same, first⟩

theorem attentive_dispatch (attentive : Attentive record) (present : record.run.givenUp = false)
    {conduct : Conduct} {chunk : Bytes}
    (course : Course conduct (.dispatch none chunk) record after) :
    Attentive after := by
  obtain ⟨more, tells⟩ := tells_of_course course present
  have own : ownIn more = [record.deed none (.step (.operation (.dispatch chunk)))] := by
    have same := own_of_dispatch course
    rw [(tells 0).deeds, Record.make, ownIn, ownIn, List.filter_append, List.filter_append] at same
    exact List.append_cancel_left same
  refine ⟨?_, ?_⟩
  · intro index beyond
    have told := (tells index).heard
    rw [(tells index).taps] at beyond
    rw [if_neg (by omega)] at told
    rw [(tells index).deeds, List.filterMap_append, attentive.unheard index beyond]
    exact List.perm_nil.mp told
  · intro index front setting back split sets
    rw [(tells index).deeds] at split
    rcases split_append split with ⟨earlier, rfl, before⟩ | member
    · obtain ⟨bound, heard⟩ := attentive.heard index front setting earlier before sets
      have first : record.next = (dispatchesIn (front ++ earlier)).length := by
        rw [Record.next, before, ← List.singleton_append, dispatches_in_append,
          dispatches_in_append, dispatches_in_singleton, dispatches_of_sets sets,
          dispatches_in_append]
        rfl
      have told := (tells index).heard
      rw [if_pos bound, first] at told
      refine ⟨by rw [(tells index).taps]; exact bound, heard_append heard told ?_⟩
      intro uncaused
      have once : dispatchesIn more = [chunk] := by
        rw [dispatches_in_of_own uncaused, own, dispatches_in_singleton,
          dispatches_of_begun present, Option.toList_some]
      rw [callsIn, once] at told ⊢
      exact List.perm_singleton.mp told
    · exact ((tells index).unset setting member sets).elim

theorem attentive_of_recorded {conduct : Conduct} {revision : Revision} {steps : List Step}
    {answers : List (Answer × Option Status)}
    (recorded : Recorded conduct revision steps answers record) : Attentive record := by
  induction recorded with
  | start => exact attentive_start revision
  | step _ step undispatched ih => exact attentive_step ih step undispatched
  | dispatch _ present chunk course ih => exact attentive_dispatch ih present course

theorem chunks_of_hears (index : Nat) (deeds : List Deed) :
    (deeds.filterMap fun deed => deed.hears? index).map Prod.fst =
      (deeds.filterMap fun deed => deed.note? index).filterMap Note.chunk? := by
  rw [List.map_filterMap, List.filterMap_filterMap]
  congr 1
  funext deed
  cases noted : deed.note? index with
  | none => simp [Deed.hears?, noted]
  | some line => cases line <;> simp [Deed.hears?, noted, Note.chunk?]

theorem chunks_of_calls (first : Nat) (deeds : List Deed) :
    (callsIn first deeds).map Prod.fst = dispatchesIn deeds := by
  apply List.ext_getElem?
  intro place
  simp [callsIn, Function.comp_def]

theorem informed_of_heard {setting : Deed} (kept : Kept record) (heard : Heard index front back)
    (split : record.deeds = front ++ setting :: back) (sets : setting.Sets index) :
    ∃ tap, Informed index front back record.exchange tap := by
  obtain ⟨tap, found, _, arrived, received⟩ := kept index front setting back split sets
  refine ⟨tap, found, heard, ?_, ?_⟩
  · rw [← received, Feed.received_append_queued, arrived]
  · intro uncaused
    rw [← chunks_of_hears, heard.inOrder uncaused, chunks_of_calls]

end Whole

/-- Every inbox has been given just what was dispatched while it was open, in that order, and every
tap has heard each chunk that was dispatched since it was set, once. -/
structure Observed (record : Record) : Prop where
  inboxes : ∀ (number : Nat) (front : List Deed) (opening : Deed) (back : List Deed),
    record.deeds = front ++ opening :: back → opening.Opens number →
      ∃ inbox, Supplied number front back record.exchange inbox
  taps : ∀ (index : Nat) (front : List Deed) (setting : Deed) (back : List Deed),
    record.deeds = front ++ setting :: back → setting.Sets index →
      ∃ tap, Informed index front back record.exchange tap

theorem observed_of_recorded {conduct : Conduct} {revision : Revision} {steps : List Step}
    {answers : List (Answer × Option Status)} {record : Record}
    (recorded : Recorded conduct revision steps answers record) : Observed record where
  inboxes number front opening back split opens := by
    have subscribed : Subscribed record :=
      kept_of_recorded (subscribed_start revision)
        (fun _ cause act subscribed => subscribed_make subscribed cause act) recorded
    obtain ⟨inbox, served⟩ := subscribed.served number front opening back split opens
    exact ⟨inbox, supplied_of_served served⟩
  taps index front setting back split sets := by
    have kept : Kept record :=
      kept_of_recorded (kept_start revision) (fun _ cause act kept => kept_make kept cause act)
        recorded
    obtain ⟨_, heard⟩ := (attentive_of_recorded recorded).heard index front setting back split sets
    exact informed_of_heard kept heard split sets

/-- Observers lose, duplicate and reorder nothing, whatever the taps do about what they hear. A
script comes to an end just where its taps do not set each other off for ever; what it does is then
on record, and there the taps do what their reactions call for. -/
theorem observers_over_whole_runs (revision : Revision) :
    (∀ (conduct : Conduct) (steps : List Step) (answers : List (Answer × Option Status))
      (record : Record), Recorded conduct revision steps answers record → Observed record) ∧
    ∀ steps : List Step,
      (((Run.start revision).answers steps).isSome ↔ Terminates [] steps) ∧
      ∀ answers : List (Answer × Option Status),
        (Run.start revision).answers steps = some answers →
        ∃ record, Accounts revision steps answers record ∧ Observed record := by
  refine ⟨fun _ _ _ _ recorded => observed_of_recorded recorded,
    fun steps => ⟨answers_start_isSome_iff revision steps, ?_⟩⟩
  intro answers ran
  obtain ⟨record, accounts⟩ := exists_accounts ran
  exact ⟨record, accounts, observed_of_recorded accounts.recorded⟩

/-- One tap answers chunks that begin with 1 by dispatching another one, and a second tap closes the
inboxes when it hears that one. -/
def relay : List Step :=
  [.operation .subscribe, .tap (some { trigger := some 1, operation := .dispatch [2] }),
    .tap (some { trigger := some 2, operation := .closeInboxes }), .operation (.dispatch [1]),
    .operation (.dispatch [3]), .hold (.inbox 0 .drain), .hold (.takeLog 0), .hold (.takeLog 1)]

def Record.makeAll (record : Record) (deeds : List (Option Nat × Act)) : Record :=
  deeds.foldl (fun found deed => found.make deed.1 deed.2) record

def relaying : Record :=
  (Record.start .v2).makeAll ((relay.take 3).map fun step => (none, .step step))

/-- The second chunk is dispatched while the first tap reacts to the first chunk. -/
def relayedInside : Record :=
  relaying.makeAll [(none, .step (.operation (.dispatch [1]))), (some 0, .note 0 (.heard [1])),
    (some 0, .step (.operation (.dispatch [2]))), (some 1, .note 0 (.heard [2])),
    (some 1, .note 1 (.heard [2])), (some 1, .step (.operation .closeInboxes)),
    (some 1, .note 1 (.reacted .done))]

def relayedFirst : Record :=
  relayedInside.makeAll [(some 0, .note 0 (.reacted .done)), (some 0, .note 1 (.heard [1]))]

def relayed : Record :=
  relayedFirst.makeAll [(none, .step (.operation (.dispatch [3]))), (some 2, .note 0 (.heard [3])),
    (some 2, .note 1 (.heard [3])), (none, .step (.hold (.inbox 0 .drain))),
    (none, .step (.hold (.takeLog 0))), (none, .step (.hold (.takeLog 1)))]

theorem course_relayed_inside :
    Course .ofTaps (.dispatch (some 0) [2])
      (relaying.makeAll
        [(none, .step (.operation (.dispatch [1]))), (some 0, .note 0 (.heard [1]))])
      relayedInside :=
  .dispatch _ _ _ (.tell 1 [2] 0 _ (.done 1 _) (.tell 1 [2] 1 _
    (.act 1 _ _ trivial (by simp) (by simp) (.act 1 _ _ trivial (by simp) (by simp) (.done 1 _)))
    (.told 1 [2] _)))

theorem course_relayed_first : Course .ofTaps (.dispatch none [1]) relaying relayedFirst :=
  .dispatch _ _ _ (.tell 0 [1] 0 _
    (.nest 0 [2] course_relayed_inside
      (.act 0 _ _ trivial (by simp) (by simp) (.done 0 _)))
    (.tell 0 [1] 1 _ (.done 0 _) (.told 0 [1] _)))

theorem recorded_relayed : ∃ answers, Recorded .ofTaps .v2 relay answers relayed := by
  have idle : Recorded .ofTaps .v2 (relay.take 3) _ relaying :=
    .step (.step (.step .start _ (by simp)) _ (by simp)) _ (by simp)
  have first : Recorded .ofTaps .v2 (relay.take 4) _ relayedFirst :=
    .dispatch idle rfl [1] course_relayed_first
  have second : Recorded .ofTaps .v2 (relay.take 5) _
      (relayedFirst.makeAll [(none, .step (.operation (.dispatch [3]))),
        (some 2, .note 0 (.heard [3])), (some 2, .note 1 (.heard [3]))]) :=
    .dispatch first rfl [3] (.dispatch _ _ _ (.tell 2 [3] 0 _ (.done 2 _)
      (.tell 2 [3] 1 _ (.done 2 _) (.told 2 [3] _))))
  exact ⟨_, .step (.step (.step second _ (by simp)) _ (by simp)) _ (by simp)⟩

/-- Both chunks of the first dispatch reached the inbox before it was closed, and the third did not;
each tap heard all three, the second one the nested chunk before the one that led to it. -/
theorem observers_of_relayed :
    ∃ answers, (Run.start .v2).answers relay = some answers ∧
      answers.map Prod.fst =
        [.receipt (.number 0), .receipt (.number 0), .receipt (.number 1), .receipt .done,
          .receipt .done, .takings [.chunk [1], .chunk [2], .disconnected],
          .log [.heard [1], .heard [2], .reacted .done, .heard [3]],
          .log [.heard [2], .reacted .done, .heard [1], .heard [3]]] ∧
      Terminates [] relay ∧ Accounts .v2 relay answers relayed ∧
      dispatchesIn relayed.deeds = [[1], [2], [3]] ∧
      (∃ inbox, Supplied 0 [] (relayed.deeds.drop 1) relayed.exchange inbox) ∧
      ∃ tap, Informed 1 (relayed.deeds.take 2) (relayed.deeds.drop 3) relayed.exchange tap := by
  obtain ⟨_, recorded⟩ := recorded_relayed
  have observed := (observers_over_whole_runs .v2).1 _ _ _ _ recorded
  have script := (observers_over_whole_runs .v2).2 relay
  have ran : (Run.start .v2).answers relay = some _ := rfl
  obtain ⟨record, accounts, _⟩ := script.2 _ ran
  cases recorded_unique accounts.recorded recorded
  refine ⟨_, ran, rfl, script.1.mp (by rw [ran]; rfl), accounts, rfl, ?_, ?_⟩
  · exact observed.inboxes 0 [] _ _ rfl ⟨rfl, rfl⟩
  · exact observed.taps 1 _ _ _ rfl ⟨⟨_, rfl⟩, rfl⟩

end Exchange

end WatchLink
