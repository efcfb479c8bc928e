import Mathlib.Data.List.Nodup
import WatchLink.Exchange.Dispatch

/-!
# How deep dispatches nest

What a tap does about a chunk is said by its reaction, and reactions never change while chunks are
dispatched. So whether a dispatch ends is a matter of the reactions alone: `Settles`. In a chain of
dispatches that comes to an end no chunk stands twice, and every chunk but the first is the one of
some tap. Hence the depth that `dispatch` allows is enough for whatever ends at all:
`dispatch_isSome_iff`.
-/

namespace WatchLink

set_option autoImplicit false

namespace Reaction

def calls (chunk : Bytes) (reaction : Reaction) : Option Operation :=
  if reaction.trigger = none ∨ reaction.trigger = chunk.head? then some reaction.operation else none

def provokes (chunk : Bytes) (reaction : Reaction) : Option Bytes :=
  match reaction.calls chunk with
  | some (.dispatch next) => some next
  | _ => none

theorem provokes_eq_some_iff (chunk next : Bytes) (reaction : Reaction) :
    reaction.provokes chunk = some next ↔ reaction.calls chunk = some (.dispatch next) := by
  rw [provokes]
  split <;> simp_all

theorem calls_eq_ite (chunk : Bytes) (reaction : Reaction) :
    reaction.calls chunk =
      if reaction.triggeredBy chunk then some reaction.operation else none := by
  unfold calls triggeredBy
  cases reaction.trigger with
  | none => simp
  | some byte =>
      have same : some byte = chunk.head? ↔ (chunk.head? == some byte) = true := by
        rw [beq_iff_eq, eq_comm]
      simp only [reduceCtorEq, false_or, same]

end Reaction

namespace Exchange

def reactions (exchange : Exchange) : List (Option Reaction) := exchange.taps.map Tap.reaction

def calls (chunk : Bytes) (index : Nat) (exchange : Exchange) : Option Operation :=
  exchange.reactions[index]?.join.bind (Reaction.calls chunk)

/-- The chunks that are dispatched because of a chunk. -/
def provoked (reactions : List (Option Reaction)) (chunk : Bytes) : List Bytes :=
  reactions.filterMap fun reaction => reaction.bind (Reaction.provokes chunk)

/-- Every chain of dispatches that begins with this chunk is at most so long. -/
def Settles (reactions : List (Option Reaction)) : Nat → Bytes → Prop
  | 0, _ => False
  | depth + 1, chunk => ∀ next ∈ provoked reactions chunk, Settles reactions depth next

/-! ## Chains -/

section Chains

variable {reactions : List (Option Reaction)}

theorem settles_succ {depth : Nat} {chunk : Bytes} (settles : Settles reactions depth chunk) :
    Settles reactions (depth + 1) chunk := by
  induction depth generalizing chunk with
  | zero => exact settles.elim
  | succ depth ih =>
      intro next provoked
      exact ih (settles next provoked)

theorem settles_of_le {depth deeper : Nat} {chunk : Bytes} (le : depth ≤ deeper)
    (settles : Settles reactions depth chunk) : Settles reactions deeper chunk := by
  induction le with
  | refl => exact settles
  | step _ ih => exact settles_succ ih

def dispatched (reactions : List (Option Reaction)) : List Bytes :=
  reactions.filterMap fun reaction => reaction.bind fun found =>
    match found.operation with
    | .dispatch next => some next
    | _ => none

theorem mem_dispatched_of_provoked {chunk next : Bytes} (mem : next ∈ provoked reactions chunk) :
    next ∈ dispatched reactions := by
  obtain ⟨reaction, present, provokes⟩ := List.mem_filterMap.mp mem
  obtain ⟨found, same, fires⟩ := Option.bind_eq_some_iff.mp provokes
  have called : found.operation = .dispatch next := by
    have calls := (found.provokes_eq_some_iff chunk next).mp fires
    simp only [Reaction.calls, Option.ite_none_right_eq_some, Option.some.injEq] at calls
    exact calls.2
  refine List.mem_filterMap.mpr ⟨reaction, present, Option.bind_eq_some_iff.mpr ⟨found, same, ?_⟩⟩
  simp [called]

/-- A chunk that settles no sooner than at some depth begins a chain of that many different ones. -/
theorem chain_of_settles (depth : Nat) {chunk : Bytes}
    (settles : Settles reactions (depth + 1) chunk) (unsettled : ¬Settles reactions depth chunk) :
    ∃ chain : List Bytes, chain.length = depth ∧ chain.Nodup ∧ chain ⊆ dispatched reactions ∧
      ∀ link ∈ chain, Settles reactions depth link := by
  induction depth generalizing chunk with
  | zero => exact ⟨[], rfl, List.nodup_nil, by simp, by simp⟩
  | succ depth ih =>
      have late : ∃ next ∈ provoked reactions chunk, ¬Settles reactions depth next := by
        by_contra none
        apply unsettled
        intro next provoked
        by_contra unsettling
        exact none ⟨next, provoked, unsettling⟩
      obtain ⟨next, provoked, later⟩ := late
      obtain ⟨chain, length, nodup, subset, sooner⟩ := ih (settles next provoked) later
      refine ⟨next :: chain, by simp [length], ?_, ?_, ?_⟩
      · refine List.nodup_cons.mpr ⟨?_, nodup⟩
        intro member
        exact later (sooner next member)
      · exact List.cons_subset.mpr ⟨mem_dispatched_of_provoked provoked, subset⟩
      · intro link member
        rcases List.mem_cons.mp member with rfl | rest
        · exact settles link provoked
        · exact settles_succ (sooner link rest)

/-- What settles at all settles with one dispatch for each tap inside the first. -/
theorem settles_of_settles {depth : Nat} {chunk : Bytes}
    (settles : Settles reactions depth chunk) : Settles reactions (reactions.length + 1) chunk := by
  induction depth with
  | zero => exact settles.elim
  | succ depth ih =>
      by_cases sooner : Settles reactions depth chunk
      · exact ih sooner
      · obtain ⟨chain, length, nodup, subset, _⟩ := chain_of_settles depth settles sooner
        have within : chain.length ≤ (dispatched reactions).length :=
          nodup.length_le_of_subset subset
        have few : (dispatched reactions).length ≤ reactions.length :=
          List.length_filterMap_le _ _
        exact settles_of_le (by omega) settles

end Chains

/-! ## What telling a tap comes to -/

section Telling

variable {nested : Bytes → Exchange → Option Exchange} {chunk : Bytes} {exchange later : Exchange}
  {index : Nat}

/-- A tap notes a chunk, and then its operation and what came of it, if it performs one. -/
theorem tell_eq (nested : Bytes → Exchange → Option Exchange) (chunk : Bytes) (exchange : Exchange)
    (index : Nat) :
    tell nested chunk exchange index =
      match exchange.calls chunk index with
      | none => some (exchange.note index (.heard chunk))
      | some operation =>
          (performWith nested operation (exchange.note index (.heard chunk))).map
            fun (receipt, after) => after.note index (.reacted receipt) := by
  have found : exchange.reactions[index]?.join = exchange.taps[index]?.bind Tap.reaction := by
    rw [reactions, List.getElem?_map]
    cases exchange.taps[index]? <;> rfl
  simp only [tell, calls, found]
  cases exchange.taps[index]?.bind Tap.reaction with
  | none => rfl
  | some reaction =>
      simp only [Option.bind_some, Reaction.calls_eq_ite]
      by_cases triggered : reaction.triggeredBy chunk <;> simp [triggered]

theorem tell_eq_of_calm (calm : exchange.calls chunk index = none) :
    tell nested chunk exchange index = some (exchange.note index (.heard chunk)) := by
  rw [tell_eq, calm]

theorem tell_eq_some_iff_of_called {operation : Operation}
    (called : exchange.calls chunk index = some operation) :
    tell nested chunk exchange index = some later ↔
      ∃ receipt after, performWith nested operation (exchange.note index (.heard chunk)) =
        some (receipt, after) ∧ after.note index (.reacted receipt) = later := by
  rw [tell_eq, called]
  simp

theorem perform_with_of_undispatched {operation : Operation}
    (undispatched : ∀ chunk, operation ≠ .dispatch chunk) (exchange : Exchange) :
    performWith nested operation exchange = some (exchange.beginning operation) := by
  cases operation with
  | dispatch chunk => exact (undispatched chunk rfl).elim
  | _ => rfl

end Telling

/-! ## The taps keep their reactions -/

theorem reactions_note (index : Nat) (line : Note) (exchange : Exchange) :
    (exchange.note index line).reactions = exchange.reactions := by
  apply List.ext_getElem?
  intro number
  simp only [reactions, note, List.getElem?_map, List.getElem?_modify]
  split
  · cases exchange.taps[number]? <;> rfl
  · simp

theorem reactions_conclude (progress : Progress) (exchange : Exchange) :
    (exchange.conclude progress).reactions = exchange.reactions := by
  simp only [conclude]
  split <;> rfl

theorem reactions_beginning (operation : Operation) (exchange : Exchange) :
    (exchange.beginning operation).2.reactions = exchange.reactions := by
  cases operation with
  | register =>
      simp only [beginning, register]
      split
      next made registered =>
        split at registered
        · cases registered
        · cases registered
          rfl
      next => rfl
  | release | failPending | dispatch => exact reactions_conclude _ exchange
  | closeInboxes | inspect | subscribe => rfl

/-- A way to dispatch a chunk that leaves the reactions of the taps as they are. -/
def Retains (nested : Bytes → Exchange → Option Exchange) : Prop :=
  ∀ (chunk : Bytes) (exchange later : Exchange), nested chunk exchange = some later →
    later.reactions = exchange.reactions

section Retaining

variable {nested : Bytes → Exchange → Option Exchange} {exchange later : Exchange}

theorem reactions_of_perform (retains : Retains nested) {operation : Operation} {receipt : Receipt}
    (performed : performWith nested operation exchange = some (receipt, later)) :
    later.reactions = exchange.reactions := by
  by_cases dispatches : ∃ chunk, operation = .dispatch chunk
  · obtain ⟨chunk, rfl⟩ := dispatches
    simp only [performWith, Option.map_eq_some_iff, Prod.mk.injEq] at performed
    obtain ⟨after, dispatched, _, rfl⟩ := performed
    exact retains chunk exchange after dispatched
  · rw [perform_with_of_undispatched fun chunk same => dispatches ⟨chunk, same⟩] at performed
    have begun := reactions_beginning operation exchange
    rw [Option.some.inj performed] at begun
    exact begun

theorem reactions_of_tell (retains : Retains nested) {chunk : Bytes} {index : Nat}
    (told : tell nested chunk exchange index = some later) :
    later.reactions = exchange.reactions := by
  cases called : exchange.calls chunk index with
  | none =>
      rw [tell_eq_of_calm called, Option.some.injEq] at told
      rw [← told, reactions_note]
  | some operation =>
      obtain ⟨receipt, after, performed, rfl⟩ := (tell_eq_some_iff_of_called called).mp told
      rw [reactions_note, reactions_of_perform retains performed, reactions_note]

theorem reactions_of_tell_all (retains : Retains nested) {chunk : Bytes} {indices : List Nat}
    (told : indices.foldlM (tell nested chunk) exchange = some later) :
    later.reactions = exchange.reactions := by
  induction indices generalizing exchange with
  | nil =>
      cases told
      rfl
  | cons index rest ih =>
      rw [List.foldlM_cons, Option.bind_eq_bind, Option.bind_eq_some_iff] at told
      obtain ⟨after, first, others⟩ := told
      exact (ih others).trans (reactions_of_tell retains first)

end Retaining

theorem retains_dispatch_within (depth : Nat) : Retains (dispatchWithin depth) := by
  induction depth with
  | zero =>
      intro chunk exchange later dispatched
      cases dispatched
  | succ depth ih =>
      intro chunk exchange later dispatched
      exact (reactions_of_tell_all ih dispatched).trans
        (reactions_beginning (.dispatch chunk) exchange)

/-! ## A dispatch ends where the taps settle -/

theorem perform_with_isSome_iff (nested : Bytes → Exchange → Option Exchange)
    (operation : Operation) (exchange : Exchange) :
    (performWith nested operation exchange).isSome ↔
      ∀ next, operation = .dispatch next → (nested next exchange).isSome := by
  cases operation <;> simp [performWith]

theorem tell_isSome_iff (nested : Bytes → Exchange → Option Exchange) (chunk : Bytes)
    (exchange : Exchange) (index : Nat) :
    (tell nested chunk exchange index).isSome ↔
      ∀ next, exchange.calls chunk index = some (.dispatch next) →
        (nested next (exchange.note index (.heard chunk))).isSome := by
  rw [tell_eq]
  cases exchange.calls chunk index with
  | none => simp
  | some operation => simp [perform_with_isSome_iff]

/-- Where each tap depends on the reactions alone, telling them in turn ends if each one does. -/
theorem tell_all_isSome_iff {nested : Bytes → Exchange → Option Exchange} {chunk : Bytes}
    {kept : List (Option Reaction)} {ends : Nat → Prop} (retains : Retains nested)
    (each : ∀ exchange : Exchange, exchange.reactions = kept →
      ∀ index, (tell nested chunk exchange index).isSome ↔ ends index)
    (indices : List Nat) {exchange : Exchange} (same : exchange.reactions = kept) :
    (indices.foldlM (tell nested chunk) exchange).isSome ↔ ∀ index ∈ indices, ends index := by
  induction indices generalizing exchange with
  | nil => simp
  | cons index rest ih =>
      have first := each exchange same index
      rw [List.foldlM_cons, List.forall_mem_cons, ← first]
      cases told : tell nested chunk exchange index with
      | none => simp
      | some later =>
          have onwards := ih ((reactions_of_tell retains told).trans same)
          simpa using onwards

theorem mem_provoked_iff (exchange : Exchange) (chunk next : Bytes) :
    next ∈ provoked exchange.reactions chunk ↔
      ∃ index < exchange.taps.length, exchange.calls chunk index = some (.dispatch next) := by
  have taps : exchange.taps.length = exchange.reactions.length := by simp [reactions]
  rw [taps]
  constructor
  · intro member
    obtain ⟨found, present, provokes⟩ := List.mem_filterMap.mp member
    obtain ⟨reaction, rfl, fires⟩ := Option.bind_eq_some_iff.mp provokes
    obtain ⟨index, bound, here⟩ := List.getElem_of_mem present
    have called := (reaction.provokes_eq_some_iff chunk next).mp fires
    exact ⟨index, bound, by simp [calls, List.getElem?_eq_getElem bound, here, called]⟩
  · rintro ⟨index, bound, called⟩
    obtain ⟨reaction, here, fires⟩ := Option.bind_eq_some_iff.mp called
    rw [List.getElem?_eq_getElem bound, Option.join_some] at here
    refine List.mem_filterMap.mpr ⟨some reaction, here ▸ List.getElem_mem bound, ?_⟩
    exact (reaction.provokes_eq_some_iff chunk next).mpr fires

/-- A dispatch ends within a depth just if all that the taps make of its chunk does. -/
theorem dispatch_within_isSome_iff (depth : Nat) (chunk : Bytes) (exchange : Exchange) :
    (dispatchWithin depth chunk exchange).isSome ↔ Settles exchange.reactions depth chunk := by
  induction depth generalizing chunk exchange with
  | zero => simp [dispatchWithin, Settles]
  | succ depth ih =>
      have begun := reactions_beginning (.dispatch chunk) exchange
      have each : ∀ told : Exchange, told.reactions = exchange.reactions → ∀ index,
          (tell (dispatchWithin depth) chunk told index).isSome ↔
            ∀ next, exchange.calls chunk index = some (.dispatch next) →
              Settles exchange.reactions depth next := by
        intro told same index
        simp only [tell_isSome_iff, ih, reactions_note, calls, same]
      rw [dispatchWithin, tell_all_isSome_iff (retains_dispatch_within depth) each _ begun]
      simp only [Settles, mem_provoked_iff, List.mem_range]
      constructor
      · rintro calm next ⟨index, bound, called⟩
        exact calm index bound next called
      · intro settles index bound next called
        exact settles next ⟨index, bound, called⟩

/-- The depth that a dispatch allows is enough for whatever ends at all. -/
theorem dispatch_isSome_iff (chunk : Bytes) (exchange : Exchange) :
    (dispatch chunk exchange).isSome ↔ ∃ depth, Settles exchange.reactions depth chunk := by
  have taps : exchange.taps.length = exchange.reactions.length := by simp [reactions]
  rw [dispatch, dispatch_within_isSome_iff, taps]
  exact ⟨fun settles => ⟨_, settles⟩, fun ⟨_, settles⟩ => settles_of_settles settles⟩

end Exchange

end WatchLink
