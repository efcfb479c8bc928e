import WatchLink.Proofs.Console.Acknowledging
import WatchLink.Proofs.Console.Notices

/-!
# Refusals

The server may answer any action with an error. A run that adds or removes an entry reads its
response and says what the server's error was. A run that watches does not look at what it got: it
prints the response as a confirmation, and the byte behind the type as a notice that came with it.
`Refused.reported_iff` is the whole of it.
-/

namespace WatchLink

set_option autoImplicit false

namespace Console

inductive Command.Confirms : Command → String → Prop where
  | watch (mode : WatchMode) (tag : Option UInt64) (text : String) :
      Confirms (.watch mode tag) s!"Watch mode set: {text}"
  | add (timestamp : Int64) (data : Bytes) (added : EntryAdded) :
      Confirms (.add timestamp data) s!"Entry {added.id} added at {added.timestamp}"
  | remove (timestamp : Int64) (id named : UInt16) :
      Confirms (.remove timestamp id) s!"Entry {named} removed"

def errorLine (refusal : Refusal) : String := s!"Server error: {refusal.code.name}"

/-- The results of a command that the server has refused, as they are to be: they name the error,
and show neither success nor the code of the error as a notice. -/
structure Reported (command : Command) (reply : Bytes) (refusal : Refusal) (results : List String) :
    Prop where
  told : errorLine refusal ∈ results
  unconfirmed : ∀ line ∈ results, ¬command.Confirms line
  unpushed : pushLine reply.tail ∉ results

theorem head_error_line (refusal : Refusal) : (errorLine refusal).toList.head? = some 'S' := by
  have spelled : errorLine refusal = "Server error: " ++ refusal.code.name := rfl
  simp [spelled]

theorem head_push_line (piece : Bytes) :
    (pushLine piece).toList.head? = some 'E' ∨ (pushLine piece).toList.head? = some 'P' := by
  have reported := reports_push_line piece
  generalize pushLine piece = text at reported
  cases reported with
  | notice notice =>
      left
      simp [EntryExpired.line_eq]
  | bytes =>
      right
      have spelled : s!"Pushed {piece.listing}" = "Pushed " ++ piece.listing := rfl
      simp [spelled]

theorem not_confirms_error_line (command : Command) (refusal : Refusal) :
    ¬command.Confirms (errorLine refusal) := by
  intro confirms
  have first := head_error_line refusal
  generalize errorLine refusal = text at confirms first
  cases confirms with
  | watch mode tag text =>
      have spelled : s!"Watch mode set: {text}" = "Watch mode set: " ++ text := rfl
      simp [spelled] at first
  | add timestamp data added =>
      have spelled : s!"Entry {added.id} added at {added.timestamp}" =
          "Entry " ++ toString added.id ++ " added at " ++ toString added.timestamp := rfl
      simp [spelled] at first
  | remove timestamp id named =>
      have spelled : s!"Entry {named} removed" = "Entry " ++ toString named ++ " removed" := rfl
      simp [spelled] at first

theorem error_line_ne_push_line (refusal : Refusal) (piece : Bytes) :
    errorLine refusal ≠ pushLine piece := by
  refine ne_of_apply_ne (fun text : String => text.toList.head?) ?_
  rw [head_error_line]
  rcases head_push_line piece with first | first <;> rw [first] <;> decide

theorem push_line_of_code (code : RefusalCode) (rest : Bytes) :
    pushLine (code.byte :: rest) = s!"Pushed {Bytes.listing (code.byte :: rest)}" := by
  have reported := reports_push_line (code.byte :: rest)
  generalize pushLine (code.byte :: rest) = text at reported
  cases reported with
  | bytes => rfl
  | notice notice fits begins =>
      obtain ⟨behind, same⟩ := begins
      rw [EntryExpired.bytes_append] at same
      cases code <;> cases (List.cons.inj same).1

def errorResponse (revision : Revision) (reply : Bytes) : Response where
  revision
  value := MessageType.error.byte.toUInt16
  chunk := reply

section Response

variable {revision : Revision} {reply : Bytes} {refusal : Refusal}

theorem outcome_of_refusal (modern : revision ≠ .v1)
    (refuses : Refusal.parse reply = .ok refusal) :
    Exchange.outcomeOf revision reply = .ok (errorResponse revision reply) ∧
      ∃ rest, reply = MessageType.error.byte :: refusal.code.byte :: rest := by
  obtain ⟨rest, rfl⟩ := Refusal.parse_eq_ok_iff.mp refuses
  exact ⟨Reply.outcome_of_cons modern _ _, rest, rfl⟩

theorem message_type_error_response (modern : revision ≠ .v1) :
    (errorResponse revision reply).messageType = .ok .error :=
  Response.message_type_of_byte modern .error reply

theorem text_error_response (modern : revision ≠ .v1) :
    (errorResponse revision reply).text = "9 (Error)" := by
  have number : (errorResponse revision reply).value.toNat = 9 := by
    show MessageType.error.byte.toUInt16.toNat = 9
    decide
  simp only [Response.text, message_type_error_response modern, number]
  rfl

theorem trailing_error_response (modern : revision ≠ .v1) :
    (errorResponse revision reply).trailing = reply.tail := by
  cases revision with
  | v1 => exact (modern rfl).elim
  | v2 | v3 => exact List.drop_one

theorem response_line_watch (mode : WatchMode) (tag : Option UInt64) (response : Response) :
    (Command.watch mode tag).responseLine response = s!"Watch mode set: {response.text}" := rfl

theorem response_line_add (timestamp : Int64) (data : Bytes) (response : Response) :
    (Command.add timestamp data).responseLine response =
      match response.entryAdded with
      | .ok added => s!"Entry {added.id} added at {added.timestamp}"
      | .error _ => refusalLine response := rfl

theorem response_line_remove (timestamp : Int64) (id : UInt16) (response : Response) :
    (Command.remove timestamp id).responseLine response =
      match response.messageType with
      | .ok .entryRemoved => s!"Entry {id} removed"
      | _ => refusalLine response := rfl

theorem response_line_error_response (modern : revision ≠ .v1)
    (refuses : Refusal.parse reply = .ok refusal) {command : Command}
    (reads : (∃ timestamp data, command = .add timestamp data) ∨
      ∃ timestamp id, command = .remove timestamp id) :
    command.responseLine (errorResponse revision reply) = errorLine refusal := by
  have refused : refusalLine (errorResponse revision reply) = errorLine refusal := by
    rw [refusalLine, Response.refusal, errorResponse, refuses]
    rfl
  rcases reads with ⟨timestamp, data, rfl⟩ | ⟨timestamp, id, rfl⟩
  · rw [response_line_add, Response.entryAdded, errorResponse]
    cases parsed : EntryAdded.parse reply with
    | error cause => exact refused
    | ok added =>
        obtain ⟨rest, same⟩ := EntryAdded.parse_eq_ok_iff.mp parsed
        obtain ⟨_, behind, split⟩ := outcome_of_refusal modern refuses
        rw [split] at same
        cases same
  · rw [response_line_remove, message_type_error_response modern]
    exact refused

end Response

namespace Run

/-- A run under a later revision that adds an entry, removes one or watches. Its request goes out,
and the first chunk that comes in after it was registered is an error, with anything behind the
code. The worker and the network move as they may throughout. -/
structure Refused extends Asked where
  modern : invocation.revision ≠ .v1
  asks : invocation.command ≠ .ping
  hearing : List Move
  last : Run
  ranHearing : prepared.moves (.step :: hearing) = some last
  requested : last.link.sent ≠ []
  reply : Bytes
  later : List Bytes
  heard : hearing.filterMap Move.chunk? = reply :: later
  refusal : Refusal
  refuses : Refusal.parse reply = .ok refusal

namespace Refused

theorem revision_last (refused : Refused) :
    refused.last.link.revision = refused.invocation.revision := by
  rw [← (kept_of_begin refused.invocation).2]
  exact congrArg Settings.revision
    ((kept_of_moves refused.ranHearing).2.trans (kept_of_moves refused.ranPreparing).2)

theorem command_last (refused : Refused) :
    refused.last.command = refused.invocation.command :=
  (kept_of_moves refused.ranHearing).1.trans
    ((kept_of_moves refused.ranPreparing).1.trans (kept_of_begin refused.invocation).1)

theorem command_prepared (refused : Refused) :
    refused.prepared.command = refused.invocation.command :=
  (kept_of_moves refused.ranPreparing).1.trans (kept_of_begin refused.invocation).1

/-- A run that has come to rest has dealt with its response. -/
theorem response_of_rest (refused : Refused) (still : refused.last.step = none)
    (asleep : refused.last.link.work = none) :
    (refused.inbox = none ∧
        Dealt (errorResponse refused.invocation.revision refused.reply) refused.last) ∨
      refused.inbox = some 0 ∧
        Tells (errorResponse refused.invocation.revision refused.reply)
          (refused.early ++ refused.reply :: refused.later) refused.last := by
  obtain ⟨underway, stands⟩ := refused.stands refused.ranHearing
  rw [refused.heard] at stands
  have modern : refused.last.link.revision ≠ .v1 := by
    rw [refused.revision_last]
    exact refused.modern
  refine answered_of_rest stands modern refused.requested ?_ still asleep
  rw [underway.speaks, refused.revision_last]
  exact (outcome_of_refusal refused.modern refused.refuses).1

theorem reads_of_not_watch (refused : Refused)
    (others : ∀ mode tag, refused.invocation.command ≠ .watch mode tag) :
    (∃ timestamp data, refused.invocation.command = .add timestamp data) ∨
      ∃ timestamp id, refused.invocation.command = .remove timestamp id := by
  have asks := refused.approach.2.2.1
  rw [refused.command_prepared] at asks
  cases command : refused.invocation.command with
  | ping => exact (refused.asks command).elim
  | watch mode tag => exact (others mode tag command).elim
  | add timestamp data => exact .inl ⟨timestamp, data, rfl⟩
  | remove timestamp id => exact .inr ⟨timestamp, id, rfl⟩
  | close =>
      rw [command] at asks
      cases asks

theorem results_of_reading (refused : Refused)
    (others : ∀ mode tag, refused.invocation.command ≠ .watch mode tag)
    (still : refused.last.step = none) (asleep : refused.last.link.work = none) :
    refused.last.results = [errorLine refused.refusal] := by
  rcases refused.response_of_rest still asleep with ⟨_, dealt⟩ | ⟨here, _⟩
  · rw [dealt.printed, refused.command_last]
    rw [response_line_error_response refused.modern refused.refuses
      (refused.reads_of_not_watch others)]
  · rcases refused.approach.2.2.2.2 with ⟨_, ⟨mode, tag, watches⟩, _⟩ | ⟨alone, _⟩
    · exact (others mode tag (refused.command_prepared ▸ watches)).elim
    · rw [alone] at here
      cases here

theorem results_of_watching (refused : Refused) {mode : WatchMode} {tag : Option UInt64}
    (watches : refused.invocation.command = .watch mode tag)
    (still : refused.last.step = none) (asleep : refused.last.link.work = none) :
    ∃ discarded told,
      refused.early ++ refused.reply :: refused.later = discarded :: told ∧
      refused.last.results = "Watch mode set: 9 (Error)" ::
        s!"Pushed {Bytes.listing refused.reply.tail}" :: told.map pushLine := by
  rcases refused.response_of_rest still asleep with ⟨alone, _⟩ | ⟨_, tells⟩
  · rcases refused.approach.2.2.2.2 with ⟨here, _⟩ | ⟨_, others, _⟩
    · rw [here] at alone
      cases alone
    · exact (others mode tag (refused.command_prepared.trans watches)).elim
  · obtain ⟨discarded, rest, inbox⟩ :
        ∃ discarded rest, refused.early ++ refused.reply :: refused.later = discarded :: rest :=
      List.exists_cons_of_ne_nil (by simp)
    rw [inbox] at tells
    obtain ⟨told, split, results⟩ := told_of_tells tells
    rw [incoming_of_rest tells still asleep, List.append_nil] at split
    obtain ⟨_, behind, reply⟩ := outcome_of_refusal refused.modern refused.refuses
    have spelled : pushLine refused.reply.tail =
        s!"Pushed {Bytes.listing refused.reply.tail}" := by
      rw [reply]
      exact push_line_of_code _ _
    refine ⟨discarded, rest, inbox, ?_⟩
    rw [results, split, refused.command_last, watches, recital, reportable,
      trailing_error_response refused.modern, response_line_watch,
      text_error_response refused.modern, ← spelled, reply]
    rfl

/-- Once such a run has nothing to do any more, it has said what the error was, and nothing to the
contrary, just where it does not watch. A run that watches has printed the error as a confirmation
and its code as a notice, and does not say that it is one. -/
theorem reported_iff (refused : Refused) :
    (∃ bound, ∀ more final, (∀ move ∈ more, move.arrival? = none) →
      refused.last.moves more = some final → more.length ≤ bound) ∧
    (refused.last.step = none → refused.last.link.work = none →
      (Reported refused.invocation.command refused.reply refused.refusal refused.last.results ↔
        ∀ mode tag, refused.invocation.command ≠ .watch mode tag) ∧
      ((∀ mode tag, refused.invocation.command ≠ .watch mode tag) →
        refused.last.results = [errorLine refused.refusal]) ∧
      ∀ mode tag, refused.invocation.command = .watch mode tag →
        errorLine refused.refusal ∉ refused.last.results ∧
        ∃ discarded told,
          refused.early ++ refused.reply :: refused.later = discarded :: told ∧
          refused.last.results = "Watch mode set: 9 (Error)" ::
            s!"Pushed {Bytes.listing refused.reply.tail}" :: told.map pushLine) := by
  refine ⟨⟨refused.last.labour, fun more final own ran =>
    length_of_own_moves (refused.stands refused.ranHearing).1 own ran⟩, ?_⟩
  intro still asleep
  refine ⟨⟨?_, ?_⟩, fun others => refused.results_of_reading others still asleep, ?_⟩
  · intro reported mode tag watches
    obtain ⟨discarded, told, _, results⟩ := refused.results_of_watching watches still asleep
    refine reported.unconfirmed "Watch mode set: 9 (Error)" ?_ ?_
    · rw [results]
      exact List.mem_cons_self
    · rw [watches]
      exact .watch mode tag "9 (Error)"
  · intro others
    rw [refused.results_of_reading others still asleep]
    refine ⟨List.mem_singleton_self _, ?_, ?_⟩
    · intro line only
      rw [List.mem_singleton.mp only]
      exact not_confirms_error_line _ _
    · intro pushed
      exact error_line_ne_push_line _ _ (List.mem_singleton.mp pushed).symm
  · intro mode tag watches
    obtain ⟨discarded, told, inbox, results⟩ := refused.results_of_watching watches still asleep
    refine ⟨?_, discarded, told, inbox, results⟩
    rw [results]
    simp only [List.mem_cons, List.mem_map, not_or, not_exists, not_and]
    refine ⟨?_, ?_, fun piece _ => (error_line_ne_push_line _ piece).symm⟩
    · refine ne_of_apply_ne (fun text : String => text.toList.head?) ?_
      rw [head_error_line]
      decide
    · refine ne_of_apply_ne (fun text : String => text.toList.head?) ?_
      rw [head_error_line, show s!"Pushed {Bytes.listing refused.reply.tail}" =
        "Pushed " ++ Bytes.listing refused.reply.tail from rfl]
      simp

/-! ## A client that the server refuses -/

def refuseWith (invocation : Invocation) (action : Action) (inbox : Option Nat)
    (preparing hearing : List Move)
    (modern : invocation.revision ≠ .v1) (asks : invocation.command ≠ .ping)
    (prepares : (begin invocation).moves preparing = some (played (begin invocation) preparing))
    (registers : (played (begin invocation) preparing).stage = .sending (.registering action) inbox)
    (hears : (played (begin invocation) preparing).moves (.step :: hearing) =
      some (played (played (begin invocation) preparing) (.step :: hearing)))
    (requested : (played (played (begin invocation) preparing) (.step :: hearing)).link.sent ≠ [])
    (heard : hearing.filterMap Move.chunk? = [[9, 2]]) : Refused where
  invocation
  action
  inbox
  preparing
  prepared := played (begin invocation) preparing
  ranPreparing := prepares
  registering := registers
  modern
  asks
  hearing
  last := played (played (begin invocation) preparing) (.step :: hearing)
  ranHearing := hears
  requested
  reply := [9, 2]
  later := []
  heard
  refusal := { code := .invalidAction }
  refuses := rfl

def addition : Invocation where
  host := "127.0.0.1"
  port := 3126
  revision := .v3
  command := .add 1 [7]

def refusedAddition : Refused :=
  refuseWith addition (.addEntry 1 [7]) none [.arrive .accepted, .work, .work, .step]
    ([.step, .step] ++ Confirmed.take [9, 2] ++ List.replicate 8 .step)
    (by decide) (by decide) rfl rfl rfl (by decide) rfl

def refusedWatch : Refused :=
  refuseWith Confirmed.watchAll (.setWatchMode .all none) (some 0) Confirmed.openInbox
    ([.step, .step] ++ Confirmed.take [9, 2] ++ [.step, .step])
    (by decide) (by decide) rfl rfl rfl (by decide) rfl

theorem reported_of_refused_addition :
    refusedAddition.last.exitCode? = some 0 ∧
      Reported refusedAddition.invocation.command refusedAddition.reply refusedAddition.refusal
        refusedAddition.last.results ∧
      refusedAddition.last.results = ["Server error: InvalidAction"] := by
  obtain ⟨_, told⟩ := reported_iff refusedAddition
  have still : refusedAddition.last.step = none := rfl
  have asleep : refusedAddition.last.link.work = none := rfl
  obtain ⟨exactly, reads, _⟩ := told still asleep
  have others : ∀ mode tag, refusedAddition.invocation.command ≠ .watch mode tag := nofun
  have named : errorLine refusedAddition.refusal = "Server error: InvalidAction" := rfl
  exact ⟨rfl, exactly.mpr others, (reads others).trans (congrArg (fun line => [line]) named)⟩

/-- The run that watches takes its refusal for a confirmation. -/
theorem refusal_confirmed_by_watch :
    refusedWatch.last.step = none ∧ refusedWatch.last.link.work = none ∧
      Refusal.parse refusedWatch.reply = .ok { code := .invalidAction } ∧
      refusedWatch.last.results = ["Watch mode set: 9 (Error)", "Pushed [02]"] := by
  refine ⟨rfl, rfl, rfl, ?_⟩
  decide

end Refused

end Run

end Console

end WatchLink
