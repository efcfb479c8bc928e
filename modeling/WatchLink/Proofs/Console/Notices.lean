import Mathlib.Data.List.Forall2
import WatchLink.Proofs.Console.Requesting

/-!
# The notices that a user sees

A run that watches takes what comes in chunk by chunk, and a chunk is what one read happened to take
up. It prints one line for each chunk, and one for what shares a chunk with the confirmation: the
notice that stands at its front, or the bytes as they are where no whole notice does. So a user sees
every notice, once and in order, just where the chunks follow the notices.
-/

namespace WatchLink

set_option autoImplicit false

namespace EntryExpired

def line (notice : EntryExpired) : String :=
  s!"Entry {notice.id} expired at {notice.timestamp} (tag {notice.tag}, {notice.data.length} bytes)"

theorem line_eq (notice : EntryExpired) :
    notice.line = "Entry " ++ toString notice.id ++ " expired at " ++ toString notice.timestamp ++
      " (tag " ++ toString notice.tag ++ ", " ++ toString notice.data.length ++ " bytes)" := rfl

/-- The size stands behind the last blank but one. -/
theorem toList_line (notice : EntryExpired) :
    ∃ front, notice.line.toList =
      front ++ ' ' :: (Nat.toDigits 10 notice.data.length ++ " bytes)".toList) := by
  refine ⟨("Entry " ++ toString notice.id ++ " expired at " ++ toString notice.timestamp ++
    " (tag " ++ toString notice.tag ++ ",").toList, ?_⟩
  simp [line_eq]

theorem blank_not_mem_toDigits (number : Nat) : ' ' ∉ Nat.toDigits 10 number := by
  intro blank
  have digit := Nat.isDigit_of_mem_toDigits (by decide) (by decide) blank
  simp at digit

theorem eq_of_behind_blank {front others digits numerals : List Char} (plain : ' ' ∉ digits)
    (plainToo : ' ' ∉ numerals) (same : front ++ ' ' :: digits = others ++ ' ' :: numerals) :
    digits = numerals := by
  rcases List.append_eq_append_iff.mp same with ⟨middle, _, behind⟩ | ⟨middle, _, behind⟩
  · cases middle with
    | nil => simpa using behind
    | cons first rest =>
        simp only [List.cons_append, List.cons.injEq] at behind
        exact (plain (by simp [behind.2])).elim
  · cases middle with
    | nil => simpa using behind.symm
    | cons first rest =>
        simp only [List.cons_append, List.cons.injEq] at behind
        exact (plainToo (by simp [behind.2])).elim

theorem length_data_of_line {notice other : EntryExpired} (same : notice.line = other.line) :
    notice.data.length = other.data.length := by
  obtain ⟨front, here⟩ := notice.toList_line
  obtain ⟨others, there⟩ := other.toList_line
  rw [← same, here] at there
  rw [← List.cons_append, ← List.cons_append, ← List.append_assoc, ← List.append_assoc] at there
  have digits := eq_of_behind_blank (blank_not_mem_toDigits _) (blank_not_mem_toDigits _)
    (List.append_cancel_right there)
  have read := congrArg (Nat.ofDigitChars 10 · 0) digits
  simpa only [Nat.ofDigitChars_ten_toDigits] using read

theorem line_ne_pushed (notice : EntryExpired) (bytes : Bytes) :
    notice.line ≠ s!"Pushed {bytes.listing}" := by
  intro same
  rw [line_eq, show s!"Pushed {bytes.listing}" = "Pushed " ++ bytes.listing from rfl] at same
  have first := congrArg (fun text : String => text.toList.head?) same
  simp at first

end EntryExpired

namespace Console

theorem push_line_of_begins {notice : EntryExpired} {piece : Bytes}
    (fits : notice.data.length ≤ EntryExpired.dataLimit) (begins : notice.bytes <+: piece) :
    pushLine piece = notice.line := by
  obtain ⟨rest, rfl⟩ := begins
  rw [pushLine, EntryExpired.parse_eq_ok_iff.mpr ⟨fits, rest, rfl⟩]
  rfl

/-- How a piece of what came in is told: as the notice at its front, or byte by byte where there is
none. -/
inductive Reports (piece : Bytes) : String → Prop where
  | notice (notice : EntryExpired) (fits : notice.data.length ≤ EntryExpired.dataLimit)
      (begins : notice.bytes <+: piece) : Reports piece notice.line
  | bytes (other : ∀ notice : EntryExpired, notice.data.length ≤ EntryExpired.dataLimit →
      ¬notice.bytes <+: piece) : Reports piece s!"Pushed {piece.listing}"

theorem reports_push_line (piece : Bytes) : Reports piece (pushLine piece) := by
  cases parsed : EntryExpired.parse piece with
  | ok notice =>
      obtain ⟨fits, rest, same⟩ := EntryExpired.parse_eq_ok_iff.mp parsed
      have begins : notice.bytes <+: piece := ⟨rest, same.symm⟩
      rw [push_line_of_begins fits begins]
      exact .notice notice fits begins
  | error cause =>
      rw [pushLine, parsed]
      refine .bytes fun notice fits begins => ?_
      obtain ⟨rest, rfl⟩ := begins
      rw [EntryExpired.parse_eq_ok_iff.mpr ⟨fits, rest, rfl⟩] at parsed
      cases parsed

/-- A piece that is told as a notice is not shorter than the notice. -/
theorem length_of_push_line {piece : Bytes} {notice : EntryExpired}
    (told : pushLine piece = notice.line) : notice.bytes.length ≤ piece.length := by
  have reported := reports_push_line piece
  rw [told] at reported
  generalize shown : notice.line = text at reported
  cases reported with
  | notice other fits begins =>
      have same := EntryExpired.length_data_of_line shown
      have bound := begins.length_le
      rw [EntryExpired.length_bytes] at bound ⊢
      omega
  | bytes => exact (notice.line_ne_pushed piece shown).elim

theorem length_flatten_of_push_lines {pieces : List Bytes} {notices : List EntryExpired}
    (told : pieces.map pushLine = notices.map EntryExpired.line) :
    (notices.map EntryExpired.bytes).flatten.length ≤ pieces.flatten.length := by
  induction pieces generalizing notices with
  | nil =>
      obtain rfl : notices = [] := by simpa using told.symm
      rfl
  | cons piece later ih =>
      cases notices with
      | nil => cases told
      | cons notice others =>
          simp only [List.map_cons, List.cons.injEq] at told
          have here := length_of_push_line told.1
          have there := ih told.2
          simp only [List.map_cons, List.flatten_cons, List.length_append]
          omega

/-- Of a stream of notices, every notice is told once and in order just where its pieces are the
notices. -/
theorem push_lines_eq_iff {pieces : List Bytes} {notices : List EntryExpired}
    (bounded : ∀ notice ∈ notices, notice.data.length ≤ EntryExpired.dataLimit)
    (stream : pieces.flatten = (notices.map EntryExpired.bytes).flatten) :
    pieces.map pushLine = notices.map EntryExpired.line ↔
      pieces = notices.map EntryExpired.bytes := by
  constructor
  · intro told
    induction pieces generalizing notices with
    | nil =>
        obtain rfl : notices = [] := by simpa using told.symm
        rfl
    | cons piece later ih =>
        cases notices with
        | nil => cases told
        | cons notice others =>
            simp only [List.map_cons, List.cons.injEq, List.flatten_cons] at told stream ⊢
            -- No piece is shorter than its notice, and together they are not longer.
            have here := length_of_push_line told.1
            have there := length_flatten_of_push_lines told.2
            have total := congrArg List.length stream
            simp only [List.length_append] at total
            obtain ⟨same, rest⟩ := List.append_inj stream (by omega)
            exact ⟨same, ih (fun other member => bounded other (List.mem_cons_of_mem _ member))
              rest told.2⟩
  · rintro rfl
    rw [List.map_map]
    refine List.map_congr_left fun notice member => ?_
    rw [Function.comp_apply]
    exact push_line_of_begins (bounded notice member) List.prefix_rfl

/-- What is to be told of the chunks that come in: what shares a chunk with the confirmation, if
there is anything, and every other chunk. -/
def pieces : List Bytes → List Bytes
  | [] => []
  | first :: later => (if first.tail.isEmpty then [] else [first.tail]) ++ later

theorem flatten_pieces {chunks : List Bytes} {confirmation : UInt8} {stream : Bytes}
    (nonempty : ∀ chunk ∈ chunks, chunk ≠ []) (split : chunks.flatten = confirmation :: stream) :
    ∃ tail later, chunks = (confirmation :: tail) :: later ∧ (pieces chunks).flatten = stream := by
  cases chunks with
  | nil => cases split
  | cons first later =>
      obtain ⟨byte, tail, rfl⟩ := List.exists_cons_of_ne_nil (nonempty first List.mem_cons_self)
      simp only [List.flatten_cons, List.cons_append, List.cons.injEq] at split
      obtain ⟨rfl, rest⟩ := split
      refine ⟨tail, later, rfl, ?_⟩
      cases tail <;> simpa [pieces] using rest

theorem confirmation_of_outcome {revision : Revision} (modern : revision ≠ .v1) {tail : Bytes}
    {response : Response}
    (outcome : Exchange.outcomeOf revision (MessageType.ok.byte :: tail) = .ok response) :
    response.text = "8 (Ok)" ∧ response.trailing = tail := by
  rw [Reply.outcome_of_cons modern] at outcome
  cases outcome
  constructor
  · have number : MessageType.ok.byte.toUInt16.toNat = 8 := by decide
    simp only [Response.text, Response.message_type_of_byte modern .ok, number]
    rfl
  · cases revision with
    | v1 => exact (modern rfl).elim
    | v2 | v3 => rfl

namespace Run

/-- A run of `watch` under a later revision. Its request goes out, the server confirms it and then
writes notices, all of it read in chunks of any kind, and ends the stream. Throughout, the run and
the worker of its link move as they may. -/
structure Watched where
  invocation : Invocation
  mode : WatchMode
  tag : Option UInt64
  watches : invocation.command = .watch mode tag
  modern : invocation.revision ≠ .v1
  asking : List Move
  asked : Run
  quiet : ∀ arrival ∈ asking.filterMap Move.arrival?, arrival = .accepted
  ranAsking : (begin invocation).moves asking = some asked
  requested : asked.link.sent ≠ []
  notices : List EntryExpired
  bounded : ∀ notice ∈ notices, notice.data.length ≤ EntryExpired.dataLimit
  chunks : List Bytes
  stream : chunks.flatten = MessageType.ok.byte :: (notices.map EntryExpired.bytes).flatten
  hearing : List Move
  heard : Run
  comes : hearing.filterMap Move.arrival? = chunks.map .chunk ++ [.ended]
  ranHearing : asked.moves hearing = some heard

namespace Watched

/-- Such a run moves on for a while only, whoever moves, and is then finished, without a failure. It
has told every piece that came in, in order, by one line; it has told the notices, once and in
order, just where the pieces are the notices. -/
theorem told_piece_by_piece (watched : Watched) :
    (∃ bound, ∀ more last, watched.heard.moves more = some last → more.length ≤ bound) ∧
      ∀ more last, watched.heard.moves more = some last → last.Rests →
        last.exitCode? = some 0 ∧
          ∃ lines, last.printed = watched.asked.printed ++ .plain "Watch mode set: 8 (Ok)" ::
              lines.map .plain ++ [.log .info programTarget "Server closed the connection"] ∧
            List.Forall₂ Reports (pieces watched.chunks) lines ∧
            (lines = watched.notices.map EntryExpired.line ↔
              pieces watched.chunks = watched.notices.map EntryExpired.bytes) := by
  have asked := attends_of_sent watched.watches watched.modern watched.quiet watched.ranAsking
    watched.requested
  have spoken : watched.chunks ≠ [] := by
    intro silent
    have stream := watched.stream
    rw [silent] at stream
    cases stream
  have attends : Attends watched.asked.printed ([] ++ watched.chunks) true watched.heard :=
    attends_of_moves asked (by simpa using spoken) watched.comes watched.ranHearing
  rw [List.nil_append] at attends
  constructor
  · refine ⟨watched.heard.pace, fun more last ran => ?_⟩
    have paced := (ceased_of_moves attends ran).2
    omega
  · intro more last ran rests
    have kept := (ceased_of_moves attends ran).1
    obtain ⟨place, response, answers, printed⟩ := finished_of_rests kept rests
    obtain ⟨tail, later, chunks, told⟩ := flatten_pieces attends.nonempty watched.stream
    obtain ⟨first, others, same, outcome⟩ := answers
    obtain ⟨rfl, rfl⟩ := List.cons.inj (chunks.symm.trans same)
    obtain ⟨text, trailing⟩ := confirmation_of_outcome kept.modern outcome
    refine ⟨by rw [exitCode?, place], (pieces watched.chunks).map pushLine, ?_, ?_, ?_⟩
    · rw [printed, transcript, reportable, text, trailing, chunks, List.map_map]
      rfl
    · rw [List.forall₂_map_right_iff, List.forall₂_same]
      exact fun piece _ => reports_push_line piece
    · exact push_lines_eq_iff watched.bounded told

/-! ## Two notices -/

def watchAll : Invocation where
  host := "127.0.0.1"
  port := 3126
  revision := .v2
  command := .watch .all none

def askAll : List Move :=
  [.arrive .accepted, .work, .work, .step, .step, .step, .step]

def askedAll : Run := ((begin watchAll).moves askAll).get rfl

def twoNotices : List EntryExpired :=
  [{ timestamp := 1, id := 1, tag := 0, data := [] },
    { timestamp := 2, id := 2, tag := 0, data := [] }]

/-- Each chunk is taken up before the next one comes, and the run leaves after the last. -/
def hearAll (first : Bytes) (later : List Bytes) : List Move :=
  [.arrive (.chunk first), .work, .work, .step, .step, .step] ++
    (later.flatMap fun chunk => [Move.arrive (.chunk chunk), .work, .work, .step]) ++
    [.arrive .ended, .work, .work, .work, .step, .step, .step]

/-- What follows the confirmation comes in chunks of which the first may share its chunk. -/
def watchedOf (shared : Bytes) (later : List Bytes)
    (stream : shared ++ later.flatten = (twoNotices.map EntryExpired.bytes).flatten)
    (comes : (hearAll (8 :: shared) later).filterMap Move.arrival? =
      ((8 :: shared) :: later).map .chunk ++ [.ended])
    (hears : (askedAll.moves (hearAll (8 :: shared) later)).isSome = true) : Watched where
  invocation := watchAll
  mode := .all
  tag := none
  watches := rfl
  modern := by decide
  asking := askAll
  asked := askedAll
  quiet := by decide
  ranAsking := (Option.some_get _).symm
  requested := by decide
  notices := twoNotices
  bounded := by decide
  chunks := (8 :: shared) :: later
  stream := congrArg (List.cons 8) stream
  hearing := hearAll (8 :: shared) later
  heard := (askedAll.moves (hearAll (8 :: shared) later)).get hears
  comes := comes
  ranHearing := (Option.some_get _).symm

def apart : Watched :=
  watchedOf [6, 0, 0, 0, 0, 0, 0, 0, 1, 0, 1, 0, 0, 0, 0, 0, 0, 0, 0, 0, 0]
    [[6, 0, 0, 0, 0, 0, 0, 0, 2, 0, 2, 0, 0, 0, 0, 0, 0, 0, 0, 0, 0]] rfl rfl rfl

def together : Watched :=
  watchedOf []
    [[6, 0, 0, 0, 0, 0, 0, 0, 1, 0, 1, 0, 0, 0, 0, 0, 0, 0, 0, 0, 0,
      6, 0, 0, 0, 0, 0, 0, 0, 2, 0, 2, 0, 0, 0, 0, 0, 0, 0, 0, 0, 0]] rfl rfl rfl

theorem notices_told_apart :
    apart.heard.exitCode? = some 0 ∧ apart.heard.printed =
      apart.asked.printed ++ .plain "Watch mode set: 8 (Ok)" ::
        (apart.notices.map EntryExpired.line).map .plain ++
          [.log .info programTarget "Server closed the connection"] := by
  have place : apart.heard.stage = .finished 0 := rfl
  have rests : apart.heard.Rests := rests_of_finished place rfl
  obtain ⟨_, ends⟩ := told_piece_by_piece apart
  obtain ⟨code, lines, printed, _, exactly⟩ := ends [] apart.heard rfl rests
  rw [exactly.mpr rfl] at printed
  exact ⟨code, printed⟩

/-- The user is not told of the second notice where both come together. -/
theorem second_notice_untold :
    together.heard.Rests ∧ together.heard.printed ≠
      together.asked.printed ++ .plain "Watch mode set: 8 (Ok)" ::
        (together.notices.map EntryExpired.line).map .plain ++
          [.log .info programTarget "Server closed the connection"] := by
  have place : together.heard.stage = .finished 0 := rfl
  refine ⟨rests_of_finished place rfl, fun same => ?_⟩
  have counted := congrArg List.length same
  revert counted
  decide

end Watched

end Run

end Console

end WatchLink
