import WatchLink.Proofs.Message.Responses
import WatchLink.Proofs.Traffic.Answers

/-!
# Replies and the read buffer

A response is one chunk, and a chunk is at most what one read takes up. A caller gets what a reply
says just where the chunk that answers its action begins with the whole reply (`conveyed_iff`); so a
reply that the server writes at once is understood just where it fits the read buffer
(`reply_conveyed_iff_fits`). `Settings.validate` asks only that the buffer is not empty, and every
revision has replies that are longer than one byte.
-/

namespace WatchLink

set_option autoImplicit false

theorem Bytes.pieces_of_ne_nil {limit : Nat} {bytes : Bytes} (nonempty : bytes ≠ [])
    (positive : 0 < limit) :
    bytes.pieces limit = bytes.take limit :: Bytes.pieces limit (bytes.drop limit) := by
  rw [pieces, if_neg]
  rintro (empty | zero)
  · exact nonempty empty
  · omega

theorem Exchange.outcome_eq_ok_iff_decode {revision : Revision} {chunk : Bytes}
    {response : Response} :
    outcomeOf revision chunk = .ok response ↔ Response.decode revision chunk = .ok response := by
  unfold outcomeOf
  cases Response.decode revision chunk with
  | ok decoded => simp only [Except.ok.injEq]
  | error cause => simp only [reduceCtorEq]

namespace Reply

/-- A caller who looks at the outcome finds what the reply says: the leading number, and the content
of a message that has one. -/
def Conveyed (reply : Reply) (outcome : Outcome) : Prop :=
  ∃ response : Response, outcome = .ok response ∧ response.value = reply.leading ∧
    (∀ added, reply = .entryAdded added → response.entryAdded = .ok added) ∧
    ∀ refusal, reply = .refusal refusal → response.refusal = .ok refusal

section Conveying

variable {revision : Revision} {chunk : Bytes} {response : Response}

theorem outcome_of_short_eq_ok_iff :
    Exchange.outcomeOf .v1 chunk = .ok response ↔
      ∃ number, Numeral.short.decode chunk = .ok number ∧
        response = { revision := .v1, value := number, chunk } :=
  Exchange.outcome_eq_ok_iff_decode.trans Response.decode_short_eq_ok_iff

theorem outcome_of_eq_ok_iff (modern : revision ≠ .v1) :
    Exchange.outcomeOf revision chunk = .ok response ↔
      ∃ byte, Numeral.byte.decode chunk = .ok byte ∧
        response = { revision, value := byte.toUInt16, chunk } :=
  Exchange.outcome_eq_ok_iff_decode.trans (Response.decode_eq_ok_iff modern)

/-- The later revisions take any byte for a response. -/
theorem outcome_of_cons (modern : revision ≠ .v1) (first : UInt8) (rest : Bytes) :
    Exchange.outcomeOf revision (first :: rest) =
      .ok { revision, value := first.toUInt16, chunk := first :: rest } := by
  refine (outcome_of_eq_ok_iff modern).mpr ⟨first, ?_, rfl⟩
  refine (Numeral.decode_eq_ok_iff _ _ _).mpr ⟨rest, ?_⟩
  rw [Numeral.encode_byte]
  rfl

theorem conveyed_of_prefix {reply : Reply} (known : reply.knownTo revision = true)
    (begins : reply.bytes <+: chunk) : reply.Conveyed (Exchange.outcomeOf revision chunk) := by
  obtain ⟨rest, rfl⟩ := begins
  cases reply with
  | value number =>
      obtain rfl : revision = .v1 := of_decide_eq_true known
      have decoded := (Numeral.decode_eq_ok_iff Numeral.short _ number).mpr ⟨rest, rfl⟩
      exact ⟨_, outcome_of_short_eq_ok_iff.mpr ⟨number, decoded, rfl⟩, rfl, by simp, by simp⟩
  | bare kind =>
      exact ⟨_, outcome_of_cons (of_decide_eq_true known) kind.byte rest, rfl, by simp, by simp⟩
  | entryAdded added =>
      have parsed : EntryAdded.parse (added.bytes ++ rest) = .ok added :=
        EntryAdded.parse_eq_ok_iff.mpr ⟨rest, rfl⟩
      refine ⟨_, outcome_of_cons (of_decide_eq_true known) MessageType.entryAdded.byte _, rfl, ?_,
        by simp⟩
      rintro other same
      cases same
      exact parsed
  | refusal answer =>
      have parsed : Refusal.parse (answer.bytes ++ rest) = .ok answer :=
        Refusal.parse_eq_ok_iff.mpr ⟨rest, rfl⟩
      refine ⟨_, outcome_of_cons (of_decide_eq_true known) MessageType.error.byte _, rfl, by simp,
        ?_⟩
      rintro other same
      cases same
      exact parsed

theorem prefix_of_conveyed {reply : Reply} (known : reply.knownTo revision = true)
    (conveyed : reply.Conveyed (Exchange.outcomeOf revision chunk)) : reply.bytes <+: chunk := by
  obtain ⟨response, resolved, leads, added, refused⟩ := conveyed
  cases reply with
  | value number =>
      obtain rfl : revision = .v1 := of_decide_eq_true known
      obtain ⟨found, decoded, rfl⟩ := outcome_of_short_eq_ok_iff.mp resolved
      obtain rfl : found = number := leads
      obtain ⟨rest, rfl⟩ := (Numeral.decode_eq_ok_iff _ _ _).mp decoded
      exact List.prefix_append _ _
  | bare kind =>
      obtain ⟨found, decoded, rfl⟩ := (outcome_of_eq_ok_iff (of_decide_eq_true known)).mp resolved
      obtain rfl : found = kind.byte := UInt8.toUInt16_inj.mp leads
      obtain ⟨rest, rfl⟩ := (Numeral.decode_eq_ok_iff _ _ _).mp decoded
      rw [Numeral.encode_byte]
      exact List.prefix_append _ _
  | entryAdded content =>
      obtain ⟨found, decoded, rfl⟩ := (outcome_of_eq_ok_iff (of_decide_eq_true known)).mp resolved
      obtain ⟨rest, whole⟩ := EntryAdded.parse_eq_ok_iff.mp (added content rfl)
      exact ⟨rest, whole.symm⟩
  | refusal content =>
      obtain ⟨found, decoded, rfl⟩ := (outcome_of_eq_ok_iff (of_decide_eq_true known)).mp resolved
      obtain ⟨rest, whole⟩ := Refusal.parse_eq_ok_iff.mp (refused content rfl)
      exact ⟨rest, whole.symm⟩

/-- A chunk tells a caller what a reply says just where it begins with the whole reply. -/
theorem conveyed_iff {reply : Reply} (known : reply.knownTo revision = true) :
    reply.Conveyed (Exchange.outcomeOf revision chunk) ↔ reply.bytes <+: chunk :=
  ⟨prefix_of_conveyed known, conveyed_of_prefix known⟩

theorem bytes_ne_nil (reply : Reply) : reply.bytes ≠ [] := by
  have written : 0 < reply.bytes.length := by
    cases reply with
    | value number =>
        rw [bytes, Numeral.length_encode]
        decide
    | bare kind => exact Nat.one_pos
    | entryAdded added => exact Nat.succ_pos _
    | refusal answer => exact Nat.two_pos
  exact List.length_pos_iff.mp written

/-- The first piece of a reply says what the reply says just where it is the whole reply. -/
theorem conveyed_take_iff {reply : Reply} (known : reply.knownTo revision = true) (limit : Nat) :
    reply.Conveyed (Exchange.outcomeOf revision (reply.bytes.take limit)) ↔
      reply.bytes.length ≤ limit := by
  rw [conveyed_iff known]
  constructor
  · intro whole
    have longer := whole.length_le
    rw [List.length_take] at longer
    omega
  · intro fits
    have whole := List.take_of_length_le fits
    exact ⟨[], by rw [whole, List.append_nil]⟩

end Conveying

end Reply

namespace Traffic

variable {traffic : Traffic}

theorem buffer_of_create {settings : Settings} {link : Link}
    (created : Link.create settings = .ok link) : 0 < settings.readBufferSize := by
  apply Nat.pos_of_ne_zero
  intro empty
  simp [Link.create, Settings.validate, empty, bind, Except.bind] at created

theorem buffer_of_reachable (reachable : traffic.Reachable) :
    0 < traffic.link.settings.readBufferSize := by
  obtain ⟨settings, link, run, created, ran⟩ := reachable
  have same : traffic.link.settings = settings :=
    moves_induction (fun state => state.link.settings = settings)
      (fun held moved => (grows_of_moves moved).settings.trans held) ran
      (by rw [link_of_create created])
  rw [same]
  exact buffer_of_create created

/-- A chunk that arrives while an action waits is its outcome, whatever happens afterwards. -/
theorem answered_for_good (sound : traffic.Sound) {ticket : Nat}
    (outstanding : traffic.link.exchange.awaiting = some ticket) {chunk : Bytes} {heard : Traffic}
    (moved : traffic.move (.arrive (.chunk chunk)) = some heard) {run : List Move} {last : Traffic}
    (ran : heard.moves run = some last) :
    last.link.exchange.progress ticket =
      .resolved (Exchange.outcomeOf traffic.link.revision chunk) := by
  have touched : traffic.touch? (.arrive (.chunk chunk)) = some (.chunk chunk) := rfl
  have answered := progress_of_touched sound outstanding (moves_of_move moved) touched
  rw [sound.spoken] at answered
  have present : ticket < heard.link.exchange.tickets.length :=
    Exchange.lt_length_of_progress_ne_spent (by simp [answered, Touch.leaves])
  exact progress_of_settled (sound_of_moves sound (moves_of_move moved)) answered
    (by simp) present ran

/-- The server writes a reply at once while an action waits for its response and the worker listens.
The first piece that the worker takes up answers the action for good, whatever else goes on; and the
caller gets what the reply says just where the reply fits the read buffer. -/
theorem reply_conveyed_iff_fits (reachable : traffic.Reachable)
    (listening : traffic.link.worker = .reading) {ticket : Nat}
    (outstanding : traffic.link.exchange.awaiting = some ticket) {reply : Reply}
    (known : reply.knownTo traffic.link.revision = true) :
    ∃ (first : Bytes) (others : List Bytes) (heard : Traffic),
      reply.bytes.pieces traffic.link.settings.readBufferSize = first :: others ∧
        traffic.move (.arrive (.chunk first)) = some heard ∧
        ∀ run last, heard.moves run = some last →
          ∃ outcome, last.link.exchange.progress ticket = .resolved outcome ∧
            (reply.Conveyed outcome ↔
              reply.bytes.length ≤ traffic.link.settings.readBufferSize) := by
  have cut := Bytes.pieces_of_ne_nil reply.bytes_ne_nil (buffer_of_reachable reachable)
  obtain ⟨nonempty, fits⟩ := Bytes.length_of_mem_pieces _ reply.bytes _ (by
    rw [cut]
    exact List.mem_cons_self)
  have heard := Link.hear_chunk_of_reading listening (List.length_pos_iff.mp nonempty) fits
  have moved : traffic.move (.arrive (.chunk _)) = some { traffic with link := _ } :=
    Option.map_eq_some_iff.mpr ⟨_, heard, rfl⟩
  refine ⟨_, _, _, cut, moved, ?_⟩
  intro run last ran
  exact ⟨_, answered_for_good (sound_of_reachable reachable) outstanding moved ran,
    Reply.conveyed_take_iff known _⟩

def pinged (revision : Revision) (readBufferSize : Nat) (sent : Bytes) : Traffic where
  link :=
    { settings := { revision, readBufferSize }
      phase := .connected
      writable := true
      exchange := { revision, awaiting := some 0, tickets := [{}] }
      signal := { opening := some .ready }
      worker := .reading
      sent }
  calls := [(.start, .finished .done), (.act .ping, .finished (.number 0))]

def startAndPing : List Move :=
  [.begin .start, .advance 0 .grants, .arrive .accepted, .work, .work, .begin (.act .ping),
    .advance 1 .grants, .advance 1 .grants]

/-- The confirmation of an entry is eleven bytes long, and a buffer of eleven bytes is enough. -/
theorem entry_added_conveyed_of_eleven :
    (pinged .v2 11 [0]).Reachable ∧
      ∃ first others heard,
        (Reply.entryAdded ⟨-1, 7⟩).bytes.pieces 11 = first :: others ∧
          (pinged .v2 11 [0]).move (.arrive (.chunk first)) = some heard ∧
          ∀ run last, heard.moves run = some last →
            ∃ outcome, last.link.exchange.progress 0 = .resolved outcome ∧
              ((Reply.entryAdded ⟨-1, 7⟩).Conveyed outcome ↔
                (Reply.entryAdded ⟨-1, 7⟩).bytes.length ≤ 11) := by
  have reachable : (pinged .v2 11 [0]).Reachable :=
    ⟨{ readBufferSize := 11 }, _, startAndPing, rfl, rfl⟩
  exact ⟨reachable, reply_conveyed_iff_fits reachable rfl rfl rfl⟩

/-- Settings with a buffer of one byte are accepted, and every number of revision 1 has two bytes:
the response to the ping cannot be decoded. -/
theorem number_lost_in_small_buffer :
    (pinged .v1 1 [0, 0, 0]).Reachable ∧ (Reply.value 1).knownTo .v1 = true ∧
      (Reply.value 1).bytes.pieces 1 = [[0], [1]] ∧
      ((pinged .v1 1 [0, 0, 0]).moves
          [.arrive (.chunk [0]), .work, .work, .arrive (.chunk [1]), .work, .work]).map
        (fun last => (last.link.exchange.collect 0).1) =
          some (some (.error (.decode (.tooShort 2 1)))) := by
  refine ⟨⟨{ revision := .v1, readBufferSize := 1 }, _, startAndPing, rfl, rfl⟩, rfl, ?_, rfl⟩
  have digits : (Reply.value 1).bytes = [0, 1] := rfl
  rw [digits]
  simp [Bytes.pieces]

end Traffic

end WatchLink
