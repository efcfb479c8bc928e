import WatchLink.Proofs.Action.Streams
import WatchLink.Proofs.Console.Delivering
import WatchLink.Proofs.Console.Wording

/-!
# Entries on the command line

An entry is added or removed by a word and two arguments, the first of which is its timestamp, a
number of 64 bits with a sign. Every entry action that has a timestamp of zero or more can be said
so, and goes to the server as it is. None below zero can: the minus in front is taken for an
option, and the command line is refused. `entry_sent_iff` is the whole of it; behind the argument
`--` any timestamp gets through.
-/

namespace WatchLink

set_option autoImplicit false

theorem length_to_list_loop (bytes : ByteArray) (index : Nat) (read : List UInt8)
    (within : index ≤ bytes.size) :
    (ByteArray.toList.loop bytes index read).length = bytes.size - index + read.length := by
  fun_induction ByteArray.toList.loop bytes index read with
  | case1 index read more ih =>
      rw [ih (by omega), List.length_cons]
      omega
  | case2 index read done =>
      rw [List.length_reverse]
      omega

theorem length_utf8 (text : String) : text.toUTF8.toList.length = text.utf8ByteSize := by
  rw [ByteArray.toList, length_to_list_loop _ _ _ (Nat.zero_le _)]
  rfl

namespace Console

open Arguments

/-- How an entry action is asked for, its timestamp in the argument `stamp`: the word of a command,
and as its other argument the data of the entry, or the number of the entry in decimal. -/
inductive Entry (timestamp : Int64) : String → String → Action → Prop where
  | add (data : String) (fits : data.utf8ByteSize ≤ 65535) (plain : ¬Hyphened data) :
      Entry timestamp "add" data (.addEntry timestamp data.toUTF8.toList)
  | remove (text : String) (id : UInt16) (numbered : Decimal text id.toNat) :
      Entry timestamp "remove" text (.removeEntry timestamp id)

/-- These arguments make the server that they name get the message of this action, and nothing
else. -/
def Sends (arguments : List String) (host : String) (port : UInt16) (revision : Revision)
    (action : Action) : Prop :=
  ∃ command message,
    parse arguments = .run { host, port, revision, command } ∧
      action.encode revision = .ok message ∧
        Run.Delivers { host, port, revision, command } message

/-- How a level with two places takes such an action from its two arguments. -/
structure Takes (level : Level) (first second : Positional) (command : Command)
    (word stamp other : String) (action : Action) : Prop where
  named : Usage.commands.lookup word = some level
  optionless : level.parameters = []
  commandless : level.commands = []
  places : level.positionals = [first, second]
  distinct : first.name ≠ second.name
  fits : first.kind.accepts stamp = true
  fitsToo : second.kind.accepts other = true
  means : Arguments.command word [(first.name, stamp), (second.name, other)] = some command
  asks : command.action = some action
  single : ∀ mode tag, command ≠ .watch mode tag

section Entering

variable {front : List String} {host word stamp other text : String} {port : UInt16}
  {revision : Revision} {timestamp : Int64} {action : Action}

theorem timestamp_kind_accepts (spelled : Decimal stamp timestamp.toInt) :
    Usage.timestampKind.accepts stamp = true := by
  have least := timestamp.le_toInt
  have greatest := timestamp.toInt_lt
  simp only [Usage.timestampKind, ValueKind.accepts, read_integer_of_decimal spelled,
    Option.any_some, Bool.and_eq_true, decide_eq_true_eq]
  omega

theorem id_kind_accepts {id : UInt16} (numbered : Decimal text id.toNat) :
    Usage.idKind.accepts text = true := by
  have greatest := id.toNat_lt
  simp only [Usage.idKind, ValueKind.accepts, read_integer_of_decimal numbered,
    Option.any_some, Bool.and_eq_true, decide_eq_true_eq]
  omega

theorem exists_takes_of_entry (spelled : Decimal stamp timestamp.toInt)
    (entry : Entry timestamp word other action) :
    ∃ level first second command, Takes level first second command word stamp other action := by
  have read := read_integer_of_decimal spelled
  cases entry with
  | add data =>
      refine ⟨Usage.add, _, _, .add timestamp other.toUTF8.toList, rfl, rfl, rfl, rfl, by decide,
        timestamp_kind_accepts spelled, rfl, ?_, rfl, nofun⟩
      simp [command, number, List.lookup_cons, read]
  | remove _ id numbered =>
      refine ⟨Usage.remove, _, _, .remove timestamp id, rfl, rfl, rfl, rfl, by decide,
        timestamp_kind_accepts spelled, id_kind_accepts numbered, ?_, rfl, nofun⟩
      simp [command, number, List.lookup_cons, read, read_integer_of_decimal numbered]

theorem exists_message_of_entry (modern : revision ≠ .v1)
    (entry : Entry timestamp word other action) :
    ∃ message, action.encode revision = .ok message := by
  cases entry with
  | add data fits =>
      refine ⟨_, Action.encode_add_entry modern timestamp ?_⟩
      rw [length_utf8, Nat.not_lt]
      exact fits
  | remove text id => exact ⟨_, Action.encode_remove_entry modern timestamp id⟩

theorem not_hyphened_of_entry (entry : Entry timestamp word other action) : ¬Hyphened other := by
  cases entry with
  | add _ _ plain => exact plain
  | remove _ id numbered => exact not_hyphened_of_decimal numbered (Int.natCast_nonneg _)

/-- What is read as the two values of an entry action is sent as that action. -/
theorem sends_of_takes {level : Level} {first second : Positional} {command : Command}
    {outer last : Arguments.Progress} {rest : List String}
    (introduces : Introduces front host port revision outer)
    (takes : Takes level first second command word stamp other action)
    (modern : revision ≠ .v1) {message : Bytes} (encoded : action.encode revision = .ok message)
    (ended : scan level {} rest = .ends last)
    (settled : settle level last = some [(first.name, stamp), (second.name, other)]) :
    Sends (front ++ word :: rest) host port revision action := by
  refine ⟨command, message, ?_, encoded, ?_⟩
  · rw [parse_of_introduces introduces takes.named,
      enter_of_settled introduces takes.named ended settled, takes.means]
    rfl
  · exact Run.delivers_of_errand takes.asks takes.single modern encoded
      (Action.encode_ne_nil encoded)

theorem sent_of_sends {arguments : List String}
    (sends : Sends arguments host port revision action) (named : host ≠ "") {message : Bytes}
    (encoded : action.encode revision = .ok message) (turns : List ServerTurn) :
    (perform .accepts turns arguments).sent = message := by
  obtain ⟨command, found, runs, said, delivers⟩ := sends
  cases said.symm.trans encoded
  rw [perform, runs]
  exact delivers.performed named turns

/-- A minus in front of a timestamp is taken for an option, and there is none. -/
theorem reject_of_negative (opens : Opens front host port revision)
    (spelled : Decimal stamp timestamp.toInt) (entry : Entry timestamp word other action)
    (negative : timestamp.toInt < 0) : parse (front ++ [word, stamp, other]) = .reject := by
  obtain ⟨outer, introduces⟩ := exists_introduces_of_opens opens
  obtain ⟨level, first, second, command, takes⟩ := exists_takes_of_entry spelled entry
  obtain ⟨digit, digits, minus, isDigit⟩ := hyphen_digit_of_negative spelled negative
  have refused : Arguments.read level stamp {} = .reject :=
    read_of_hyphen_digit minus isDigit takes.optionless takes.commandless rfl
  rw [parse_of_introduces introduces takes.named, enter, takes.named]
  simp only [scan, refused]

/-- Every entry action whose timestamp is not negative can be asked for, and goes to the server as
it is; none whose timestamp is negative can, whatever the network and the server do. -/
theorem entry_sent_iff (opens : Opens front host port revision) (modern : revision ≠ .v1)
    (spelled : Decimal stamp timestamp.toInt) (entry : Entry timestamp word other action) :
    (Sends (front ++ [word, stamp, other]) host port revision action ↔ 0 ≤ timestamp) ∧
      (timestamp < 0 → ∀ network turns,
        perform network turns (front ++ [word, stamp, other]) =
          { exitCode := some rejection }) := by
  have natural : 0 ≤ timestamp ↔ 0 ≤ timestamp.toInt := Int64.le_iff_toInt_le
  have negative : timestamp < 0 ↔ timestamp.toInt < 0 := Int64.lt_iff_toInt_lt
  rw [natural, negative]
  refine ⟨⟨?_, ?_⟩, ?_⟩
  · rintro ⟨command, message, runs, _⟩
    by_contra below
    rw [reject_of_negative opens spelled entry (Int.not_le.mp below)] at runs
    cases runs
  · intro positive
    obtain ⟨outer, introduces⟩ := exists_introduces_of_opens opens
    obtain ⟨level, first, second, command, takes⟩ := exists_takes_of_entry spelled entry
    obtain ⟨message, encoded⟩ := exists_message_of_entry modern entry
    obtain ⟨last, ended, settled⟩ := settle_scan_pair takes.places takes.distinct
      (.inr ⟨not_hyphened_of_decimal spelled positive, not_hyphened_of_entry entry,
        takes.commandless⟩) takes.fits takes.fitsToo
    exact sends_of_takes introduces takes modern encoded ended settled
  · intro below network turns
    rw [perform, reject_of_negative opens spelled entry below]

theorem entry_after_epoch_sent :
    Sends ["--revision", "v3", "remove", "5", "7"] "127.0.0.1" 3126 .v3 (.removeEntry 5 7) ∧
      ∀ turns, (perform .accepts turns ["--revision", "v3", "remove", "5", "7"]).sent =
        [4, 0, 0, 0, 0, 0, 0, 0, 5, 0, 7] := by
  have opens : Opens ["--revision", "v3"] "127.0.0.1" 3126 .v3 := by decide
  have spelled : Decimal "5" (5 : Int64).toInt := decimal_to_string (5 : Int64).toInt
  have entry : Entry 5 "remove" "7" (.removeEntry 5 7) := .remove "7" 7 (decimal_to_string 7)
  have sends := (entry_sent_iff opens (by decide) spelled entry).1.mpr (by decide)
  exact ⟨sends, sent_of_sends sends (by decide) (by decide)⟩

/-- An entry that expired before the epoch: its message is known, and nobody can ask for it. -/
theorem entry_before_epoch_refused :
    Opens ["--revision", "v3"] "127.0.0.1" 3126 .v3 ∧
      Decimal "-1" (-1 : Int64).toInt ∧
      Entry (-1) "remove" "1" (.removeEntry (-1) 1) ∧
      (Action.removeEntry (-1) 1).encode .v3 =
        .ok [4, 255, 255, 255, 255, 255, 255, 255, 255, 0, 1] ∧
      (∀ network turns,
        perform network turns ["--revision", "v3", "remove", "-1", "1"] =
          { exitCode := some rejection }) ∧
      ¬Sends ["--revision", "v3", "remove", "-1", "1"] "127.0.0.1" 3126 .v3
        (.removeEntry (-1) 1) := by
  have refused : parse ["--revision", "v3", "remove", "-1", "1"] = .reject := by decide
  refine ⟨by decide, decimal_to_string (-1 : Int64).toInt, .remove "1" 1 (decimal_to_string 1),
    by decide, ?_, ?_⟩
  · intro network turns
    rw [perform, refused]
  · rintro ⟨command, message, runs, _⟩
    rw [refused] at runs
    cases runs

/-- Behind the argument `--` nothing is an option, and every timestamp gets through. -/
theorem entry_sent_behind_dashes (opens : Opens front host port revision) (modern : revision ≠ .v1)
    (spelled : Decimal stamp timestamp.toInt) (entry : Entry timestamp word other action) :
    Sends (front ++ [word, "--", stamp, other]) host port revision action := by
  obtain ⟨outer, introduces⟩ := exists_introduces_of_opens opens
  obtain ⟨level, first, second, command, takes⟩ := exists_takes_of_entry spelled entry
  obtain ⟨message, encoded⟩ := exists_message_of_entry modern entry
  obtain ⟨last, ended, settled⟩ := settle_scan_pair takes.places takes.distinct
    (.inl rfl) takes.fits takes.fitsToo
  have dashes : Arguments.read level "--" {} = .goOn { plain := true } := by
    simp [Arguments.read, takes.commandless, awaitsValue]
  refine sends_of_takes introduces takes modern encoded ?_ settled
  rw [scan, dashes]
  exact ended

end Entering

end Console

end WatchLink
