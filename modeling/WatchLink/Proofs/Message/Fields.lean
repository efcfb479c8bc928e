import WatchLink.Proofs.Action.Grammar
import WatchLink.Proofs.Message.Reading

/-!
# The fields that both directions share

A timestamp, an id, a tag and counted data are written by the client, in its actions, and read by
it, in the messages of the server. Nothing in the code ties the two together: a message is put
together field by field and taken apart field by field. What an action says behind its operation
code is listed here; the readers find in these bytes the values that the action was made of.
-/

namespace WatchLink

set_option autoImplicit false

/-! ## What stands behind an operation code -/

namespace Action

variable {revision : Revision} {message : Bytes}

theorem fields_of_remove_entry {timestamp : Int64} {id : UInt16} (modern : revision ≠ .v1)
    (said : (removeEntry timestamp id).encode revision = .ok message) :
    message.drop 1 = Numeral.signed.encode timestamp ++ Numeral.short.encode id := by
  rw [encode_remove_entry modern] at said
  cases said
  rfl

theorem tag_of_set_watch_mode {tag : UInt64}
    (said : (setWatchMode .tagged (some tag)).encode .v2 = .ok message) :
    message.drop 2 = Numeral.long.encode tag := by
  cases said
  rfl

/-- Nine bytes of a new entry, its operation code and its timestamp, stand before the counted
data. -/
theorem data_of_add_entry {timestamp : Int64} {data : Bytes} (modern : revision ≠ .v1)
    (fits : ¬dataLimit < data.length)
    (said : (addEntry timestamp data).encode revision = .ok message) :
    message.drop 9 = Numeral.short.encode (UInt16.ofNat data.length) ++ data := by
  rw [encode_add_entry modern timestamp fits] at said
  cases said
  have nine : (2 :: Numeral.signed.encode timestamp).length = 9 := by
    rw [List.length_cons, Numeral.length_encode]
    rfl
  rw [List.append_assoc, ← nine, List.drop_left]

end Action

/-! ## Read back -/

/-- A chunk is read as a notice or a confirmation with these fields just where it begins with the
type and with what the client itself says of them, whichever of the later revisions it says it in.
What follows is ignored. -/
theorem said_fields_read_back {removing adding : Revision} (removes : removing ≠ .v1)
    (adds : adding ≠ .v1) (timestamp moment : Int64) (id : UInt16) (tag : UInt64) {data : Bytes}
    (fits : data.length ≤ 65535) :
    ∃ removal watch addition,
      (Action.removeEntry timestamp id).encode removing = .ok removal ∧
        (Action.setWatchMode .tagged (some tag)).encode .v2 = .ok watch ∧
        (Action.addEntry moment data).encode adding = .ok addition ∧
        (∀ chunk, EntryExpired.parse chunk = .ok { timestamp, id, tag, data } ↔
          ∃ rest, chunk = 6 :: removal.drop 1 ++ watch.drop 2 ++ addition.drop 9 ++ rest) ∧
        ∀ chunk, EntryAdded.parse chunk = .ok { timestamp, id } ↔
          ∃ rest, chunk = 3 :: removal.drop 1 ++ rest := by
  have short : ¬Action.dataLimit < data.length := Nat.not_lt.mpr fits
  have removal := Action.encode_remove_entry removes timestamp id
  have watch : (Action.setWatchMode .tagged (some tag)).encode .v2 = .ok _ := rfl
  have addition := Action.encode_add_entry adds moment short
  refine ⟨_, _, _, removal, watch, addition, fun chunk => ?_, fun chunk => ?_⟩
  · have layout (rest : Bytes) : EntryExpired.bytes ⟨timestamp, id, tag, data⟩ ++ rest =
        6 :: (Numeral.signed.encode timestamp ++ Numeral.short.encode id) ++
          Numeral.long.encode tag ++
            (Numeral.short.encode (UInt16.ofNat data.length) ++ data) ++ rest := by
      simp only [EntryExpired.bytes, List.cons_append, List.append_assoc]
      rfl
    rw [Action.fields_of_remove_entry removes removal, Action.tag_of_set_watch_mode watch,
      Action.data_of_add_entry adds short addition, EntryExpired.parse_eq_ok_iff]
    simp only [layout]
    exact and_iff_right fits
  · rw [Action.fields_of_remove_entry removes removal]
    exact EntryAdded.parse_eq_ok_iff

theorem extreme_fields_read_back :
    Revision.v3 ≠ .v1 ∧ Revision.v2 ≠ .v1 ∧ [0, 255].length ≤ 65535 ∧
      ∃ removal watch addition,
        (Action.removeEntry Int64.minValue 65535).encode .v3 = .ok removal ∧
          (Action.setWatchMode .tagged (some 18446744073709551615)).encode .v2 = .ok watch ∧
          (Action.addEntry (-1) [0, 255]).encode .v2 = .ok addition ∧
          (∀ chunk, EntryExpired.parse chunk =
              .ok ⟨Int64.minValue, 65535, 18446744073709551615, [0, 255]⟩ ↔
            ∃ rest, chunk = 6 :: removal.drop 1 ++ watch.drop 2 ++ addition.drop 9 ++ rest) ∧
          ∀ chunk, EntryAdded.parse chunk = .ok ⟨Int64.minValue, 65535⟩ ↔
            ∃ rest, chunk = 3 :: removal.drop 1 ++ rest :=
  ⟨by decide, by decide, by decide,
    said_fields_read_back (by decide) (by decide) Int64.minValue (-1) 65535 18446744073709551615
      (by decide)⟩

end WatchLink
