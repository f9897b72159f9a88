import PanelQuery.Cursor
import PanelQuery.Proofs.Decimal.Word
import PanelQuery.Proofs.Json.Written
import PanelQuery.Proofs.Text.Base64Url

/-! # Cursors through their text

A cursor is written as JSON and the JSON as base64. Both can be taken back whatever the id and the
instant are, so no two cursors have the same text. Only a cursor without an id is refused. -/

namespace PanelQuery

namespace ListCursor

open Json (Legible)
open Json.Document

theorem legible_toJson (c : ListCursor) : Legible Json.maxDepth c.toJson := by
  obtain ⟨hmin, hmax⟩ := Decimal.isInt64_toInt c.timestamp
  refine ⟨⟨hmin, ?_⟩, trivial, trivial⟩
  simp only [Decimal.int64Max, Decimal.uint64Max] at hmax ⊢
  omega

theorem read_toJson (c : ListCursor) : read (ofJson c.toJson) = .ok c := by
  have ht : asInt64 (.int c.timestamp.toInt) = .ok c.timestamp := by
    rw [asInt64, asInteger, Decimal.int64Of?_toInt]
  simp [read, toJson, ofJson, ofMembers, asRecord, storeMembers, Field.need, ht, asText, Except.map,
    bind, Except.bind, complete]

/-- What a text stands for, before its id is looked at. -/
def content? (text : String) : Option (Except Json.ReadError ListCursor) :=
  (Text.Base64Url.decode? text.toList).map fun bytes => read (readBytes bytes)

theorem content?_encode (c : ListCursor) : content? c.encode = some (.ok c) := by
  rw [content?, encode, String.toList_ofList, Text.Base64Url.decode?_encode, Option.map_some,
    readBytes_toUTF8, readWhole_render c.legible_toJson, read_toJson]

theorem decode_eq (text : String) : decode text =
    match content? text with
    | some (.ok c) => if c.id = "" then .error .invalidCursor else .ok c
    | _ => .error .invalidCursor := by
  unfold decode decode? content?
  cases Text.Base64Url.decode? text.toList with
  | none => rfl
  | some bytes =>
    simp only [Option.bind_eq_bind, Option.bind_some, Option.map_some]
    cases read (readBytes bytes) with
    | error e => rfl
    | ok c =>
      dsimp only
      by_cases hid : c.id = ""
      · rw [if_pos hid, if_pos hid]
      · rw [if_neg hid, if_neg hid]

theorem encode_injective {c d : ListCursor} (h : c.encode = d.encode) : c = d := by
  have hc := c.content?_encode
  rw [h, content?_encode] at hc
  exact (Except.ok.inj (Option.some.inj hc)).symm

/-- **Cursors survive their text.** A cursor comes back from its text unless it has no id, which is
an invalid cursor; the text consists of letters of the alphabet, and it is that of no other
cursor. -/
theorem encode_faithful (c : ListCursor) :
    decode c.encode = (if c.id = "" then .error .invalidCursor else .ok c) ∧
      Fault.invalidCursor.toError = .invalidRequest "invalid cursor" ∧
      c.encode.toList ⊆ Text.Base64Url.alphabet ∧
      ∀ d : ListCursor, c.encode = d.encode ↔ c = d := by
  refine ⟨?_, rfl, ?_, fun d => ⟨encode_injective, congrArg encode⟩⟩
  · rw [decode_eq, content?_encode]
  · rw [encode, String.toList_ofList]
    exact fun _ => Text.Base64Url.mem_alphabet_of_mem_encode _ _

/-- The text of a cursor is the base64 of a compact record. -/
example : (⟨-5, "é\"\n"⟩ : ListCursor).encode = "eyJ0aW1lc3RhbXAiOi01LCJpZCI6IsOpXCJcbiJ9" := by
  decide +kernel

end ListCursor

end PanelQuery
