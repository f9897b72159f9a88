import PanelQuery.Proofs.Decimal.Word
import PanelQuery.Proofs.Sql.Literal
import PanelQuery.Sql.Value

/-! # Literals of filter values

A value without doubles is what its literal is read as. The literal of a text or of an array ends by
itself; after a word or an integer, what follows decides where it ends. -/

namespace PanelQuery.FilterValue

open Sql (Literal ReadsAs Delimited IsWord EndsWord)

/-- A value without doubles. -/
inductive Discrete : FilterValue → Prop
  | null : Discrete .null
  | bool (b : Bool) : Discrete (.bool b)
  | int (n : Int64) : Discrete (.int n)
  | text (s : String) : Discrete (.text s)
  | array {items : List FilterValue} (h : ∀ item ∈ items, Discrete item) : Discrete (.array items)

/-- The literal of the value is a word or a number, with which what follows may go on. -/
def isWord : FilterValue → Bool
  | .text _ | .array _ => false
  | _ => true

mutual

/-- The value that a literal writes. -/
def ofLiteral? : Literal → Option FilterValue
  | .null => some .null
  | .bool b => some (.bool b)
  | .int n => (Decimal.int64Of? n).map .int
  | .decimal _ => none
  | .text s => some (.text s)
  | .list .square items => (ofLiterals? items).map .array
  | .list .round _ => none

def ofLiterals? : List Literal → Option (List FilterValue)
  | [] => some []
  | l :: ls =>
    match ofLiteral? l, ofLiterals? ls with
    | some v, some vs => some (v :: vs)
    | _, _ => none

end

/-- The value at the front of a text, and the rest. -/
def readLiteral (cs : List Char) : Option (FilterValue × List Char) :=
  match Literal.read cs with
  | some (l, rest) => (ofLiteral? l).map (·, rest)
  | none => none

theorem itemLiterals_eq_join (items : List FilterValue) :
    itemLiterals items = Sql.join "," (items.map literal) := by
  induction items with
  | nil => rfl
  | cons item items ih =>
    cases items with
    | nil => rfl
    | cons next items => exact congrArg (item.literal ++ Sql.raw "," ++ ·) ih

theorem isWord_null : IsWord (Sql.raw "NULL") .null :=
  Sql.isWord_raw rfl (by decide) (by decide) rfl

theorem isWord_ofBool (b : Bool) : IsWord (Sql.raw (ofBool b)) (.bool b) := by
  cases b <;> exact Sql.isWord_raw rfl (by decide) (by decide) rfl

mutual

/-- The literal of a value is read as one that writes the value. -/
theorem exists_literal : ∀ {v : FilterValue}, v.Discrete → ∃ l, ofLiteral? l = some v ∧
    (v.isWord = true → IsWord v.literal l) ∧ (v.isWord = false → Delimited v.literal l)
  | .null, _ => ⟨.null, rfl, fun _ => isWord_null, nofun⟩
  | .bool b, _ => ⟨.bool b, rfl, fun _ => isWord_ofBool b, nofun⟩
  | .int n, _ => ⟨.int n.toInt, by simp [ofLiteral?, Decimal.int64Of?_toInt],
      fun _ => Sql.isWord_int n.toInt, nofun⟩
  | .text s, _ => ⟨.text s, rfl, nofun, fun _ => Sql.delimited_literal s⟩
  | .array items, h => by
    have hitems : ∀ item ∈ items, item.Discrete := by cases h; assumption
    obtain ⟨ls, hls, hreads⟩ := exists_literals hitems
    refine ⟨.list .square ls, by rw [ofLiteral?, hls]; rfl, nofun, fun _ => ?_⟩
    rw [literal, itemLiterals_eq_join]
    exact Sql.delimited_list .square hreads rfl rfl

theorem exists_literals : ∀ {items : List FilterValue}, (∀ item ∈ items, item.Discrete) →
    ∃ ls, ofLiterals? ls = some items ∧ List.Forall₂ ReadsAs (items.map literal) ls
  | [], _ => ⟨[], rfl, .nil⟩
  | item :: items, h => by
    obtain ⟨l, hl, hword, hdelimited⟩ := exists_literal (h item List.mem_cons_self)
    obtain ⟨ls, hls, hreads⟩ := exists_literals fun other ho => h other (List.mem_cons_of_mem _ ho)
    refine ⟨l :: ls, by rw [ofLiterals?, hl, hls], .cons ?_ hreads⟩
    cases hw : item.isWord with
    | true => exact (hword hw).readsAs
    | false => exact (hdelimited hw).readsAs

end

theorem Discrete.readLiteral_iff {v : FilterValue} (h : v.Discrete) (rest : List Char) :
    readLiteral (v.literal.chars ++ rest) = some (v, rest) ↔ (v.isWord = true → EndsWord rest) := by
  obtain ⟨l, hl, hword, hdelimited⟩ := exists_literal h
  have hread : Literal.read (v.literal.chars ++ rest) = some (l, rest) →
      readLiteral (v.literal.chars ++ rest) = some (v, rest) := fun hr => by
    rw [readLiteral, hr]
    exact congrArg (Option.map (·, rest)) hl
  cases hw : v.isWord with
  | true =>
    refine ⟨fun hr _ => ?_, fun hr => hread ((hword hw).readsAs.read (hr rfl))⟩
    rw [readLiteral] at hr
    split at hr
    · next l' rest' hl' =>
      obtain ⟨_, -, he⟩ := Option.map_eq_some_iff.mp hr
      cases he
      exact (hword hw).endsWord_of_read hl'
    · cases hr
  | false => exact ⟨fun _ => nofun, fun _ => hread ((hdelimited hw).read rest)⟩

/-- **Literals of values read back.** A value of null, booleans, integers, texts and arrays of such
values is read off the front of a text that begins with its literal, with exactly what follows the
literal left over, if and only if what follows does not go on with the literal's last word. So
values with the same literal are the same. -/
theorem literal_readable {v : FilterValue} (h : v.Discrete) :
    (∀ rest : List Char, readLiteral (v.literal.text.toList ++ rest) = some (v, rest) ↔
      (v.isWord = true → EndsWord rest)) ∧
    ∀ w : FilterValue, w.Discrete → w.literal.text = v.literal.text → w = v := by
  refine ⟨h.readLiteral_iff, fun w hw htext => ?_⟩
  have hv := (h.readLiteral_iff []).mpr fun _ => rfl
  have hw := (hw.readLiteral_iff []).mpr fun _ => rfl
  rw [Sql.chars, htext] at hw
  exact (Prod.mk.inj (Option.some.inj (hw.symm.trans hv))).1

/-- Texts with the marks of the grammar in them. -/
def marked : FilterValue :=
  .array [.text "it's, [\\", .array [.int (-42), .null, .array []], .bool true, .text "']"]

theorem literal_readable_marked : marked.Discrete ∧
    readLiteral (marked.literal.text.toList ++ "'],7".toList) = some (marked, "'],7".toList) := by
  have h : marked.Discrete := by
    refine .array fun item hi => ?_
    simp only [List.mem_cons, List.not_mem_nil, or_false] at hi
    rcases hi with rfl | rfl | rfl | rfl
    · exact .text _
    · refine .array fun item hi => ?_
      simp only [List.mem_cons, List.not_mem_nil, or_false] at hi
      rcases hi with rfl | rfl | rfl
      · exact .int _
      · exact .null
      · exact .array nofun
    · exact .bool _
    · exact .text _
  exact ⟨h, ((literal_readable h).1 _).mpr nofun⟩

end PanelQuery.FilterValue
