import PanelQuery.Proofs.Query.Origin
import PanelQuery.Proofs.Sql.Reading

/-! # User texts in a statement

Every piece of a compiled statement is of the vocabulary, a number, a direction, a name that the
query mentions, or a literal with texts of the query. A reader of the text finds the pieces again,
with every text unchanged in the literal that has it, if no name of the statement has a backslash,
and only then: names between back-ticks have their back-ticks escaped and nothing else. -/

namespace PanelQuery

open Sql (Piece Stretch Wording LiteralWording)
open Sql.Lexical

variable {q : Query}

/-! ## Where texts come from -/

/-- The texts that the literals of a statement may have: those of filter values, cut out by
position, and the others. -/
inductive Query.Source (q : Query) : String → Prop
  | given {a : String} (h : q.Given a) : Source q a
  | value {a : String} (slot : Slot) (h : slot.text? q = some a) : Source q a

def Sql.Stretch.Traced (q : Query) : Stretch → Prop
  | .fixed w => LiteralWording w
  | .given a => q.Source a

/-- The piece is wording, or has its names and texts from the query. -/
def Sql.Piece.Traced (q : Query) : Piece → Prop
  | .fixed w => Wording w
  | .quoted inside => ∀ s ∈ inside, s.Traced q
  | .name n | .backticked n => q.Named n
  | .int _ | .float _ | .direction _ | .topNGroups => True

theorem Query.Named.of_masked {n : String} (h : q.masked.Named n) : q.Named n := by
  cases h with
  | own h => exact .own (q.names_masked ▸ h)
  | materialized h => exact .materialized (q.names_masked ▸ h)
  | flag h => exact .flag (q.names_masked ▸ h)
  | timestamp => exact .timestamp
  | bound => exact .bound

theorem Query.Given.of_masked {a : String} (h : q.masked.Given a) : q.Given a := by
  cases h with
  | name h => exact .name (q.names_masked ▸ h)
  | loweredName h => exact .loweredName (q.names_masked ▸ h)
  | path h hn hp => exact .path (q.names_masked ▸ h) hn hp
  | bound => exact .bound
  | having h hv => exact .having h hv
  | instant n => exact .instant n
  | atom h => exact .atom h
  | loweredAtom h => exact .loweredAtom h

theorem traced_stretch {s : Stretch} (h : s.Alike (q.origin q) s) : s.Traced q := by
  cases h with
  | fixed hw => exact hw
  | given ht =>
    rcases ht with ⟨-, hg⟩ | ⟨slot, hs, -⟩
    · exact .given hg.of_masked
    · exact .value slot hs

theorem traced_piece {p : Piece} (h : p.Alike (q.origin q) p) : p.Traced q := by
  cases h with
  | fixed hw => exact hw
  | quoted hs => exact fun s hm => traced_stretch (List.forall₂_same.mp hs s hm)
  | name hn => exact hn.of_masked
  | backticked hn => exact hn.of_masked
  | int | float | direction | topNGroups => trivial

theorem Sql.Piece.Traced.safe {p : Piece} (h : p.Traced q) : p.Safe := by
  cases p with
  | fixed w => exact h.closed
  | quoted inside => exact fun w hw => (h _ hw).verbatim
  | _ => trivial

/-! ## Backslashes -/

/-- The text has no backslash. -/
def Unslashed (s : String) : Prop := '\\' ∉ s.toList

instance (s : String) : Decidable (Unslashed s) := inferInstanceAs (Decidable ('\\' ∉ s.toList))

theorem Unslashed.append {a b : String} (ha : Unslashed a) (hb : Unslashed b) :
    Unslashed (a ++ b) := by
  rw [Unslashed, String.toList_append, List.mem_append]
  exact not_or.mpr ⟨ha, hb⟩

theorem unslashed_materializedName {key : AttributeKey} (h : Unslashed key.name) :
    Unslashed (Schema.materializedName key) := by
  have hkind : Unslashed (if key.kind = .tag then "attribute" else "resource") := by
    split <;> decide
  have htype : Unslashed (Schema.storageType key.dataType) := by
    unfold Schema.storageType
    split
    · decide
    split <;> decide
  have hmark : Unslashed "_" := by decide
  exact (((hkind.append hmark).append htype).append hmark).append h

/-- Names made of names without backslashes have none. -/
theorem Query.Named.unslashed (hq : ∀ n ∈ q.names, Unslashed n) {n : String} (h : q.Named n) :
    Unslashed n := by
  cases h with
  | own h => exact hq n h
  | materialized h => exact unslashed_materializedName (hq _ h)
  | flag h =>
    exact (unslashed_materializedName (hq _ h)).append (by decide)
  | timestamp => decide
  | bound => decide

theorem closed_placeholder : Sql.Closed Sql.placeholder := Sql.closed_of_chars rfl (by decide)

theorem named_of_traced {sql : Sql} (h : ∀ p ∈ sql, p.Traced q) : ∀ n ∈ sql.names, q.Named n := by
  intro n hn
  obtain ⟨p, hp, he⟩ := List.mem_filterMap.mp hn
  have ht := h p hp
  cases p with
  | name m => exact Option.some.inj he ▸ ht
  | backticked m => exact Option.some.inj he ▸ ht
  | _ => cases he

/-- **What a reader finds in a statement.** Its pieces are wording, numbers, directions, names of
the query, and literals with texts of the query. A reader of the text finds exactly these pieces and
ends outside of quotes if and only if no name in the statement has a backslash, which is so if no
name in the query has one; and a name by itself reads back as that name under the same condition. -/
theorem statement_reading {features : List String} {start stop : Int} {panel : Panel}
    {options : QueryOptions} {sql : Sql}
    (h : Engine.statementSql features start stop panel q options = .ok sql) :
    (∀ p ∈ sql, p.Traced q) ∧
    (scan .outside sql.text.toList =
        (sql.flatMap (Piece.tokens Sql.placeholder.toList), .outside) ↔
      ∀ n ∈ sql.names, Unslashed n) ∧
    ((∀ n ∈ q.names, Unslashed n) → ∀ n ∈ sql.names, Unslashed n) ∧
    ∀ name, (nameOf? (Sql.quoteAlias name).toList = some name.toList ↔ Unslashed name) ∧
      (nameOf? (Sql.quoteIdentifier name).toList = some name.toList ↔ Unslashed name) := by
  have ha := agree_statementSql (q := q) rfl features start stop panel options
  rw [h] at ha
  have htraced : ∀ p ∈ sql, p.Traced q := fun p hp => traced_piece (List.forall₂_same.mp ha p hp)
  refine ⟨htraced, Sql.scan_bind _ (fun p hp => (htraced p hp).safe) closed_placeholder, ?_,
    fun name => ⟨nameOf?_quoteAlias name, nameOf?_quoteIdentifier name⟩⟩
  exact fun hq n hn => (named_of_traced htraced n hn).unslashed hq

/-- A logs query that groups by an attribute whose name ends in a backslash. -/
def slashQuery : Query :=
  { signal := .logs
    aggregateOperator := .count
    groupBy := [{ name := "a\\", dataType := .scalar .string, kind := .tag }] }

/-- The statement that groups by such a name does not read back: its alias stays open. -/
theorem statement_reading_slash : ∃ sql : Sql,
    Engine.statementSql [] 0 60000 .table slashQuery {} = .ok sql ∧
      scan .outside sql.text.toList ≠
        (sql.flatMap (Piece.tokens Sql.placeholder.toList), .outside) := by
  have hslash : ∃ sql : Sql, Engine.statementSql [] 0 60000 .table slashQuery {} = .ok sql ∧
      "a\\" ∈ sql.names := ⟨_, rfl, by decide⟩
  obtain ⟨sql, h, hname⟩ := hslash
  refine ⟨sql, h, fun hread => ?_⟩
  obtain ⟨-, hiff, -, -⟩ := statement_reading h
  exact absurd (hiff.mp hread _ hname) (by decide)

end PanelQuery
