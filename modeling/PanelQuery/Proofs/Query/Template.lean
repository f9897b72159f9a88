import PanelQuery.Proofs.Query.Origin
import PanelQuery.Proofs.Sql.Reading

/-! # One template for all texts of filter values

Statements of two queries with one mask are instances of one template. Its holes are slots of filter
values and stand inside of literals; everything else, the quotes around them included, is fixed and
made from the mask. A hole is filled with the escaped text of its slot, so no text of a value leaves
its literal. -/

namespace PanelQuery

open Sql (Piece Stretch Wording LiteralWording escapeChars)
open Sql.Lexical

/-! ## Templates -/

/-- A stretch of a literal: kept for every query, or a hole for the text of a slot. -/
inductive Filling where
  | kept (s : Stretch)
  | hole (slot : Slot)

/-- A piece outside of literals, or a literal with its stretches. -/
inductive Part where
  | piece (p : Piece)
  | literal (inside : List Filling)

abbrev Template := List Part

/-- The text of a query for a slot. -/
def Slot.text (slot : Slot) (q : Query) : String := (slot.text? q).getD ""

def Filling.chars (q : Query) : Filling → List Char
  | .kept s => s.chars
  | .hole slot => escapeChars (slot.text q).toList

/-- The text of a part for a query; holes are in the literals, between two quotes of the part. -/
def Part.chars (groups : List Char) (q : Query) : Part → List Char
  | .piece p => p.chars groups
  | .literal inside => '\'' :: inside.flatMap (Filling.chars q) ++ ['\'']

/-- The template with every hole filled from the query. -/
def Template.fill (t : Template) (groups : String) (q : Query) : String :=
  String.ofList (t.flatMap (Part.chars groups.toList q))

/-- What is kept is fixed wording or made from the mask of the queries, and both queries have a text
for the slot of a hole. -/
inductive Filling.Shared (q q' : Query) : Filling → Prop
  | wording {w : String} (h : LiteralWording w) : Shared q q' (.kept (.fixed w))
  | given {a : String} (h : q.masked.Given a) : Shared q q' (.kept (.given a))
  | hole {slot : Slot} {a a' : String} (h : slot.text? q = some a) (h' : slot.text? q' = some a') :
      Shared q q' (.hole slot)

inductive Part.Shared (q q' : Query) : Part → Prop
  | wording {w : String} (h : Wording w) : Shared q q' (.piece (.fixed w))
  | name {n : String} (h : q.masked.Named n) : Shared q q' (.piece (.name n))
  | backticked {n : String} (h : q.masked.Named n) : Shared q q' (.piece (.backticked n))
  | int (n : Int) : Shared q q' (.piece (.int n))
  | float (x : Float) : Shared q q' (.piece (.float x))
  | direction (d : Sql.Direction) : Shared q q' (.piece (.direction d))
  | topNGroups : Shared q q' (.piece .topNGroups)
  | literal {inside : List Filling} (h : ∀ f ∈ inside, f.Shared q q') :
      Shared q q' (.literal inside)

variable {q q' : Query}

/-! ## Alike statements have a template -/

/-- Lists that are related element by element are images of one list. -/
theorem exists_of_forall₂ {α β γ : Type} {R : α → β → Prop} {P : γ → Prop} {f : γ → α} {g : γ → β}
    {as : List α} {bs : List β} (h : List.Forall₂ R as bs)
    (hR : ∀ a b, R a b → ∃ c, P c ∧ f c = a ∧ g c = b) :
    ∃ cs : List γ, (∀ c ∈ cs, P c) ∧ cs.map f = as ∧ cs.map g = bs := by
  induction h with
  | nil => exact ⟨[], nofun, rfl, rfl⟩
  | cons hab _ ih =>
    obtain ⟨c, hc, hf, hg⟩ := hR _ _ hab
    obtain ⟨cs, hcs, hfs, hgs⟩ := ih
    exact ⟨c :: cs, List.forall_mem_cons.mpr ⟨hc, hcs⟩, by rw [List.map_cons, hf, hfs],
      by rw [List.map_cons, hg, hgs]⟩

def Filling.stretch (q : Query) : Filling → Stretch
  | .kept s => s
  | .hole slot => .given (slot.text q)

def Part.fill (q : Query) : Part → Piece
  | .piece p => p
  | .literal inside => .quoted (inside.map (Filling.stretch q))

theorem Filling.chars_stretch (q : Query) (f : Filling) : (f.stretch q).chars = f.chars q := by
  cases f <;> rfl

theorem Part.chars_fill (groups : List Char) (q : Query) (p : Part) :
    (p.fill q).chars groups = p.chars groups q := by
  cases p with
  | piece p => rfl
  | literal inside =>
    have hs : (inside.map (Filling.stretch q)).flatMap Stretch.chars =
        inside.flatMap (Filling.chars q) := by
      rw [List.flatMap_map]
      exact congrArg (List.flatMap · inside) (funext (Filling.chars_stretch q))
    rw [fill, Piece.chars, hs]
    rfl

theorem bind_map_fill (groups : String) (q : Query) (t : Template) :
    Sql.bind groups (t.map (Part.fill q)) = t.fill groups q := by
  have ht : (t.map (Part.fill q)).flatMap (Piece.chars groups.toList) =
      t.flatMap (Part.chars groups.toList q) := by
    rw [List.flatMap_map]
    exact congrArg (List.flatMap · t) (funext (Part.chars_fill groups.toList q))
  rw [Sql.bind, ht]
  rfl

theorem filling_of_alike {s s' : Stretch} (h : s.Alike (q.origin q') s') :
    ∃ f : Filling, f.Shared q q' ∧ f.stretch q = s ∧ f.stretch q' = s' := by
  cases h with
  | fixed hw => exact ⟨_, .wording hw, rfl, rfl⟩
  | given ht =>
    rcases ht with ⟨rfl, hg⟩ | ⟨slot, ha, hb⟩
    · exact ⟨_, .given hg, rfl, rfl⟩
    · refine ⟨.hole slot, .hole ha hb, ?_, ?_⟩
      · rw [Filling.stretch, Slot.text, ha, Option.getD_some]
      · rw [Filling.stretch, Slot.text, hb, Option.getD_some]

theorem part_of_alike {p p' : Piece} (h : p.Alike (q.origin q') p') :
    ∃ part : Part, part.Shared q q' ∧ part.fill q = p ∧ part.fill q' = p' := by
  cases h with
  | fixed hw => exact ⟨_, .wording hw, rfl, rfl⟩
  | quoted hs =>
    obtain ⟨inside, hi, rfl, rfl⟩ := exists_of_forall₂ hs fun _ _ => filling_of_alike
    exact ⟨_, .literal hi, rfl, rfl⟩
  | name hn => exact ⟨_, .name hn, rfl, rfl⟩
  | backticked hn => exact ⟨_, .backticked hn, rfl, rfl⟩
  | int n => exact ⟨_, .int n, rfl, rfl⟩
  | float x => exact ⟨_, .float x, rfl, rfl⟩
  | direction d => exact ⟨_, .direction d, rfl, rfl⟩
  | topNGroups => exact ⟨_, .topNGroups, rfl, rfl⟩

/-! ## Literals of a template -/

def Filling.content (q : Query) : Filling → List Char
  | .kept s => s.content
  | .hole slot => (slot.text q).toList

/-- Whatever query fills its holes, a literal is read as one literal, from its opening to its closing
quote. -/
theorem scan_literal {inside : List Filling} (h : (Part.literal inside).Shared q q') (r : Query)
    (groups cs : List Char) :
    scan .outside ((Part.literal inside).chars groups r ++ cs) =
      (.quoted .literal (inside.flatMap (Filling.content r)) :: (scan .outside cs).1,
        (scan .outside cs).2) := by
  cases h with
  | literal h =>
    have hfixed : ∀ w, Stretch.fixed w ∈ inside.map (Filling.stretch r) → Verbatim w.toList := by
      intro w hw
      obtain ⟨f, hf, he⟩ := List.mem_map.mp hw
      cases h f hf with
      | wording hl =>
        cases he
        exact hl.verbatim
      | given => cases he
      | hole => cases he
    have hcontent : (inside.map (Filling.stretch r)).flatMap Stretch.content =
        inside.flatMap (Filling.content r) := by
      rw [List.flatMap_map]
      refine congrArg (List.flatMap · inside) (funext fun f => ?_)
      cases f <;> rfl
    rw [← Part.chars_fill, ← hcontent]
    exact Sql.scan_quoted hfixed groups cs

/-- The results of compiling two queries: statements that are instances of one template, whose
literals stay literals whatever fills their holes, or one reason why there are none. -/
def OneTemplate (q q' : Query) (result result' : Except Fault Sql) : Prop :=
  (∃ fault, result = .error fault ∧ result' = .error fault) ∨
    ∃ (sql sql' : Sql) (t : Template), result = .ok sql ∧ result' = .ok sql' ∧
      (∀ part ∈ t, part.Shared q q') ∧
      (∀ groups, sql.bind groups = t.fill groups q ∧ sql'.bind groups = t.fill groups q') ∧
      ∀ inside, Part.literal inside ∈ t → ∀ (r : Query) (groups cs : List Char),
        scan .outside ((Part.literal inside).chars groups r ++ cs) =
          (.quoted .literal (inside.flatMap (Filling.content r)) :: (scan .outside cs).1,
            (scan .outside cs).2)

/-- **Texts of filter values only fill holes.** Queries with one mask have statements that are
instances of one template, or have none for the same reason. Escaped text, whatever it is and
whatever is around it, leaves a reader that is inside of a literal inside of it. -/
theorem statements_of_one_template (h : q.masked = q'.masked) (features : List String)
    (start stop : Int) (panel : Panel) (options : QueryOptions) :
    OneTemplate q q' (Engine.statementSql features start stop panel q options)
      (Engine.statementSql features start stop panel q' options) ∧
    ∀ content s cs : List Char,
      scan (.inside .literal content) (escapeChars s ++ cs) =
        scan (.inside .literal (content ++ s)) cs := by
  refine ⟨?_, scan_escapeChars⟩
  rcases (agree_statementSql h features start stop panel options).ok_iff with he | ⟨s, s', hs, hs', ha⟩
  · exact .inl he
  · obtain ⟨t, ht, rfl, rfl⟩ := exists_of_forall₂ ha fun _ _ => part_of_alike
    exact .inr ⟨_, _, t, hs, hs', ht, fun groups => ⟨bind_map_fill groups q t,
      bind_map_fill groups q' t⟩, fun inside hi r groups cs => scan_literal (ht _ hi) r groups cs⟩

/-- A logs query for rows whose attribute `app` has the given text. -/
def appQuery (text : String) : Query :=
  { signal := .logs
    filters := some ⟨.and, [⟨{ name := "app", dataType := .scalar .string, kind := .tag },
      .compare .eq, .text text⟩]⟩ }

/-- A text that tries to close its literal, and one that does not. -/
theorem statements_of_one_template_app :
    (appQuery "' OR 1=1 --").masked = (appQuery "api").masked ∧
      OneTemplate (appQuery "' OR 1=1 --") (appQuery "api")
        (Engine.statementSql [] 0 60000 .list (appQuery "' OR 1=1 --") {})
        (Engine.statementSql [] 0 60000 .list (appQuery "api") {}) ∧
      ∀ content s cs : List Char,
        scan (.inside .literal content) (escapeChars s ++ cs) =
          scan (.inside .literal (content ++ s)) cs := by
  have h : (appQuery "' OR 1=1 --").masked = (appQuery "api").masked := rfl
  exact ⟨h, statements_of_one_template h [] 0 60000 .list {}⟩

end PanelQuery
