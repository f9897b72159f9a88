import PanelQuery.Sql.Piece

/-! # The columns of a select list

`scan` reads a select list character by character; a name counts as one whole word. Commas outside
of parentheses end a column, the word FROM ends the list. A column is called by the word after `as`,
or by its only word. A star stands for the columns of the statement inside, so reading goes on
there. -/

namespace PanelQuery.Sql

namespace SelectList

/-- What a reader sees of a statement. -/
inductive Symbol where
  | char (c : Char)
  | name (n : String)
  | value

/-- A word of wording, or a whole name. -/
inductive Word where
  | letters (cs : List Char)
  | name (n : String)
  deriving DecidableEq, Repr

def Word.text : Word → String
  | .letters cs => String.ofList cs
  | .name n => n

/-- Where a reader stands. Words are read last letter first. -/
inductive Place where
  /-- In front of a select list. -/
  | before (word : List Char)
  /-- In a column, with its words outside of parentheses, the last one first. -/
  | column (depth : Nat) (word : List Char) (words : List Word)
  | done
  | failed
  deriving DecidableEq, Repr

/-- At the beginning of a column. -/
def Place.start : Place := .column 0 [] []

/-- The name of a column from its words, the last one first. -/
def columnName? : List Word → Option String
  | [] => none
  | [w] => if w = .letters ['*'] then none else some w.text
  | w :: before :: _ => if before = .letters ['a', 's'] then some w.text else none

/-- The words of a column when `word` is complete. -/
def complete (depth : Nat) (word : List Char) (words : List Word) : List Word :=
  if depth = 0 ∧ word ≠ [] then .letters word.reverse :: words else words

/-- The column ends, and reading goes on from `next`. -/
def endColumn (words : List Word) (next : Place) : List String × Place :=
  match columnName? words with
  | some n => ([n], next)
  | none => ([], .failed)

/-- A character that belongs to a word. -/
def isLetter (c : Char) : Bool := Text.isWordChar c || c == '*'

/-- One symbol: the column that ends with it, if any, and the next place. -/
def step : Place → Symbol → List String × Place
  | .before word, .char c =>
    if isLetter c then ([], .before (c :: word))
    else if word = ['T', 'C', 'E', 'L', 'E', 'S'] then ([], .start)
    else if word = [] then ([], .before [])
    else ([], .failed)
  | .before _, _ => ([], .failed)
  | .column depth word words, .char c =>
    if isLetter c then ([], .column depth (c :: word) words)
    else if depth = 0 ∧ word = ['M', 'O', 'R', 'F'] then
      if words = [.letters ['*']] then ([], .before []) else endColumn words .done
    else if c = ',' ∧ depth = 0 then endColumn (complete depth word words) .start
    else if c = '(' then ([], .column (depth + 1) [] (complete depth word words))
    else if c = ')' then
      ([], if depth = 0 then .failed else .column (depth - 1) [] (complete depth word words))
    else ([], .column depth [] (complete depth word words))
  | .column depth word words, .name n =>
    ([], .column depth [] (if depth = 0 then .name n :: complete depth word words else words))
  | .column depth word words, .value => ([], .column depth [] (complete depth word words))
  | .done, _ => ([], .done)
  | .failed, _ => ([], .failed)

/-- The columns that end in a row of symbols, and the place after it. -/
def scan : Place → List Symbol → List String × Place
  | p, [] => ([], p)
  | p, s :: rest => ((step p s).1 ++ (scan (step p s).2 rest).1, (scan (step p s).2 rest).2)

theorem scan_append (p : Place) (a b : List Symbol) :
    scan p (a ++ b) = ((scan p a).1 ++ (scan (scan p a).2 b).1, (scan (scan p a).2 b).2) := by
  induction a generalizing p with
  | nil => simp [scan]
  | cons s a ih => simp [scan, ih]

theorem scan_done (ss : List Symbol) : scan .done ss = ([], .done) := by
  induction ss with
  | nil => rfl
  | cons s ss ih => simp [scan, step, ih]

end SelectList

open SelectList

/-- The symbols of a piece: literals and numbers are values, directions are wording. -/
def Piece.symbols : Piece → List Symbol
  | .fixed text => text.toList.map .char
  | .name n | .backticked n => [.name n]
  | .direction d => d.text.toList.map .char
  | .quoted _ | .int _ | .float _ | .topNGroups => [.value]

def symbols (sql : Sql) : List Symbol := sql.flatMap Piece.symbols

/-- The columns that a statement selects, if its select list can be read. -/
def selected? (sql : Sql) : Option (List String) :=
  match scan (.before []) sql.symbols with
  | (columns, .done) => some columns
  | _ => none

namespace SelectList

/-- From one place to another, the part ends these columns. -/
def Reads (p : Place) (sql : Sql) (columns : List String) (p' : Place) : Prop :=
  scan p sql.symbols = (columns, p')

namespace Reads

variable {p p' p'' : Place} {a b : Sql} {cs ds : List String}

theorem nil (p : Place) : Reads p [] [] p := rfl

theorem append (ha : Reads p a cs p') (hb : Reads p' b ds p'') :
    Reads p (a ++ b) (cs ++ ds) p'' := by
  rw [Reads, symbols, List.flatMap_append, scan_append, show scan p (a.flatMap _) = _ from ha,
    show scan p' (b.flatMap _) = _ from hb]

/-- The part in front of another one in which no column ends. -/
theorem before (ha : Reads p a cs p') (hb : Reads p' b [] p'') : Reads p (a ++ b) cs p'' := by
  simpa using ha.append hb

/-- Nothing is read after the end of the list. -/
theorem finished (h : Reads p a cs .done) (b : Sql) : Reads p (a ++ b) cs .done :=
  h.before (scan_done _)

/-- Wording is read on its characters. -/
theorem raw {w : String} {ws : List Char} (hw : w = String.ofList ws)
    (h : scan p (ws.map .char) = (cs, p')) : Reads p (Sql.raw w) cs p' := by
  rw [Reads, Sql.raw, symbols, List.flatMap_singleton, Piece.symbols, hw, String.toList_ofList]
  exact h

/-- Wording that is put together from two texts. -/
theorem raw_append {v w : String} (hv : Reads p (Sql.raw v) cs p')
    (hw : Reads p' (Sql.raw w) ds p'') : Reads p (Sql.raw (v ++ w)) (cs ++ ds) p'' := by
  have hsymbols : (Sql.raw (v ++ w)).symbols = (Sql.raw v ++ Sql.raw w).symbols := by
    simp [Sql.raw, symbols, Piece.symbols]
  rw [Reads, hsymbols]
  exact hv.append hw

theorem selected (h : Reads (.before []) a cs .done) : a.selected? = some cs := by
  rw [selected?, show scan _ _ = _ from h]

/-- Columns one after the other. -/
theorem flatMap {α : Type} {as : List α} {f : α → Sql} {g : α → String}
    (h : ∀ a ∈ as, Reads p (f a) [g a] p) : Reads p (as.flatMap f) (as.map g) p := by
  induction as with
  | nil => exact nil p
  | cons a as ih =>
    rw [List.forall_mem_cons] at h
    rw [List.flatMap_cons, List.map_cons]
    exact h.1.append (ih h.2)

end Reads

/-- Inside of parentheses the part leads from one depth to another, whatever column it is in. -/
def Spans (depth : Nat) (sql : Sql) (depth' : Nat) : Prop :=
  ∀ word words, ∃ word', Reads (.column depth word words) sql [] (.column depth' word' words)

namespace Spans

variable {d d' d'' : Nat} {v w : String}

theorem raw {ws : List Char} (hw : w = String.ofList ws)
    (h : ∀ word words, ∃ word',
      scan (.column d word words) (ws.map .char) = ([], .column d' word' words)) :
    Spans d (Sql.raw w) d' := fun word words =>
  (h word words).imp fun _ hs => .raw hw hs

theorem append (hv : Spans d (Sql.raw v) d') (hw : Spans d' (Sql.raw w) d'') :
    Spans d (Sql.raw (v ++ w)) d'' := by
  intro word words
  obtain ⟨word', hfirst⟩ := hv word words
  obtain ⟨word'', hsecond⟩ := hw word' words
  exact ⟨word'', hfirst.raw_append hsecond⟩

end Spans

/-- Reading gets into the parentheses of a column with these words. -/
def Reaches (p : Place) (sql : Sql) (depth : Nat) (words : List Word) : Prop :=
  ∃ word, Reads p sql [] (.column depth word words)

theorem Reaches.append {p : Place} {d d' : Nat} {v w : String} {words : List Word}
    (h : Reaches p (Sql.raw v) d words) (hs : Spans d (Sql.raw w) d') :
    Reaches p (Sql.raw (v ++ w)) d' words := by
  obtain ⟨word, hread⟩ := h
  obtain ⟨word', hnext⟩ := hs word words
  exact ⟨word', hread.raw_append hnext⟩

end SelectList

end PanelQuery.Sql
