import PanelQuery.Proofs.Decimal.Digits
import PanelQuery.Proofs.Sql.Wording

/-! # Reading a statement back

The tokens of a statement, piece by piece, and the theorem that a reader of the text finds exactly
them. It has a condition, and the condition is exact: no name of the statement has a backslash. A
name with one is not found by the reader. -/

namespace PanelQuery.Sql

open Lexical

/-! ## Numbers and directions -/

theorem unquoted_append {a b : List Char} : Unquoted (a ++ b) ↔ Unquoted a ∧ Unquoted b :=
  List.forall_mem_append

theorem unquoted_of_isDigit {c : Char} (h : c.isDigit = true) : opens? c = none := by
  apply opens?_eq_none <;> rintro rfl <;> exact absurd h (by decide)

theorem unquoted_digits (n : Nat) : Unquoted (Decimal.digits n) := fun c hc =>
  unquoted_of_isDigit (Decimal.isDigit_digits n c hc)

theorem unquoted_ofList {s : String} {cs : List Char} (h : s = String.ofList cs)
    (hc : Unquoted cs) : Unquoted s.toList := by
  rw [h, String.toList_ofList]
  exact hc

theorem unquoted_toString (n : Int) : Unquoted (toString n).toList := by
  rw [Decimal.toList_toString]
  split
  · exact unquoted_digits _
  · exact List.forall_mem_cons.mpr ⟨rfl, unquoted_digits _⟩

theorem unquoted_fixed (x : Float) : Unquoted (Decimal.fixed x).toList := by
  have hsigned : ∀ negative text, Unquoted text.toList →
      Unquoted (Decimal.signed negative text).toList := by
    intro negative text h
    unfold Decimal.signed
    split
    · rw [String.toList_append, unquoted_append]
      exact ⟨unquoted_ofList rfl (by decide), h⟩
    · exact h
  unfold Decimal.fixed
  cases Decimal.Double.ofFloat x with
  | finite negative m q =>
    refine hsigned _ _ (unquoted_ofList rfl ?_)
    have hpad : ∀ n, Unquoted (Decimal.padLeft 6 (Decimal.digits n)) := fun n =>
      unquoted_append.mpr ⟨fun c hc => by rw [List.eq_of_mem_replicate hc]; rfl, unquoted_digits n⟩
    exact unquoted_append.mpr
      ⟨unquoted_digits _, List.forall_mem_cons.mpr ⟨rfl, hpad _⟩⟩
  | infinite negative => exact hsigned _ _ (unquoted_ofList rfl (by decide))
  | notANumber => exact unquoted_ofList rfl (by decide)

theorem unquoted_direction (d : Direction) : Unquoted d.text.toList := by
  intro c hc
  have halpha := d.isAlpha c hc
  apply opens?_eq_none <;> rintro rfl <;> exact absurd halpha (by decide)

/-! ## Tokens of a piece -/

/-- The content of a literal, escapes undone. -/
def Stretch.content : Stretch → List Char
  | .fixed text | .given text => text.toList

def Piece.tokens (groups : List Char) : Piece → List Token
  | .quoted inside => [.quoted .literal (inside.flatMap Stretch.content)]
  | .name n => if isPlainName n.toList then n.toList.map .bare else [.quoted .identifier n.toList]
  | .backticked n => [.quoted .identifier n.toList]
  | p => (scan .outside (p.chars groups)).1

/-- The name that a piece writes. -/
def Piece.nameOf : Piece → Option String
  | .name n | .backticked n => some n
  | _ => none

/-- The names that a statement writes. -/
def names (s : Sql) : List String := s.filterMap Piece.nameOf

/-- What a piece must be for its neighbours to be read rightly. -/
def Piece.Safe : Piece → Prop
  | .fixed w => Closed w
  | .quoted inside => ∀ w, Stretch.fixed w ∈ inside → Verbatim w.toList
  | _ => True

theorem scan_stretches (content : List Char) {inside : List Stretch}
    (h : ∀ w, Stretch.fixed w ∈ inside → Verbatim w.toList) (cs : List Char) :
    scan (.inside .literal content) (inside.flatMap Stretch.chars ++ cs) =
      scan (.inside .literal (content ++ inside.flatMap Stretch.content)) cs := by
  induction inside generalizing content with
  | nil => simp
  | cons s inside ih =>
    have hs : scan (.inside .literal content) (s.chars ++ (inside.flatMap Stretch.chars ++ cs)) =
        scan (.inside .literal (content ++ s.content)) (inside.flatMap Stretch.chars ++ cs) := by
      cases s with
      | fixed w => exact scan_verbatim (h w (by simp)) content _
      | given w => exact scan_escapeChars content w.toList _
    rw [List.flatMap_cons, List.append_assoc, hs, ih _ (fun w hw => h w (by simp [hw])),
      List.flatMap_cons, List.append_assoc]

/-- A literal is read as one, from its opening to its closing quote, whatever texts it has. -/
theorem scan_quoted {inside : List Stretch}
    (h : ∀ w, Stretch.fixed w ∈ inside → Verbatim w.toList) (groups cs : List Char) :
    scan .outside ((Piece.quoted inside).chars groups ++ cs) =
      (.quoted .literal (inside.flatMap Stretch.content) :: (scan .outside cs).1,
        (scan .outside cs).2) := by
  have hc : (Piece.quoted inside).chars groups ++ cs =
      Quote.literal.mark :: (inside.flatMap Stretch.chars ++ Quote.literal.mark :: cs) := by
    simp [Piece.chars, Quote.mark]
  rw [hc, scan_open, scan_stretches [] h, scan_close]
  rfl

theorem scan_of_unquoted {cs : List Char} (h : Unquoted cs) : (scan .outside cs).2 = .outside := by
  rw [scan_unquoted h]

theorem scan_append_of_outside {a : List Char} (h : (scan .outside a).2 = .outside)
    (b : List Char) :
    scan .outside (a ++ b) = ((scan .outside a).1 ++ (scan .outside b).1, (scan .outside b).2) := by
  rw [scan_append, h]

theorem scan_piece {p : Piece} {groups : List Char} (hs : p.Safe)
    (hg : (scan .outside groups).2 = .outside) (hn : ∀ n, p.nameOf = some n → '\\' ∉ n.toList)
    (cs : List Char) :
    scan .outside (p.chars groups ++ cs) =
      (p.tokens groups ++ (scan .outside cs).1, (scan .outside cs).2) := by
  cases p with
  | fixed w => exact scan_append_of_outside hs cs
  | quoted inside => exact scan_quoted hs groups cs
  | name n =>
    rw [Piece.chars, Piece.tokens, identifierChars]
    split
    · next hp =>
      have hu := scan_unquoted (unquoted_of_isPlainName hp)
      rw [scan_append_of_outside (by rw [hu]), hu]
    · exact scan_backtickChars (hn n rfl) cs
  | backticked n => exact scan_backtickChars (hn n rfl) cs
  | int n => exact scan_append_of_outside (scan_of_unquoted (unquoted_toString n)) cs
  | float x => exact scan_append_of_outside (scan_of_unquoted (unquoted_fixed x)) cs
  | direction d => exact scan_append_of_outside (scan_of_unquoted (unquoted_direction d)) cs
  | topNGroups => exact scan_append_of_outside hg cs

/-- A name with a backslash is lost: its token is not the first that the reader finds. -/
theorem scan_piece_backslash {p : Piece} {n : String} (hn : p.nameOf = some n)
    (hb : '\\' ∈ n.toList) (groups cs : List Char) (rest : List Token) :
    (scan .outside (p.chars groups ++ cs)).1 ≠ p.tokens groups ++ rest := by
  have hlost : (scan .outside (backtickChars n ++ cs)).1 ≠ .quoted .identifier n.toList :: rest :=
    fun h => backslash_not_mem_of_first cs (by rw [first, h]; rfl) hb
  cases p with
  | name m =>
    cases Option.some.inj hn
    have hp : isPlainName n.toList = false :=
      Bool.eq_false_iff.mpr fun hp => backslash_not_mem_of_isPlainName hp hb
    simpa [Piece.chars, Piece.tokens, identifierChars, hp] using hlost
  | backticked m =>
    cases Option.some.inj hn
    exact hlost
  | _ => cases hn

theorem flatMap_chars_cons (groups : List Char) (p : Piece) (s : Sql) :
    (p :: s : List Piece).flatMap (Piece.chars groups) =
      p.chars groups ++ s.flatMap (Piece.chars groups) := List.flatMap_cons

/-- A reader of the text finds the tokens of the pieces, and ends outside of quotes, exactly when no
name of the statement has a backslash. -/
theorem scan_bind (groups : String) {s : Sql} (hs : ∀ p ∈ s, p.Safe) (hg : Closed groups) :
    scan .outside (s.bind groups).toList =
        (s.flatMap (Piece.tokens groups.toList), .outside) ↔
      ∀ n ∈ names s, '\\' ∉ n.toList := by
  rw [bind, String.toList_ofList]
  induction s with
  | nil => simp [names, scan]
  | cons p s ih =>
    have ih := ih fun q hq => hs q (by simp [hq])
    rw [flatMap_chars_cons, List.flatMap_cons]
    by_cases hp : ∀ n, p.nameOf = some n → '\\' ∉ n.toList
    · have hnames : (∀ n ∈ names (p :: s), '\\' ∉ n.toList) ↔ ∀ n ∈ names s, '\\' ∉ n.toList := by
        cases hn : p.nameOf with
        | none => rw [names, List.filterMap_cons_none hn, names]
        | some m =>
          rw [names, List.filterMap_cons_some hn, List.forall_mem_cons, ← names]
          exact and_iff_right (hp m hn)
      rw [hnames, ← ih, scan_piece (hs p (by simp)) hg hp, Prod.mk.injEq, List.append_cancel_left_eq,
        ← Prod.mk.injEq]
    · obtain ⟨n, hn, hb⟩ : ∃ n, p.nameOf = some n ∧ '\\' ∈ n.toList := by simpa using hp
      refine iff_of_false (fun h => ?_) fun h => ?_
      · exact scan_piece_backslash hn hb _ _ _ (congrArg Prod.fst h)
      · refine h n ?_ hb
        rw [names, List.filterMap_cons_some hn]
        exact List.mem_cons_self

end PanelQuery.Sql
