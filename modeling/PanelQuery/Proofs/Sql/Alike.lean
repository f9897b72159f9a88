import PanelQuery.Proofs.Agree
import PanelQuery.Proofs.Sql.Wording
import PanelQuery.Sql.Condition

/-! # Statements that differ only in their given texts

`Sql.Alike o` compares two statements piece by piece. The pieces are equal, except that texts inside
of literals may differ, and every piece has a place where it comes from: wording is of the
vocabulary, and `o` tells which names and which pairs of texts may stand there. A statement that is
`Own` is alike to itself: it has nothing in it but wording, numbers, and the names and texts of
`o`. -/

namespace PanelQuery.Sql

/-- Names that may stand in two statements, and texts that may stand in their literals at the same
place. -/
structure Origin where
  name : String → Prop
  text : String → String → Prop

inductive Stretch.Alike (o : Origin) : Stretch → Stretch → Prop
  | fixed {w : String} (h : LiteralWording w) : Alike o (.fixed w) (.fixed w)
  | given {a b : String} (h : o.text a b) : Alike o (.given a) (.given b)

inductive Piece.Alike (o : Origin) : Piece → Piece → Prop
  | fixed {w : String} (h : Wording w) : Alike o (.fixed w) (.fixed w)
  | quoted {a b : List Stretch} (h : List.Forall₂ (Stretch.Alike o) a b) :
      Alike o (.quoted a) (.quoted b)
  | name {n : String} (h : o.name n) : Alike o (.name n) (.name n)
  | backticked {n : String} (h : o.name n) : Alike o (.backticked n) (.backticked n)
  | int (n : Int) : Alike o (.int n) (.int n)
  | float (x : Float) : Alike o (.float x) (.float x)
  | direction (d : Direction) : Alike o (.direction d) (.direction d)
  | topNGroups : Alike o .topNGroups .topNGroups

def Alike (o : Origin) (a b : Sql) : Prop := List.Forall₂ (Piece.Alike o) a b

abbrev Own (o : Origin) (s : Sql) : Prop := Alike o s s

variable {o : Origin}

theorem Alike.append {a b a' b' : Sql} (h : Alike o a b) (h' : Alike o a' b') :
    Alike o (a ++ a') (b ++ b') := List.rel_append h h'

theorem alike_piece {p p' : Piece} (h : p.Alike o p') : Alike o [p] [p'] := .cons h .nil

theorem own_raw {w : String} (h : Wording w) : Own o (raw w) := alike_piece (.fixed h)

theorem alike_quoted {a b : List Stretch} (h : List.Forall₂ (Stretch.Alike o) a b) :
    Alike o [.quoted a] [.quoted b] := alike_piece (.quoted h)

theorem alike_literal {a b : String} (h : o.text a b) : Alike o (literal a) (literal b) :=
  alike_quoted (.cons (.given h) .nil)

theorem own_int (n : Int) : Own o [.int n] := alike_piece (.int n)

theorem own_float (x : Float) : Own o [.float x] := alike_piece (.float x)

theorem own_direction (d : Direction) : Own o [.direction d] := alike_piece (.direction d)

theorem own_name {n : String} (h : o.name n) : Own o [.name n] := alike_piece (.name h)

theorem own_backticked {n : String} (h : o.name n) : Own o [.backticked n] :=
  alike_piece (.backticked h)

theorem Alike.ite {p : Prop} [Decidable p] {a b a' b' : Sql} (h : Alike o a b)
    (h' : Alike o a' b') : Alike o (if p then a else a') (if p then b else b') := by
  split
  · exact h
  · exact h'

theorem Alike.join {sep : String} (hs : Wording sep) {as bs : List Sql}
    (h : List.Forall₂ (Alike o) as bs) : Alike o (Sql.join sep as) (Sql.join sep bs) := by
  induction h with
  | nil => exact .nil
  | @cons a b as bs hab ht ih =>
    cases ht with
    | nil => exact hab
    | cons _ _ => exact (hab.append (own_raw hs)).append ih

theorem own_join {sep : String} (hs : Wording sep) {parts : List Sql} (h : ∀ s ∈ parts, Own o s) :
    Own o (Sql.join sep parts) := .join hs (List.forall₂_same.mpr h)

theorem own_join_map {α : Type} {sep : String} (hs : Wording sep) {as : List α} {f : α → Sql}
    (h : ∀ a ∈ as, Own o (f a)) : Own o (Sql.join sep (as.map f)) :=
  own_join hs (List.forall_mem_map.mpr h)

theorem own_flatMap {α : Type} {as : List α} {f : α → Sql} (h : ∀ a ∈ as, Own o (f a)) :
    Own o (as.flatMap f) := by
  induction as with
  | nil => exact .nil
  | cons a as ih =>
    rw [List.flatMap_cons]
    exact (h a (by simp)).append (ih fun b hb => h b (by simp [hb]))

/-! ## Conditions -/

def Condition.Alike (o : Origin) (a b : Condition) : Prop := Sql.Alike o a.sql b.sql

theorem alike_atom {a b : Sql} (h : Alike o a b) : (Condition.atom a).Alike o (.atom b) := by
  rw [Condition.Alike, Condition.sql, Condition.sql]
  exact h

theorem alike_partsSql (op : Connective) {as bs : List Condition}
    (h : List.Forall₂ (Condition.Alike o) as bs) :
    Alike o (Condition.partsSql op as) (Condition.partsSql op bs) := by
  induction h with
  | nil =>
    rw [Condition.partsSql]
    exact .nil
  | @cons a b as bs hab ht ih =>
    cases ht with
    | nil =>
      rw [Condition.partsSql, Condition.partsSql]
      exact hab
    | cons _ _ =>
      rw [Condition.partsSql.eq_def, Condition.partsSql.eq_def]
      exact (Alike.append hab (own_raw (.connective op))).append ih

theorem alike_group (op : Connective) {as bs : List Condition}
    (h : List.Forall₂ (Condition.Alike o) as bs) :
    (Condition.group op as).Alike o (.group op bs) := by
  rw [Condition.Alike, Condition.sql, Condition.sql]
  exact ((own_raw .leftParen).append (alike_partsSql op h)).append (own_raw .rightParen)

theorem alike_padded {as bs : List Condition} (h : List.Forall₂ (Condition.Alike o) as bs) :
    (Condition.padded as).Alike o (.padded bs) := by
  rw [Condition.Alike, Condition.sql, Condition.sql]
  exact ((own_raw .paddedLeft).append (alike_partsSql .and h)).append (own_raw .paddedRight)

theorem alike_conjunction {as bs : List Condition} (h : List.Forall₂ (Condition.Alike o) as bs) :
    Alike o (conjunction as) (conjunction bs) := alike_partsSql .and h

end PanelQuery.Sql
