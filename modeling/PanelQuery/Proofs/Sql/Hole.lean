import PanelQuery.Engine

/-! # The hole of a statement

`holes` counts how often a statement asks for the groups of a first pass. A statement without a hole
has one text, whatever groups it is given; one with a single hole has the groups between two texts
that do not depend on them. Names, values and wording are no holes, even if they are spelled like
the text that is shown for one. -/

namespace PanelQuery.Sql

/-- How often a statement asks for groups. -/
def holes (sql : Sql) : Nat := List.countP Piece.isHole sql

@[simp] theorem holes_nil : holes [] = 0 := rfl

@[simp] theorem holes_append (a b : Sql) : holes (a ++ b) = holes a + holes b :=
  List.countP_append

@[simp] theorem holes_raw (text : String) : holes (raw text) = 0 := rfl

@[simp] theorem holes_literal (s : String) : holes (literal s) = 0 := rfl

attribute [simp] Piece.isHole

@[simp] theorem holes_cons (p : Piece) (s : Sql) :
    holes (p :: s) = holes s + if p.isHole then 1 else 0 := List.countP_cons

theorem holes_join (sep : String) {parts : List Sql} (h : ∀ s ∈ parts, holes s = 0) :
    holes (join sep parts) = 0 := by
  induction parts with
  | nil => rfl
  | cons s parts ih =>
    have hs : holes s = 0 := h s List.mem_cons_self
    have hrest : holes (join sep parts) = 0 := ih fun t ht => h t (List.mem_cons_of_mem s ht)
    cases parts with
    | nil => exact hs
    | cons t parts => simp only [join, holes_append, holes_raw, hs, hrest]

theorem holes_flatMap {α : Type} {as : List α} {f : α → Sql} (h : ∀ a ∈ as, holes (f a) = 0) :
    holes (as.flatMap f) = 0 := by
  induction as with
  | nil => rfl
  | cons a as ih =>
    have ha : holes (f a) = 0 := h a List.mem_cons_self
    have hrest : holes (as.flatMap f) = 0 := ih fun b hb => h b (List.mem_cons_of_mem a hb)
    rw [List.flatMap_cons, holes_append, ha, hrest]

/-! ## Binding -/

@[simp] theorem bind_nil (groups : String) : bind groups [] = "" := rfl

theorem bind_cons (groups : String) (p : Piece) (s : Sql) :
    bind groups (p :: s) = String.ofList (p.chars groups.toList) ++ bind groups s := by
  rw [bind, bind, ← String.ofList_append]
  rfl

theorem bind_append (groups : String) (a b : Sql) :
    bind groups (a ++ b) = bind groups a ++ bind groups b := by
  rw [bind, bind, bind, ← String.ofList_append]
  exact congrArg String.ofList List.flatMap_append

theorem bind_raw (groups text : String) : bind groups (raw text) = text := by
  rw [raw, bind_cons, bind_nil, String.append_empty]
  exact String.ofList_toList

/-- A piece that is no hole has one text, whatever the groups are. -/
theorem chars_of_not_isHole {p : Piece} (h : p.isHole = false) (groups groups' : List Char) :
    p.chars groups = p.chars groups' := by
  cases p with
  | topNGroups => cases h
  | _ => rfl

/-- A statement without a hole has one text. -/
theorem bind_eq_text {s : Sql} (h : holes s = 0) (groups : String) : bind groups s = text s := by
  have hp : ∀ p ∈ s, p.isHole = false := by
    intro p hp
    have := List.countP_eq_zero.mp h p hp
    simpa using this
  rw [text, bind, bind]
  refine congrArg String.ofList ?_
  induction s with
  | nil => rfl
  | cons p s ih =>
    have hrest : holes s = 0 := by
      unfold holes at h ⊢
      rw [List.countP_cons] at h
      omega
    rw [List.flatMap_cons, List.flatMap_cons, ih hrest fun q hq => hp q (List.mem_cons_of_mem p hq),
      chars_of_not_isHole (hp p List.mem_cons_self)]

theorem text_append (a b : Sql) : text (a ++ b) = text a ++ text b := bind_append _ a b

theorem text_raw (w : String) : text (raw w) = w := bind_raw _ w

theorem text_nil : text [] = "" := rfl

theorem text_int_cons (n : Int) (s : Sql) : text (.int n :: s) = toString n ++ text s := by
  rw [text, bind_cons, text]
  exact congrArg (· ++ _) String.ofList_toList

theorem text_name (n : String) : text [.name n] = quoteIdentifier n := by
  rw [text, bind_cons, bind_nil, String.append_empty]
  rfl

theorem text_direction (d : Direction) : text [.direction d] = d.text := by
  rw [text, bind_cons, bind_nil, String.append_empty]
  exact String.ofList_toList

theorem text_backticked (n : String) : text [.backticked n] = quoteAlias n := by
  rw [text, bind_cons, bind_nil, String.append_empty]
  rfl

theorem text_literal (s : String) : text (literal s) = quoteString s := by
  rw [text, literal, bind_cons, bind_nil, String.append_empty, quoteString]
  simp [Piece.chars, quoteChars, Stretch.chars]

theorem text_join (sep : String) (parts : List Sql) :
    text (join sep parts) = sep.intercalate (parts.map text) := by
  induction parts with
  | nil => rfl
  | cons s parts ih =>
    cases parts with
    | nil => rfl
    | cons t parts =>
      have hjoin : join sep (s :: t :: parts) = s ++ raw sep ++ join sep (t :: parts) := rfl
      rw [hjoin, text_append, text_append, text_raw, ih]
      exact String.intercalate_cons_cons.symm

/-- The groups stand in the place of the hole, between the texts around it. -/
theorem bind_hole {front back : Sql} (hf : holes front = 0) (hb : holes back = 0)
    (groups : String) :
    bind groups (front ++ [.topNGroups] ++ back) = text front ++ groups ++ text back := by
  have hg : bind groups [.topNGroups] = groups := by
    rw [bind_cons, bind_nil, String.append_empty]
    exact String.ofList_toList
  rw [bind_append, bind_append, bind_eq_text hf, bind_eq_text hb, hg]

theorem needsGroups_iff (s : Sql) : s.needsGroups = true ↔ holes s ≠ 0 := by
  rw [needsGroups, List.any_eq_true, holes, ← Nat.pos_iff_ne_zero, List.countP_pos_iff]

/-- Only a statement without a hole can be run. -/
theorem final_eq (s : Sql) : s.final = if holes s = 0 then .ok s.text
    else .error (.internal "top-n group list was not bound before execution") := by
  unfold final final?
  by_cases h : holes s = 0
  · have hn : s.needsGroups = false :=
      Bool.eq_false_iff.mpr fun hn => (needsGroups_iff s).mp hn h
    simp [h, hn, bind_eq_text h]
  · have hn : s.needsGroups = true := (needsGroups_iff s).mpr h
    simp [h, hn]

end PanelQuery.Sql
