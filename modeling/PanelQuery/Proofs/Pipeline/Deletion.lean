import Mathlib.Logic.Basic
import PanelQuery.Pipeline.Processor
import PanelQuery.Proofs.Pipeline.Tokens
import PanelQuery.Proofs.Text.Split

/-! # What a deletion names

A deletion is written with the place above a field and the key below it. Both are found in the
written path of the field, by its last opening bracket. That bracket opens the last index, unless
there is one in the key itself; the key is then torn in two, and what is written names no key. -/

namespace PanelQuery.Pipeline

/-! ## Parts of a field -/

/-- The parts of a field between its dots. -/
def parts (field : String) : List String :=
  (Text.splitOnChar '.' field.toList).map String.ofList

/-- Parts with dots between them are the parts of what they make. -/
theorem parts_join {ps : List String} (hne : ps ≠ []) (h : ∀ p ∈ ps, '.' ∉ p.toList) :
    parts (Text.join "." ps) = ps := by
  induction ps with
  | nil => exact absurd rfl hne
  | cons p ps ih =>
    rw [List.forall_mem_cons] at h
    cases ps with
    | nil =>
      rw [Text.join, parts, Text.splitOnChar_of_not_mem h.1]
      simp
    | cons next ps =>
      have hjoin : (Text.join "." (p :: next :: ps)).toList =
          p.toList ++ '.' :: (Text.join "." (next :: ps)).toList := by simp [Text.join]
      have hrest := ih (List.cons_ne_nil _ _) h.2
      rw [parts] at hrest
      rw [parts, hjoin, Text.splitOnChar_append h.1, List.map_cons, hrest, String.ofList_toList]

theorem dot_not_mem_of_mem_parts {field p : String} (h : p ∈ parts field) : '.' ∉ p.toList := by
  obtain ⟨cs, hcs, rfl⟩ := List.mem_map.mp h
  rw [String.toList_ofList]
  exact Text.not_mem_of_mem_splitOnChar hcs

/-! ## Written paths -/

/-- The written path of a place below a map. -/
def below (root : String) (keys : List String) : String :=
  keys.foldl (fun written key => written ++ index key) root

theorem below_snoc (root : String) (keys : List String) (key : String) :
    below root (keys ++ [key]) = below root keys ++ index key := by
  rw [below, List.foldl_append]
  rfl

theorem below_ne_empty {root : String} (h : root ≠ "") (keys : List String) :
    below root keys ≠ "" := by
  induction keys generalizing root with
  | nil => exact h
  | cons key keys ih =>
    have hroot : root ++ index key ≠ "" := by simp [String.append_eq_empty_iff, h]
    exact ih hroot

theorem exists_root {part : String} (h : part = "attributes" ∨ part = "resource") :
    ∃ root, root? part = some root ∧ root ≠ "" := by
  rcases h with rfl | rfl
  · exact ⟨"attributes", by decide, by decide⟩
  · exact ⟨"resource.attributes", by decide, by decide⟩

theorem path_of_parts {field part root : String} {keys : List String}
    (h : parts field = part :: keys) (hroot : root? part = some root) :
    path field = below root keys := by
  rw [parts] at h
  rw [path, h]
  simp only [hroot]
  rfl

/-- The path of the first parts of a field. -/
theorem path_join {field part root : String} {keys more : List String}
    (h : parts field = part :: keys ++ more) (hroot : root? part = some root) :
    path (Text.join "." (part :: keys)) = below root keys := by
  refine path_of_parts (parts_join (List.cons_ne_nil _ _) fun p hp => ?_) hroot
  have hmem : p ∈ parts field := by
    rw [h]
    exact List.mem_append_left more hp
  exact dot_not_mem_of_mem_parts hmem

theorem append_index (target key : String) :
    target ++ index key = target ++ "[" ++ quote key ++ "]" := by
  rw [index, String.append_assoc, String.append_assoc, String.append_assoc]

/-! ## The cut -/

theorem escape_append (a b : String) : escape (a ++ b) = escape a ++ escape b := by
  rw [escape, String.toList_append, List.flatMap_append, String.ofList_append]
  rfl

theorem bracket_mem_escape_iff {s : String} : '[' ∈ (escape s).toList ↔ '[' ∈ s.toList := by
  have hchar : ∀ c, '[' ∈ escapeChar c ↔ c = '[' := by
    intro c
    unfold escapeChar
    split
    · next hc => simp [hc]
    split
    · next hc => simp [hc]
    · simp [eq_comm]
  rw [escape, String.toList_ofList, List.mem_flatMap]
  simp only [hchar, exists_eq_right]

/-- A text without an opening bracket, closed by a quote and a bracket, is what is behind the last
opening one. Of the marks that close it only the bracket is left out. -/
theorem cut?_append {front back : String} (hfront : front ≠ "") (h : '[' ∉ back.toList) :
    cut? (front ++ "[" ++ back ++ "\"]") = some (front, back ++ "\"") := by
  have hlist : (front ++ "[" ++ back ++ "\"]").toList =
      front.toList ++ '[' :: (back.toList ++ ['"', ']']) := by simp
  have hback : '[' ∉ back.toList ++ ['"', ']'] := by simpa using h
  have hkey : (back.toList ++ ['"', ']']).reverse.dropWhile (· == ']') =
      '"' :: back.toList.reverse := by simp
  obtain ⟨c, cs, hcs⟩ := List.exists_cons_of_ne_nil (String.toList_eq_nil_iff.not.mpr hfront)
  rw [cut?, hlist, Text.splitLast_append hback, hcs]
  simp only [hkey]
  rw [← hcs, String.ofList_toList, List.reverse_cons, List.reverse_reverse, String.ofList_append,
    String.ofList_toList]

/-- The last index of a path is what is cut off, if there is no opening bracket in its key. -/
theorem cut?_index {target key : String} (ht : target ≠ "") (h : '[' ∉ key.toList) :
    cut? (target ++ index key) = some (target, quote key) := by
  have hkey : '[' ∉ ("\"" ++ escape key).toList := by
    simpa [bracket_mem_escape_iff] using h
  have hindex : target ++ index key = target ++ "[" ++ ("\"" ++ escape key) ++ "\"]" := by
    refine String.toList_inj.mp ?_
    simp only [index, quote, String.toList_append, List.append_assoc]
    rfl
  rw [hindex, cut?_append ht hkey]
  rfl

/-- The key of the last index is torn at its own last opening bracket. -/
theorem cut?_index_torn (target front : String) {back : String} (h : '[' ∉ back.toList) :
    cut? (target ++ index (front ++ "[" ++ back)) =
      some (target ++ "[\"" ++ escape front, escape back ++ "\"") := by
  have hne : target ++ "[\"" ++ escape front ≠ "" := by simp [String.append_eq_empty_iff]
  have hback : '[' ∉ (escape back).toList := bracket_mem_escape_iff.not.mpr h
  have hbracket : escape "[" = "[" := by decide +kernel
  have hindex : target ++ index (front ++ "[" ++ back) =
      target ++ "[\"" ++ escape front ++ "[" ++ escape back ++ "\"]" := by
    refine String.toList_inj.mp ?_
    simp only [index, quote, escape_append, hbracket, String.toList_append, List.append_assoc]
    rfl
  rw [hindex, cut?_append hne hback]

/-- A text with an opening bracket, cut at the last one. -/
theorem exists_last_bracket {s : String} (h : '[' ∈ s.toList) :
    ∃ front back : String, s = front ++ "[" ++ back ∧ '[' ∉ back.toList := by
  obtain ⟨a, b, hab, ha⟩ := List.eq_append_cons_of_mem (List.mem_reverse.mpr h)
  have hs : s.toList = b.reverse ++ '[' :: a.reverse := by
    rw [← List.reverse_reverse s.toList, hab]
    simp
  refine ⟨String.ofList b.reverse, String.ofList a.reverse, String.toList_inj.mp ?_, ?_⟩
  · simp [hs]
  · rwa [String.toList_ofList, List.mem_reverse]

/-! ## The deletion -/

/-- The statement that deletes what stands at `key` below `target`, where there is something at
`path`. -/
def deletionText (target key path : String) : String :=
  "delete_key(" ++ target ++ ", " ++ key ++ ")" ++ " where " ++ (path ++ " != nil")

theorem written_delete (target key path : String) :
    Statement.written ⟨.delete target key, [.present path]⟩ = deletionText target key path := by
  have hne : path ++ " != nil" ≠ "" := by simp [String.append_eq_empty_iff]
  have hconditions : ([Condition.present path].map Condition.written).filter (· ≠ "") =
      [path ++ " != nil"] := List.filter_cons_of_pos (decide_eq_true hne)
  rw [Statement.written, hconditions]
  rfl

theorem deletionText_torn (target front back path : String) :
    deletionText (target ++ "[\"" ++ escape front) (escape back ++ "\"") path =
      "delete_key(" ++ target ++ "[" ++ quote (front ++ ", " ++ back) ++ ")" ++ " where " ++
        (path ++ " != nil") := by
  have hcomma : escape ", " = ", " := by decide +kernel
  refine String.toList_inj.mp ?_
  delta deletionText
  simp only [quote, escape_append, hcomma, String.toList_append, List.append_assoc]
  rfl

/-- A place is followed by a comma if it is whole, and by a bracket if it is torn. -/
theorem deletionText_ne_torn (target key front back path : String) :
    deletionText target key path ≠
      deletionText (target ++ "[\"" ++ escape front) (escape back ++ "\"") path := by
  intro h
  delta deletionText at h
  simp only [String.append_assoc, String.append_right_inj] at h
  have hhead := congrArg (fun s => s.toList.head?) h
  simp only [String.toList_append] at hhead
  cases hhead

theorem exists_cut {target : String} (ht : target ≠ "") (last : String) :
    ∃ place key, cut? (target ++ index last) = some (place, key) := by
  by_cases h : '[' ∈ last.toList
  · obtain ⟨front, back, rfl, hback⟩ := exists_last_bracket h
    exact ⟨_, _, cut?_index_torn target front hback⟩
  · exact ⟨_, _, cut?_index ht h⟩

section

variable {field place key : String} {o : PipelineOperator}

theorem deletion_of_cut (h : cut? (path field) = some (place, key)) :
    PipelineOperator.deletion field = .ok ⟨.delete place key, [.present (path field)]⟩ := by
  simp only [PipelineOperator.deletion, h]

theorem statements_remove (hkind : o.kind = "remove")
    (h : cut? (path o.field) = some (place, key)) :
    o.statements = .ok [⟨.delete place key, [.present (path o.field)]⟩] := by
  simp only [PipelineOperator.statements, hkind, deletion_of_cut h]
  rfl

theorem statements_move (hkind : o.kind = "move")
    (h : cut? (path o.source) = some (place, key)) :
    o.statements = .ok [⟨.copy o.source o.target, []⟩,
      ⟨.delete place key, [.present (path o.source)]⟩] := by
  simp only [PipelineOperator.statements, hkind, deletion_of_cut h]
  rfl

end

/-- The statement deletes the attribute `last` of the place that is written for `above`: the key is
one text in quotes, read as `last`, and place and key make the path of the field. -/
def Deletes (s : Statement) (field above last : String) : Prop :=
  ∃ key, s.written = deletionText (path above) key (path field) ∧
    path field = path above ++ "[" ++ key ++ "]" ∧ Grammar.Closed key [.text last]

/-- The last part of a field is the last index of its path. -/
theorem path_snoc {field part last : String} {before : List String}
    (hpart : part = "attributes" ∨ part = "resource")
    (hparts : parts field = part :: before ++ [last]) :
    path field = path (Text.join "." (part :: before)) ++ index last ∧
      path (Text.join "." (part :: before)) ≠ "" := by
  obtain ⟨root, hroot, hne⟩ := exists_root hpart
  have habove : path (Text.join "." (part :: before)) = below root before :=
    path_join hparts hroot
  have hkeys : parts field = part :: (before ++ [last]) := hparts
  rw [path_of_parts hkeys hroot, habove, below_snoc]
  exact ⟨rfl, below_ne_empty hne before⟩

section

variable {field above last place key : String} (hpath : path field = path above ++ index last)
  (hcut : cut? (path field) = some (place, key))

include hpath hcut

theorem written_torn {front back : String} (hlast : last = front ++ "[" ++ back)
    (hback : '[' ∉ back.toList) :
    Statement.written ⟨.delete place key, [.present (path field)]⟩ =
      "delete_key(" ++ path above ++ "[" ++ quote (front ++ ", " ++ back) ++ ")" ++
        " where " ++ (path field ++ " != nil") := by
  rw [hpath, hlast, cut?_index_torn _ _ hback] at hcut
  cases hcut
  rw [written_delete, deletionText_torn]

theorem deletes_iff (hplace : path above ≠ "") :
    Deletes ⟨.delete place key, [.present (path field)]⟩ field above last ↔ '[' ∉ last.toList := by
  constructor
  · rintro ⟨other, hwritten, -, -⟩ hmem
    obtain ⟨front, back, rfl, hback⟩ := exists_last_bracket hmem
    rw [hpath, cut?_index_torn _ _ hback] at hcut
    cases hcut
    rw [written_delete] at hwritten
    exact deletionText_ne_torn _ _ _ _ _ hwritten.symm
  · intro h
    rw [hpath, cut?_index hplace h] at hcut
    cases hcut
    exact ⟨quote last, written_delete _ _ _, hpath.trans (append_index _ _),
      Grammar.closed_quote last⟩

end

/-- **A deletion names the attribute of its path, unless there is an opening bracket in its key.**
Take a field below `attributes` or `resource`, with any characters in its parts. Its path is that of
the parts before the last one, with the last one in quotes as index. Removing the field and moving
it delete by one and the same statement. It deletes the attribute `last` of that place if and only
if there is no opening bracket in `last`. If there is one, the statement has a single text, in which
the two sides of the last bracket stand with a comma between them, behind a bracket that is not
closed. -/
theorem deletion_names {field part last : String} {before : List String}
    (hpart : part = "attributes" ∨ part = "resource")
    (hparts : parts field = part :: before ++ [last]) :
    let above := Text.join "." (part :: before)
    path field = path above ++ "[" ++ quote last ++ "]" ∧
    Grammar.Closed (quote last) [.text last] ∧
    ∃ s, (∀ o : PipelineOperator, o.kind = "remove" → o.field = field →
        o.statements = .ok [s]) ∧
      (∀ o : PipelineOperator, o.kind = "move" → o.source = field →
        o.statements = .ok [⟨.copy field o.target, []⟩, s]) ∧
      (Deletes s field above last ↔ '[' ∉ last.toList) ∧
      ∀ front back : String, last = front ++ "[" ++ back → '[' ∉ back.toList →
        s.written = "delete_key(" ++ path above ++ "[" ++ quote (front ++ ", " ++ back) ++ ")" ++
          " where " ++ (path field ++ " != nil") := by
  intro above
  obtain ⟨hpath, hplace⟩ := path_snoc hpart hparts
  obtain ⟨place, key, hcut⟩ := exists_cut hplace last
  rw [← hpath] at hcut
  refine ⟨hpath.trans (append_index _ _), Grammar.closed_quote last,
    ⟨.delete place key, [.present (path field)]⟩, ?_, ?_, deletes_iff hpath hcut hplace,
    fun front back hlast hback => written_torn hpath hcut hlast hback⟩
  · rintro o hkind rfl
    exact statements_remove hkind hcut
  · rintro o hkind rfl
    exact statements_move hkind hcut

/-- The tag of a list entry cannot be removed: its brackets are torn apart. -/
theorem deletion_names_entry :
    parts "attributes.a[0]" = "attributes" :: [] ++ ["a[0]"] ∧
    ∃ s, (∀ o : PipelineOperator, o.kind = "remove" → o.field = "attributes.a[0]" →
        o.statements = .ok [s]) ∧
      ¬ Deletes s "attributes.a[0]" "attributes" "a[0]" ∧
      s.written = "delete_key(attributes[\"a, 0]\") where attributes[\"a[0]\"] != nil" := by
  have hparts : parts "attributes.a[0]" = "attributes" :: [] ++ ["a[0]"] := by decide +kernel
  obtain ⟨-, -, s, hremove, -, hdeletes, htorn⟩ := deletion_names (.inl rfl) hparts
  refine ⟨hparts, s, hremove, fun h => hdeletes.mp h (by decide), ?_⟩
  rw [htorn "a" "0]" rfl (by decide)]
  decide +kernel

end PanelQuery.Pipeline
