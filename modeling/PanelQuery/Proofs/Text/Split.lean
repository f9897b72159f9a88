import PanelQuery.Text.Blank

/-! # Texts cut at a separator

A text is cut at every separator into parts without one, at the first, or at the last. What has no
separator where the cut is looked for cannot move it. -/

namespace PanelQuery.Text

variable {sep : Char} {cs front back part : List Char}

/-! ## Every separator -/

theorem splitOnChar_ne_nil (sep : Char) (cs : List Char) : splitOnChar sep cs ≠ [] := by
  cases cs with
  | nil => simp [splitOnChar]
  | cons c cs =>
    rw [splitOnChar]
    split
    · simp
    · split <;> simp

/-- A list is its parts with the separator between them. -/
theorem splitOnChar_eq {parts : List (List Char)} (h : splitOnChar sep cs = part :: parts) :
    cs = part ++ parts.flatMap (sep :: ·) := by
  induction cs generalizing part parts with
  | nil =>
    cases h
    rfl
  | cons c cs ih =>
    rw [splitOnChar] at h
    split at h
    · next hc =>
      obtain ⟨rfl, rfl⟩ := List.cons.inj h
      cases hs : splitOnChar sep cs with
      | nil => exact absurd hs (splitOnChar_ne_nil sep cs)
      | cons p ps => rw [ih hs, hc]; rfl
    · split at h
      · next hs => exact absurd hs (splitOnChar_ne_nil sep cs)
      · next p ps hs =>
        obtain ⟨rfl, rfl⟩ := List.cons.inj h
        rw [ih hs]
        rfl

theorem splitOnChar_of_not_mem (h : sep ∉ cs) : splitOnChar sep cs = [cs] := by
  induction cs with
  | nil => rfl
  | cons c cs ih =>
    rw [List.mem_cons, not_or] at h
    rw [splitOnChar, if_neg (Ne.symm h.1), ih h.2]

theorem splitOnChar_append (h : sep ∉ front) (cs : List Char) :
    splitOnChar sep (front ++ sep :: cs) = front :: splitOnChar sep cs := by
  induction front with
  | nil => rw [List.nil_append, splitOnChar, if_pos rfl]
  | cons c front ih =>
    rw [List.mem_cons, not_or] at h
    rw [List.cons_append, splitOnChar, if_neg (Ne.symm h.1), ih h.2]

/-- Parts without a separator are found again behind the separators in front of them. -/
theorem splitOnChar_flatMap {parts : List (List Char)} (h : sep ∉ part)
    (hparts : ∀ p ∈ parts, sep ∉ p) :
    splitOnChar sep (part ++ parts.flatMap (sep :: ·)) = part :: parts := by
  induction parts generalizing part with
  | nil => rw [List.flatMap_nil, List.append_nil, splitOnChar_of_not_mem h]
  | cons p parts ih =>
    obtain ⟨hp, hrest⟩ := List.forall_mem_cons.mp hparts
    rw [List.flatMap_cons, List.cons_append, splitOnChar_append h, ih hp hrest]

/-- There is no separator inside a part. -/
theorem not_mem_of_mem_splitOnChar (h : part ∈ splitOnChar sep cs) : sep ∉ part := by
  induction cs generalizing part with
  | nil =>
    rw [List.mem_singleton.mp h]
    exact List.not_mem_nil
  | cons c cs ih =>
    rw [splitOnChar] at h
    split at h
    · rcases List.mem_cons.mp h with rfl | h
      · exact List.not_mem_nil
      · exact ih h
    next hc =>
    split at h
    · next hs => exact absurd hs (splitOnChar_ne_nil sep cs)
    · next first rest hs =>
      rw [hs] at ih
      rcases List.mem_cons.mp h with rfl | h
      · rw [List.mem_cons, not_or]
        exact ⟨Ne.symm hc, ih List.mem_cons_self⟩
      · exact ih (List.mem_cons_of_mem first h)

/-! ## One separator -/

theorem splitFirst_append (h : sep ∉ front) (back : List Char) :
    splitFirst sep (front ++ sep :: back) = some (front, back) := by
  induction front with
  | nil => rw [List.nil_append, splitFirst, if_pos rfl]
  | cons c front ih =>
    rw [List.mem_cons, not_or] at h
    rw [List.cons_append, splitFirst, if_neg (Ne.symm h.1), ih h.2]
    rfl

theorem splitFirst_of_not_mem (h : sep ∉ cs) : splitFirst sep cs = none := by
  induction cs with
  | nil => rfl
  | cons c cs ih =>
    rw [List.mem_cons, not_or] at h
    rw [splitFirst, if_neg (Ne.symm h.1), ih h.2]
    rfl

/-- A list is the two parts with the separator between them. -/
theorem splitFirst_eq (h : splitFirst sep cs = some (front, back)) : cs = front ++ sep :: back := by
  by_cases hmem : sep ∈ cs
  · obtain ⟨front', back', rfl, hfront⟩ := List.eq_append_cons_of_mem hmem
    rw [splitFirst_append hfront] at h
    obtain ⟨rfl, rfl⟩ := Prod.mk.inj (Option.some.inj h)
    rfl
  · rw [splitFirst_of_not_mem hmem] at h
    cases h

theorem splitLast_append (h : sep ∉ back) (front : List Char) :
    splitLast sep (front ++ sep :: back) = some (front, back) := by
  have hreversed : (front ++ sep :: back).reverse = back.reverse ++ sep :: front.reverse := by simp
  have hback : sep ∉ back.reverse := by rwa [List.mem_reverse]
  rw [splitLast, hreversed, splitFirst_append hback]
  simp

end PanelQuery.Text
