import Mathlib.Logic.Basic
import PanelQuery.Filter.Body
import PanelQuery.Proofs.Sql.Lexical
import PanelQuery.Proofs.Text.Split

/-! # Keys that name a field of the body

The keys are given by a grammar: `body`, and below it one or more segments, each behind a dot. A
segment is a name, or a name with one index in brackets. The check cuts a key at its dots and a
segment at its first bracket. Neither a name nor an index has a dot or a bracket, so the cuts find
the parts of the grammar, and nothing else passes the check of the parts. -/

namespace PanelQuery.Body

variable {key p : String} {cs name index segment : List Char}

/-! ## The grammar -/

/-- A decimal digit. -/
def Digit (c : Char) : Prop := '0' ≤ c ∧ c ≤ '9'

instance (c : Char) : Decidable (Digit c) := inferInstanceAs (Decidable (_ ∧ _))

/-- A letter or digit of ASCII, or one of three marks. -/
def NameChar (c : Char) : Prop :=
  ('A' ≤ c ∧ c ≤ 'Z') ∨ ('a' ≤ c ∧ c ≤ 'z') ∨ Digit c ∨ c = '_' ∨ c = '-' ∨ c = '@'

instance (c : Char) : Decidable (NameChar c) := inferInstanceAs (Decidable (_ ∨ _))

/-- One or more characters of a kind. -/
def Word (kind : Char → Prop) (cs : List Char) : Prop := cs ≠ [] ∧ ∀ c ∈ cs, kind c

/-- All elements of an array, or the one at a position. -/
inductive Index : List Char → Prop
  | all : Index ['*']
  | position {digits : List Char} (h : Word Digit digits) : Index digits

inductive Segment : List Char → Prop
  | field {name : List Char} (h : Word NameChar name) : Segment name
  | elements {name index : List Char} (h : Word NameChar name) (hi : Index index) :
      Segment (name ++ '[' :: (index ++ [']']))

/-- Segments one below the other, each behind a dot. -/
inductive Below : List Char → Prop
  | last {segment : List Char} (h : Segment segment) : Below ('.' :: segment)
  | step {segment below : List Char} (h : Segment segment) (hb : Below below) :
      Below ('.' :: segment ++ below)

/-- The key is `body` and segments below it. -/
def NamesField (key : String) : Prop :=
  ∃ below : String, key = "body" ++ below ∧ Below below.toList

/-! ## Characters -/

theorem isDigit_iff {c : Char} : c.isDigit = true ↔ Digit c := by
  simp [Char.isDigit, Digit, Char.le_def]

theorem isNameChar_iff {c : Char} : isNameChar c = true ↔ NameChar c := by
  have hupper : c.isUpper = true ↔ 'A' ≤ c ∧ c ≤ 'Z' := decide_eq_true_iff
  have hlower : c.isLower = true ↔ 'a' ≤ c ∧ c ≤ 'z' :=
    Bool.and_eq_true_iff.trans (and_congr decide_eq_true_iff decide_eq_true_iff)
  have halphanum : c.isAlphanum = (c.isUpper || c.isLower || c.isDigit) := rfl
  simp only [isNameChar, halphanum, Bool.or_eq_true, beq_iff_eq, hupper, hlower, isDigit_iff,
    NameChar, or_assoc]

/-- A character that the grammar has in segments. -/
def SegmentChar (c : Char) : Prop := NameChar c ∨ c ∈ ['[', '*', ']']

instance (c : Char) : Decidable (SegmentChar c) := inferInstanceAs (Decidable (_ ∨ _))

theorem Index.segmentChar (h : Index index) : ∀ c ∈ index, SegmentChar c := by
  intro c hc
  cases h with
  | all =>
    rw [List.mem_singleton.mp hc]
    exact .inr (by decide)
  | position h => exact .inl (.inr (.inr (.inl (h.2 c hc))))

theorem Segment.segmentChar (h : Segment segment) : ∀ c ∈ segment, SegmentChar c := by
  intro c hc
  cases h with
  | field h => exact .inl (h.2 c hc)
  | elements h hi =>
    rcases List.mem_append.mp hc with hc | hc
    · exact .inl (h.2 c hc)
    rcases List.mem_cons.mp hc with rfl | hc
    · exact .inr (by decide)
    rcases List.mem_append.mp hc with hc | hc
    · exact hi.segmentChar c hc
    · rw [List.mem_singleton.mp hc]
      exact .inr (by decide)

theorem Segment.dot_not_mem (h : Segment segment) : '.' ∉ segment := by
  intro hdot
  have hchar : SegmentChar '.' := h.segmentChar '.' hdot
  revert hchar
  decide

theorem bracket_not_mem (h : Word NameChar name) : '[' ∉ name := by
  intro hbracket
  have hchar : NameChar '[' := h.2 '[' hbracket
  revert hchar
  decide

/-! ## Segments -/

theorem word_iff {kind : Char → Prop} {test : Char → Bool} (h : ∀ c, test c = true ↔ kind c) :
    (!cs.isEmpty && cs.all test) = true ↔ Word kind cs := by
  rw [Bool.and_eq_true, Bool.not_eq_true', List.isEmpty_eq_false_iff, List.all_eq_true, Word]
  simp only [h]

theorem isSegmentName_iff : isSegmentName cs = true ↔ Word NameChar cs :=
  word_iff fun _ => isNameChar_iff

theorem isIndex_iff : isIndex cs = true ↔ Index cs := by
  have hdigits : (!cs.isEmpty && cs.all Char.isDigit) = true ↔ Word Digit cs :=
    word_iff fun _ => isDigit_iff
  rw [isIndex, Bool.or_eq_true, beq_iff_eq, hdigits]
  constructor
  · rintro (rfl | h)
    · exact .all
    · exact .position h
  · intro h
    cases h with
    | all => exact .inl rfl
    | position h => exact .inr h

theorem isSegment_elements (h : '[' ∉ name) :
    isSegment (name ++ '[' :: (index ++ [']'])) = (isSegmentName name && isIndex index) := by
  rw [isSegment, Text.splitFirst_append h]
  simp

theorem isSegment_iff : isSegment cs = true ↔ Segment cs := by
  constructor
  · intro h
    cases hcut : Text.splitFirst '[' cs with
    | none =>
      rw [isSegment, hcut] at h
      exact .field (isSegmentName_iff.mp h)
    | some cut =>
      obtain ⟨name, rest⟩ := cut
      obtain rfl := Text.splitFirst_eq hcut
      rw [isSegment, hcut] at h
      dsimp only at h
      split at h
      · next hlast =>
        obtain ⟨index, rfl⟩ := List.getLast?_eq_some_iff.mp hlast
        rw [List.dropLast_concat, Bool.and_eq_true] at h
        exact .elements (isSegmentName_iff.mp h.1) (isIndex_iff.mp h.2)
      · cases h
  · intro h
    cases h with
    | field h =>
      rw [isSegment, Text.splitFirst_of_not_mem (bracket_not_mem h)]
      exact isSegmentName_iff.mpr h
    | elements h hi =>
      rw [isSegment_elements (bracket_not_mem h), Bool.and_eq_true]
      exact ⟨isSegmentName_iff.mpr h, isIndex_iff.mpr hi⟩

/-! ## Paths -/

theorem below_iff : Below cs ↔ ∃ segments, segments ≠ [] ∧ (∀ s ∈ segments, Segment s) ∧
    cs = segments.flatMap ('.' :: ·) := by
  constructor
  · intro h
    induction h with
    | @last segment h =>
      exact ⟨[segment], List.cons_ne_nil _ _, List.forall_mem_singleton.mpr h, by simp⟩
    | @step segment below h hb ih =>
      obtain ⟨segments, -, hall, rfl⟩ := ih
      exact ⟨segment :: segments, List.cons_ne_nil _ _, List.forall_mem_cons.mpr ⟨h, hall⟩, rfl⟩
  · rintro ⟨segments, hne, hall, rfl⟩
    induction segments with
    | nil => exact absurd rfl hne
    | cons segment segments ih =>
      obtain ⟨h, hrest⟩ := List.forall_mem_cons.mp hall
      cases segments with
      | nil =>
        rw [List.flatMap_singleton]
        exact .last h
      | cons next segments => exact .step h (ih (List.cons_ne_nil _ _) hrest)

/-- What passes the check has been cut into `body` and segments. -/
theorem path_ok (h : path key = .ok p) : ∃ segments, segments ≠ [] ∧
    (∀ s ∈ segments, Segment s) ∧
    key.toList = "body".toList ++ segments.flatMap ('.' :: ·) ∧
    p = String.ofList ('$' :: segments.flatMap ('.' :: ·)) := by
  unfold path at h
  split at h
  · cases h
  next root segments hcut =>
  split at h
  · cases h
  next hroot =>
  split at h
  · cases h
  next hne =>
  split at h
  · cases h
  next hnone =>
  have hall : ∀ s ∈ segments, Segment s := by
    intro s hs
    have hgood := List.find?_eq_none.mp hnone s hs
    rw [Bool.not_eq_true', Bool.not_eq_false] at hgood
    exact isSegment_iff.mp hgood
  have hkey := Text.splitOnChar_eq hcut
  rw [not_not.mp hroot] at hkey
  have hsegments : segments ≠ [] := fun he => hne (List.isEmpty_iff.mpr he)
  exact ⟨segments, hsegments, hall, hkey, (Except.ok.inj h).symm⟩

/-- `body` and segments are found again, and pass the check. -/
theorem path_of_segments {segments : List (List Char)} (hne : segments ≠ [])
    (hall : ∀ s ∈ segments, Segment s)
    (hkey : key.toList = "body".toList ++ segments.flatMap ('.' :: ·)) :
    path key = .ok (String.ofList ('$' :: segments.flatMap ('.' :: ·))) := by
  have hcut : Text.splitOnChar '.' key.toList = "body".toList :: segments := by
    rw [hkey]
    exact Text.splitOnChar_flatMap (by decide) fun s hs => (hall s hs).dot_not_mem
  have hnone : segments.find? (fun s => !isSegment s) = none := by
    rw [List.find?_eq_none]
    intro s hs
    rw [isSegment_iff.mpr (hall s hs)]
    exact Bool.false_ne_true
  unfold path
  rw [hcut]
  dsimp only
  rw [if_neg (not_not.mpr rfl), if_neg (fun he => hne (List.isEmpty_iff.mp he)), hnone]

theorem path_ok_iff : path key = .ok p ↔
    ∃ below : String, key = "body" ++ below ∧ Below below.toList ∧ p = "$" ++ below := by
  constructor
  · intro h
    obtain ⟨segments, hne, hall, hkey, rfl⟩ := path_ok h
    refine ⟨String.ofList (segments.flatMap ('.' :: ·)), ?_, ?_, ?_⟩
    · simp [← String.toList_inj, hkey]
    · rw [String.toList_ofList]
      exact below_iff.mpr ⟨segments, hne, hall, rfl⟩
    · rw [← String.toList_inj, String.toList_append]
      simp
  · rintro ⟨below, rfl, hbelow, rfl⟩
    obtain ⟨segments, hne, hall, hsegments⟩ := below_iff.mp hbelow
    have hkey : ("body" ++ below).toList = "body".toList ++ segments.flatMap ('.' :: ·) := by
      rw [String.toList_append, hsegments]
    rw [path_of_segments hne hall hkey, Except.ok.injEq]
    simp [← String.toList_inj, hsegments]

theorem exists_path_iff : (∃ p, path key = .ok p) ↔ NamesField key := by
  constructor
  · rintro ⟨p, h⟩
    obtain ⟨below, hkey, hbelow, -⟩ := path_ok_iff.mp h
    exact ⟨below, hkey, hbelow⟩
  · rintro ⟨below, hkey, hbelow⟩
    exact ⟨"$" ++ below, path_ok_iff.mpr ⟨below, hkey, hbelow, rfl⟩⟩

/-! ## Quoting -/

/-- The quotes, and what escapes them. -/
def quotes : List Char := ['\'', '"', '\x60', '\\']

theorem SegmentChar.not_mem_quotes {c : Char} (h : SegmentChar c) : c ∉ quotes := by
  intro hc
  simp only [quotes, List.mem_cons, List.not_mem_nil, or_false] at hc
  rcases hc with rfl | rfl | rfl | rfl <;> revert h <;> decide

/-- A path has no quote and nothing that escapes one. -/
theorem not_mem_quotes_of_path (h : path key = .ok p) : ∀ c ∈ p.toList, c ∉ quotes := by
  obtain ⟨segments, -, hall, -, rfl⟩ := path_ok h
  intro c hc
  rw [String.toList_ofList, List.mem_cons, List.mem_flatMap] at hc
  rcases hc with rfl | ⟨s, hs, hc⟩
  · decide
  rcases List.mem_cons.mp hc with rfl | hc
  · decide
  · exact ((hall s hs).segmentChar c hc).not_mem_quotes

/-- So it stands between quotes as it is. -/
theorem quoteString_of_path (h : path key = .ok p) : Sql.quoteString p = "'" ++ p ++ "'" := by
  have hverbatim : Sql.Lexical.Verbatim p.toList := by
    intro c hc
    have hquotes := not_mem_quotes_of_path h c hc
    constructor
    · rintro rfl
      exact hquotes (by decide)
    · rintro rfl
      exact hquotes (by decide)
  rw [Sql.quoteString, Sql.quoteChars, Sql.Lexical.escapeChars_of_verbatim hverbatim]
  simp [← String.toList_inj]

/-! ## What is refused -/

variable {fault : Fault}

theorem accessor_error (h : path key = .error fault) (t : DataType) :
    accessor key t = .error fault := by
  rw [accessor, h]
  rfl

/-- An item is refused for its key before its operator or its value is looked at. -/
theorem condition_error {item : FilterItem} (h : path item.key.name = .error fault) :
    condition item = .error fault := by
  rw [condition, accessor_error h]
  rfl

theorem exists_path_error (h : ¬ NamesField key) : ∃ fault, path key = .error fault := by
  cases hpath : path key with
  | ok p => exact absurd (exists_path_iff.mp ⟨p, hpath⟩) h
  | error fault => exact ⟨fault, rfl⟩

/-- **Paths of exactly the grammar.** A key has a path if and only if the grammar has it. The path is
the key with `$` in place of `body`, no other key has the same, and it has no quote and no
backslash, so that between quotes it stands as it is. A key that the grammar does not have is
refused in every use: whatever the type, no expression reads it, and whatever the operator and the
value, no item on it has a condition, for the one reason that it has no path. -/
theorem path_accepts (key : String) :
    ((∃ p, path key = .ok p) ↔ NamesField key) ∧
    (∀ p, path key = .ok p → (∃ below, key = "body" ++ below ∧ p = "$" ++ below) ∧
      (∀ c ∈ p.toList, c ≠ '\'' ∧ c ≠ '"' ∧ c ≠ '\x60' ∧ c ≠ '\\') ∧
      Sql.quoteString p = "'" ++ p ++ "'" ∧ ∀ other, path other = .ok p → other = key) ∧
    (¬ NamesField key → ∃ fault, path key = .error fault ∧
      (∀ t, accessor key t = .error fault) ∧
      ∀ item : FilterItem, item.key.name = key → condition item = .error fault) := by
  refine ⟨exists_path_iff, fun p h => ?_, fun h => ?_⟩
  · obtain ⟨below, hkey, -, hp⟩ := path_ok_iff.mp h
    refine ⟨⟨below, hkey, hp⟩, fun c hc => ?_, quoteString_of_path h, fun other hother => ?_⟩
    · have hquotes := not_mem_quotes_of_path h c hc
      simpa [quotes, not_or] using hquotes
    · obtain ⟨below', rfl, -, hp'⟩ := path_ok_iff.mp hother
      have hsame : ("$" ++ below).toList = ("$" ++ below').toList := by rw [← hp, hp']
      rw [String.toList_append, String.toList_append, List.append_cancel_left_eq,
        String.toList_inj] at hsame
      rw [hkey, hsame]
  · obtain ⟨fault, hfault⟩ := exists_path_error h
    refine ⟨fault, hfault, accessor_error hfault, fun item hitem => ?_⟩
    rw [← hitem] at hfault
    exact condition_error hfault

/-- Every name may have an index, but not two. -/
theorem path_accepts_nested : NamesField "body.nested[0].@id[*]" ∧
    path "body.nested[0].@id[*]" = .ok "$.nested[0].@id[*]" ∧
    ¬ NamesField "body.nested[0][1]" ∧
    ∀ t, accessor "body.nested[0][1]" t =
      .error (.bodyPathSegment "body.nested[0][1]" "nested[0][1]") := by
  have hpath : path "body.nested[0].@id[*]" = .ok "$.nested[0].@id[*]" := rfl
  have herror : path "body.nested[0][1]" =
      .error (.bodyPathSegment "body.nested[0][1]" "nested[0][1]") := rfl
  have hoff : ¬ NamesField "body.nested[0][1]" := by
    intro hnames
    obtain ⟨p, hp⟩ := (path_accepts _).1.mpr hnames
    rw [herror] at hp
    cases hp
  obtain ⟨fault, hfault, haccessor, -⟩ := (path_accepts _).2.2 hoff
  rw [herror, Except.error.injEq] at hfault
  exact ⟨(path_accepts _).1.mp ⟨_, hpath⟩, hpath, hoff, hfault ▸ haccessor⟩

end PanelQuery.Body
