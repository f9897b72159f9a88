import PanelQuery.Sql.Piece

/-! # Reading quotes back

A literal runs between single quotes and a quoted identifier between back-ticks, each to the next
delimiter that no backslash escapes; `scan` reads a text by these rules. Escaped text leaves a
reader that is inside a literal inside of it, with exactly that text read. A name between
back-ticks reads back as itself exactly when no backslash is in it: back-ticks get a backslash in
front of them, backslashes get none. -/

namespace PanelQuery.Sql.Lexical

/-- The two kinds of quoted text. -/
inductive Quote where
  | literal | identifier
  deriving DecidableEq, Repr

def Quote.mark : Quote → Char
  | .literal => '\''
  | .identifier => '\x60'

/-- Where a reader stands: outside of quotes, inside with the content read so far, or inside right
after a backslash. -/
inductive Place where
  | outside
  | inside (q : Quote) (content : List Char)
  | escaped (q : Quote) (content : List Char)
  deriving DecidableEq, Repr

/-- A character outside of quotes, or a quoted text with its content. -/
inductive Token where
  | bare (c : Char)
  | quoted (q : Quote) (content : List Char)
  deriving DecidableEq, Repr

def opens? (c : Char) : Option Quote :=
  if c = '\'' then some .literal else if c = '\x60' then some .identifier else none

/-- One character: the tokens that are complete with it, and the next place. -/
def step : Place → Char → List Token × Place
  | .outside, c => match opens? c with
    | some q => ([], .inside q [])
    | none => ([.bare c], .outside)
  | .inside q content, c =>
    if c = '\\' then ([], .escaped q content)
    else if c = q.mark then ([.quoted q content], .outside)
    else ([], .inside q (content ++ [c]))
  | .escaped q content, c => ([], .inside q (content ++ [c]))

/-- The tokens of a text and the place after it. -/
def scan : Place → List Char → List Token × Place
  | p, [] => ([], p)
  | p, c :: cs => ((step p c).1 ++ (scan (step p c).2 cs).1, (scan (step p c).2 cs).2)

theorem scan_append (p : Place) (a b : List Char) :
    scan p (a ++ b) = ((scan p a).1 ++ (scan (scan p a).2 b).1, (scan (scan p a).2 b).2) := by
  induction a generalizing p with
  | nil => simp [scan]
  | cons c a ih => simp [scan, ih]

theorem scan_open (q : Quote) (cs : List Char) :
    scan .outside (q.mark :: cs) = scan (.inside q []) cs := by
  cases q <;> rfl

theorem scan_close (q : Quote) (content cs : List Char) :
    scan (.inside q content) (q.mark :: cs) =
      (.quoted q content :: (scan .outside cs).1, (scan .outside cs).2) := by
  cases q <;> rfl

theorem scan_escaped (q : Quote) (content : List Char) (c : Char) (cs : List Char) :
    scan (.inside q content) ('\\' :: c :: cs) = scan (.inside q (content ++ [c])) cs := rfl

theorem scan_inside (q : Quote) {c : Char} (hb : c ≠ '\\') (hq : c ≠ q.mark)
    (content cs : List Char) :
    scan (.inside q content) (c :: cs) = scan (.inside q (content ++ [c])) cs := by
  simp [scan, step, hb, hq]

/-! ## Text without quotes -/

/-- No character of the text opens a quote. -/
def Unquoted (cs : List Char) : Prop := ∀ c ∈ cs, opens? c = none

instance (cs : List Char) : Decidable (Unquoted cs) := List.decidableBAll _ cs

theorem scan_unquoted {cs : List Char} (h : Unquoted cs) :
    scan .outside cs = (cs.map .bare, .outside) := by
  induction cs with
  | nil => rfl
  | cons c cs ih =>
    have hc : opens? c = none := h c (by simp)
    have ht := ih (fun d hd => h d (by simp [hd]))
    simp [scan, step, hc, ht]

theorem opens?_eq_none {c : Char} (hl : c ≠ '\'') (hi : c ≠ '\x60') : opens? c = none := by
  simp [opens?, hl, hi]

/-! ## Literals -/

theorem scan_escapeChar (content : List Char) (c : Char) (cs : List Char) :
    scan (.inside .literal content) (escapeChar c ++ cs) =
      scan (.inside .literal (content ++ [c])) cs := by
  unfold escapeChar
  split
  · next hb =>
    subst hb
    exact scan_escaped .literal content '\\' cs
  · next hb =>
    split
    · next hq =>
      subst hq
      exact scan_escaped .literal content '\'' cs
    · next hq => exact scan_inside .literal hb hq content cs

/-- Escaped text, whatever it is and whatever follows, keeps the reader inside the literal. -/
theorem scan_escapeChars (content s cs : List Char) :
    scan (.inside .literal content) (escapeChars s ++ cs) =
      scan (.inside .literal (content ++ s)) cs := by
  induction s generalizing content with
  | nil => simp [escapeChars]
  | cons c s ih =>
    have hs : escapeChars (c :: s) = escapeChar c ++ escapeChars s := rfl
    rw [hs, List.append_assoc, scan_escapeChar, ih, List.append_assoc]
    rfl

/-- The text needs no escape inside a literal. -/
def Verbatim (cs : List Char) : Prop := ∀ c ∈ cs, c ≠ '\\' ∧ c ≠ '\''

instance (cs : List Char) : Decidable (Verbatim cs) := List.decidableBAll _ cs

theorem scan_verbatim {s : List Char} (h : Verbatim s) (content cs : List Char) :
    scan (.inside .literal content) (s ++ cs) = scan (.inside .literal (content ++ s)) cs := by
  induction s generalizing content with
  | nil => simp
  | cons c s ih =>
    obtain ⟨hb, hq⟩ := h c (by simp)
    rw [List.cons_append, scan_inside .literal hb hq, ih (fun d hd => h d (by simp [hd])),
      List.append_assoc]
    rfl

theorem escapeChars_of_verbatim {s : List Char} (h : Verbatim s) : escapeChars s = s := by
  induction s with
  | nil => rfl
  | cons c s ih =>
    obtain ⟨hb, hq⟩ := h c (by simp)
    have hs : escapeChars (c :: s) = escapeChar c ++ escapeChars s := rfl
    rw [hs, escapeChar, if_neg hb, if_neg hq, ih (fun d hd => h d (by simp [hd]))]
    rfl

/-! ## Names between back-ticks -/

theorem scan_tickChar {c : Char} (h : c ≠ '\\') (content cs : List Char) :
    scan (.inside .identifier content) (tickChar c ++ cs) =
      scan (.inside .identifier (content ++ [c])) cs := by
  unfold tickChar
  split
  · next ht =>
    subst ht
    exact scan_escaped .identifier content '\x60' cs
  · next ht => exact scan_inside .identifier h ht content cs

theorem scan_tickChars {name : List Char} (h : '\\' ∉ name) (content cs : List Char) :
    scan (.inside .identifier content) (tickChars name ++ cs) =
      scan (.inside .identifier (content ++ name)) cs := by
  induction name generalizing content with
  | nil => simp [tickChars]
  | cons c name ih =>
    have hs : tickChars (c :: name) = tickChar c ++ tickChars name := rfl
    have hc : c ≠ '\\' := fun e => h (by simp [e])
    rw [hs, List.append_assoc, scan_tickChar hc, ih (fun hm => h (by simp [hm])),
      List.append_assoc]
    rfl

theorem backtickChars_append (name : String) (cs : List Char) :
    backtickChars name ++ cs =
      Quote.identifier.mark :: (tickChars name.toList ++ Quote.identifier.mark :: cs) := by
  simp [backtickChars, Quote.mark]

theorem scan_backtickChars {name : String} (h : '\\' ∉ name.toList) (cs : List Char) :
    scan .outside (backtickChars name ++ cs) =
      (.quoted .identifier name.toList :: (scan .outside cs).1, (scan .outside cs).2) := by
  rw [backtickChars_append, scan_open, scan_tickChars h, scan_close]
  rfl

/-- The first token that a reader completes. -/
def first (p : Place) (cs : List Char) : Option Token := (scan p cs).1.head?

/-- What has been read stays in front of the content. -/
theorem prefix_of_first {q k : Quote} {x : List Char} (cs : List Char) :
    ∀ r, (first (.inside q r) cs = some (.quoted k x) → r <+: x) ∧
      (first (.escaped q r) cs = some (.quoted k x) → r <+: x) := by
  induction cs with
  | nil => intro r; constructor <;> intro h <;> cases h
  | cons c cs ih =>
    intro r
    have hgrown : first (.inside q (r ++ [c])) cs = some (.quoted k x) → r <+: x := fun h =>
      (List.prefix_append r [c]).trans ((ih (r ++ [c])).1 h)
    refine ⟨fun h => ?_, fun h => hgrown h⟩
    by_cases hb : c = '\\'
    · subst hb
      exact (ih r).2 h
    · by_cases hq : c = q.mark
      · subst hq
        rw [first, scan_close] at h
        cases h
        exact List.prefix_refl _
      · rw [first, scan_inside q hb hq] at h
        exact hgrown h

theorem not_prefix_of_ne {r t : List Char} {c d : Char} (h : c ≠ d) :
    ¬ r ++ [c] <+: r ++ d :: t := by
  rintro ⟨u, hu⟩
  rw [List.append_assoc, List.append_cancel_left_eq] at hu
  exact h (List.cons.inj hu).1

/-- A reader who owes backslashes never catches up with the name: reading the rest `b` of a name and
the closing back-tick from content `r`, with or without a backslash pending, does not give `r`,
backslashes, and `b`. -/
theorem first_ne_of_backslashes (cs : List Char) (b : List Char) : ∀ (r : List Char) (k : Nat),
    first (.inside .identifier r) (tickChars b ++ '\x60' :: cs) ≠
      some (.quoted .identifier (r ++ '\\' :: (List.replicate k '\\' ++ b))) ∧
    first (.escaped .identifier r) (tickChars b ++ '\x60' :: cs) ≠
      some (.quoted .identifier (r ++ '\\' :: (List.replicate k '\\' ++ b))) := by
  induction b with
  | nil =>
    intro r k
    constructor <;> intro h
    · have hr : r = r ++ '\\' :: (List.replicate k '\\' ++ []) := by
        rw [tickChars, List.flatMap_nil, List.nil_append, first,
          show '\x60' = Quote.identifier.mark from rfl, scan_close] at h
        exact (Token.quoted.inj (Option.some.inj h)).2
      simp at hr
    · exact not_prefix_of_ne (by decide) ((prefix_of_first cs (r ++ ['\x60'])).1 h)
  | cons c b ih =>
    intro r k
    have hs : tickChars (c :: b) ++ '\x60' :: cs = tickChar c ++ (tickChars b ++ '\x60' :: cs) :=
      List.append_assoc (tickChar c) (tickChars b) _
    have hmore : List.replicate k '\\' ++ '\\' :: b = List.replicate (k + 1) '\\' ++ b := by
      rw [List.replicate_succ', List.append_assoc]; rfl
    rw [hs]
    -- a character other than a backslash that is read as itself stands where the name has one
    have hother : ∀ d ≠ '\\', first (.inside .identifier (r ++ [d])) (tickChars b ++ '\x60' :: cs) ≠
        some (.quoted .identifier (r ++ '\\' :: (List.replicate k '\\' ++ c :: b))) :=
      fun d hd h => not_prefix_of_ne hd ((prefix_of_first _ (r ++ [d])).1 h)
    by_cases hb : c = '\\'
    · subst hb
      rw [hmore]
      refine ⟨(ih r (k + 1)).2, fun h => (ih (r ++ ['\\']) k).1 ?_⟩
      rw [List.replicate_succ] at h
      rw [List.append_assoc]
      exact h
    · constructor <;> intro h
      · rw [first, scan_tickChar hb] at h
        exact hother c hb h
      · by_cases ht : c = '\x60'
        · subst ht
          -- the pending backslash takes the next one, and the back-tick closes
          have hr : r ++ ['\\'] = r ++ '\\' :: (List.replicate k '\\' ++ '\x60' :: b) := by
            rw [show tickChar '\x60' = ['\\', Quote.identifier.mark] from rfl, first] at h
            exact (Token.quoted.inj (Option.some.inj h)).2
          simp at hr
        · rw [show tickChar c = [c] from if_neg ht] at h
          exact hother c hb h

/-- Whatever follows, a name that has a backslash is not the first thing read. -/
theorem backslash_not_mem_of_first {name : String} (cs : List Char)
    (h : first .outside (backtickChars name ++ cs) = some (.quoted .identifier name.toList)) :
    '\\' ∉ name.toList := by
  intro hm
  obtain ⟨a, b, he, ha⟩ := List.eq_append_cons_of_mem hm
  have ht : tickChars name.toList = tickChars a ++ '\\' :: tickChars b := by
    rw [he, tickChars, List.flatMap_append, List.flatMap_cons]; rfl
  rw [backtickChars_append, first, scan_open, ht, List.append_assoc, scan_tickChars ha, he] at h
  exact (first_ne_of_backslashes cs b a 0).2 h

/-! ## A text that is one name -/

/-- The name that a text consists of: a quoted identifier, or a plain word. -/
def nameOf? (cs : List Char) : Option (List Char) :=
  match scan .outside cs with
  | ([.quoted .identifier name], .outside) => some name
  | _ => if isPlainName cs then some cs else none

theorem not_isPlainName_backtickChars (name : String) : isPlainName (backtickChars name) = false := by
  simp [isPlainName, backtickChars]

theorem nameOf?_quoteAlias (name : String) :
    nameOf? (quoteAlias name).toList = some name.toList ↔ '\\' ∉ name.toList := by
  rw [quoteAlias, String.toList_ofList]
  constructor
  · intro h
    unfold nameOf? at h
    split at h
    · next n hn =>
      cases Option.some.inj h
      refine backslash_not_mem_of_first [] ?_
      rw [List.append_nil, first, hn]
      rfl
    · simp [not_isPlainName_backtickChars] at h
  · intro h
    have hs := scan_backtickChars h []
    rw [List.append_nil] at hs
    rw [nameOf?, hs]
    rfl

theorem isWordChar_plain {c : Char} (h : Text.isWordChar c = true) :
    c ≠ '\\' ∧ c ≠ '\'' ∧ c ≠ '\x60' := by
  refine ⟨?_, ?_, ?_⟩ <;> rintro rfl <;> exact absurd h (by decide)

theorem isPlainName_wordChars {cs : List Char} (h : isPlainName cs = true) :
    ∀ c ∈ cs, Text.isWordChar c = true := by
  cases cs with
  | nil => simp
  | cons c cs =>
    simp only [isPlainName, Bool.and_eq_true, List.all_eq_true] at h
    exact h.2

theorem unquoted_of_isPlainName {cs : List Char} (h : isPlainName cs = true) : Unquoted cs := by
  intro c hc
  obtain ⟨-, hl, hi⟩ := isWordChar_plain (isPlainName_wordChars h c hc)
  exact opens?_eq_none hl hi

theorem backslash_not_mem_of_isPlainName {cs : List Char} (h : isPlainName cs = true) : '\\' ∉ cs :=
  fun hm => (isWordChar_plain (isPlainName_wordChars h _ hm)).1 rfl

theorem nameOf?_quoteIdentifier (name : String) :
    nameOf? (quoteIdentifier name).toList = some name.toList ↔ '\\' ∉ name.toList := by
  by_cases h : isPlainName name.toList = true
  · have hq : (quoteIdentifier name).toList = name.toList := by
      simp [quoteIdentifier, identifierChars, h]
    rw [hq]
    refine ⟨fun _ => backslash_not_mem_of_isPlainName h, fun _ => ?_⟩
    have hs := scan_unquoted (unquoted_of_isPlainName h)
    unfold nameOf?
    split
    · next n hn =>
      rw [hs] at hn
      cases hc : name.toList <;> simp [hc] at hn
    · simp [h]
  · have hq : quoteIdentifier name = quoteAlias name := by
      simp [quoteIdentifier, quoteAlias, identifierChars, h]
    rw [hq]
    exact nameOf?_quoteAlias name

/-! ## Names between back-ticks differ -/

theorem tickChars_cons (c : Char) (cs : List Char) :
    tickChars (c :: cs) = tickChar c ++ tickChars cs := List.flatMap_cons

/-- Inside back-ticks nothing starts with one. -/
theorem tickChars_ne_cons (cs rest : List Char) : tickChars cs ≠ '\x60' :: rest := by
  cases cs with
  | nil => exact (List.cons_ne_nil _ _).symm
  | cons c cs =>
    rw [tickChars_cons, tickChar]
    split
    · exact fun h => absurd (List.cons.inj h).1 (by decide)
    · next hc => exact fun h => hc (List.cons.inj h).1

theorem tickChars_inj {a b : List Char} : tickChars a = tickChars b ↔ a = b := by
  refine ⟨fun h => ?_, congrArg tickChars⟩
  induction a generalizing b with
  | nil =>
    cases b with
    | nil => rfl
    | cons d b =>
      rw [tickChars_cons, tickChar] at h
      split at h <;> cases h
  | cons c a ih =>
    cases b with
    | nil =>
      rw [tickChars_cons, tickChar] at h
      split at h <;> cases h
    | cons d b =>
      rw [tickChars_cons, tickChars_cons, tickChar, tickChar] at h
      -- a backslash in front of a back-tick is not one of the name: nothing starts with a back-tick
      split at h <;> split at h <;>
        simp only [List.cons_append, List.nil_append, List.cons.injEq] at h
      · next hc hd => rw [hc, hd, ih h.2.2]
      · exact absurd h.2.symm (tickChars_ne_cons _ _)
      · exact absurd h.2 (tickChars_ne_cons _ _)
      · rw [h.1, ih h.2]

/-- Between back-ticks every name has its own text, whatever a reader makes of it. -/
theorem quoteAlias_inj {name name' : String} :
    quoteAlias name = quoteAlias name' ↔ name = name' := by
  rw [quoteAlias, quoteAlias, String.ofList_inj, backtickChars, backtickChars, List.cons_append,
    List.cons_append, List.cons_inj_right, List.append_cancel_right_eq, tickChars_inj,
    String.toList_inj]

end PanelQuery.Sql.Lexical

namespace PanelQuery.Sql

/-! ## Directions -/

theorem Direction.lower (d : Direction) :
    d.text.toList.map Char.toLower ∈ [['a', 's', 'c'], ['d', 'e', 's', 'c']] := by
  have hchars : ∀ {w : String}, Text.asciiLower d.text = w →
      d.text.toList.map Char.toLower = w.toList := by
    rintro w rfl
    rw [Text.asciiLower, String.toList_ofList]
  rcases d.isDirection with h | h <;> rw [hchars h]
  · exact List.mem_cons_self
  · exact List.mem_cons_of_mem _ List.mem_cons_self

/-- A direction is a word of letters. -/
theorem Direction.isAlpha (d : Direction) : ∀ c ∈ d.text.toList, c.isAlpha = true := by
  have hlower : ∀ c ∈ d.text.toList.map Char.toLower, c.isAlpha = true := by
    have hd := d.lower
    simp only [List.mem_cons, List.not_mem_nil, or_false] at hd
    rcases hd with h | h <;> rw [h] <;> exact List.all_eq_true.mp (by decide)
  intro c hc
  have hl := hlower _ (List.mem_map_of_mem hc)
  unfold Char.toLower at hl
  split at hl
  · next hupper => exact Bool.or_eq_true_iff.mpr (.inl (decide_eq_true hupper))
  · exact hl

end PanelQuery.Sql
