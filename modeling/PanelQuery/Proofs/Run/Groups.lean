import PanelQuery.Proofs.Agree
import PanelQuery.Proofs.Decimal.Millionths
import PanelQuery.Proofs.Filter.Literal
import PanelQuery.Run.Groups

/-! # Groups of the first pass read back

The tuples that fill the hole are read back with one literal for each group key. Nulls, booleans,
texts and integers of a signed word are written as they are. Every other number is written as a
double with six places, so its literal has the value of the cell only if that double is the number
and has no more places; other numbers share the tuple of a number nearby. -/

namespace PanelQuery

open Sql (Literal IsWord ReadsAs Delimited)

/-! ## Six places as a literal -/

namespace Sql

theorem chars_float (x : Float) : chars [.float x] = (Decimal.fixed x).toList := by
  rw [chars, text, bind_cons, bind_nil, String.append_empty, String.toList_ofList]
  rfl

theorem ofNumeral_places (negative : Bool) (n : Nat) :
    Literal.ofNumeral ⟨negative, Decimal.digits (n / 1000000),
      Decimal.padLeft 6 (Decimal.digits (n % 1000000)), 0⟩ =
      (if negative then -1 else 1) * (n / 1000000) := by
  have hlength : (Decimal.digits (n % 1000000)).length ≤ 6 :=
    (Nat.length_toDigits_le_iff (by decide) (by decide)).mpr (by omega)
  have hpower : (10 : ℚ) ^ (0 - (6 : ℕ) : ℤ) = 1 / 1000000 := by norm_num
  rw [Literal.ofNumeral, Decimal.ofDigits_places, Decimal.length_padLeft hlength, hpower, mul_assoc,
    mul_one_div]

/-- A count of millionths is read as a decimal number. -/
theorem ofWord?_signed (negative : Bool) (n : Nat) :
    Literal.ofWord? (Decimal.signed negative (Decimal.placesOfMillionths n)).toList =
      some (.decimal ((if negative then -1 else 1) * (n / 1000000))) := by
  have hpoint : '.' ∈ (Decimal.signed negative (Decimal.placesOfMillionths n)).toList := by
    cases negative <;> simp [Decimal.signed, Decimal.placesOfMillionths]
  have hword : ∀ w : List Char, '.' ∉ w →
      (Decimal.signed negative (Decimal.placesOfMillionths n)).toList ≠ w := by
    rintro w hw rfl
    exact hw hpoint
  rw [Literal.ofWord?, Decimal.integerOf?_signed, Decimal.numeralOf?_signed]
  dsimp only
  rw [if_neg (hword _ (by decide)), if_neg (hword _ (by decide)), if_neg (hword _ (by decide)),
    Option.map_some, ofNumeral_places]

theorem goesOn_places (n : Nat) :
    ∀ c ∈ (Decimal.placesOfMillionths n).toList, Literal.goesOn c = true := by
  intro c hc
  simp only [Decimal.placesOfMillionths, String.toList_ofList, List.mem_append, List.mem_cons,
    Decimal.padLeft] at hc
  obtain hc | rfl | hc | hc := hc
  · exact goesOn_of_isDigit (Decimal.isDigit_digits _ c hc)
  · rfl
  · rw [List.eq_of_mem_replicate hc]
    rfl
  · exact goesOn_of_isDigit (Decimal.isDigit_digits _ c hc)

theorem isWord_chars_signed (negative : Bool) (n : Nat) :
    ∃ c cs, (Decimal.signed negative (Decimal.placesOfMillionths n)).toList = c :: cs ∧
      (Literal.goesOn c = true ∨ c = '-') ∧ ∀ d ∈ cs, Literal.goesOn d = true := by
  have hplaces := goesOn_places n
  cases negative with
  | true => exact ⟨'-', _, by simp [Decimal.signed], .inr rfl, hplaces⟩
  | false =>
    have hne : (Decimal.placesOfMillionths n).toList ≠ [] := by simp [Decimal.placesOfMillionths]
    obtain ⟨c, cs, hcs⟩ := List.exists_cons_of_ne_nil hne
    rw [hcs, List.forall_mem_cons] at hplaces
    exact ⟨c, cs, by simpa [Decimal.signed] using hcs, .inl hplaces.1, hplaces.2⟩

/-- A finite double is written as the multiple of a millionth that it is rounded to. -/
theorem exists_isWord_float {x : Float} {q : ℚ} (h : Decimal.value? x = some q) :
    ∃ r, IsWord [.float x] (.decimal r) ∧ Decimal.RoundsTo q r := by
  rw [Decimal.value?] at h
  cases hx : Decimal.Double.ofFloat x with
  | infinite negative => rw [hx] at h; cases h
  | notANumber => rw [hx] at h; cases h
  | finite negative m e =>
    rw [hx] at h
    cases h
    have hchars : chars [.float x] =
        (Decimal.signed negative (Decimal.placesOfMillionths (Decimal.millionths m e))).toList := by
      rw [chars_float, Decimal.fixed, hx]
      rfl
    refine ⟨_, ⟨?_, ?_⟩, Decimal.roundsTo_written negative m e⟩
    · rw [hchars]
      exact isWord_chars_signed negative _
    · rw [hchars]
      exact ofWord?_signed negative _

end Sql

/-! ## Cells -/

/-- What a cell or a literal stands for, numbers exactly. -/
inductive GroupValue where
  | null
  | bool (b : Bool)
  | number (q : ℚ)
  | text (s : String)

def Sql.Literal.groupValue? : Literal → Option GroupValue
  | .null => some .null
  | .bool b => some (.bool b)
  | .int n => some (.number n)
  | .decimal q => some (.number q)
  | .text s => some (.text s)
  | .list _ _ => none

namespace Json

/-- The value of a cell that is no array, no object and no number beyond the 64-bit words. -/
def groupValue? : Json → Option GroupValue
  | .null => some .null
  | .bool b => some (.bool b)
  | .int n =>
    if Decimal.int64Min ≤ n ∧ n ≤ Decimal.uint64Max then some (.number n) else none
  | .float x => (Decimal.value? x).map .number
  | .str s => some (.text s)
  | .arr _ | .obj _ => none

/-- The double that a number is written as if it is no signed word. -/
def asDouble? : Json → Option Float
  | .int n =>
    if Decimal.int64Min ≤ n ∧ n ≤ Decimal.int64Max then none else some (Decimal.floatOfInt n)
  | .float x => some x
  | _ => none

/-- The double that the cell is written as, if any, is the cell's number and a multiple of a
millionth. -/
def Kept (cell : Json) : Prop :=
  ∀ x, cell.asDouble? = some x →
    ∃ q, cell.groupValue? = some (.number q) ∧ Decimal.value? x = some q ∧ Decimal.IsMillionths q

/-- The literal says what the cell says, up to the places of a double. -/
structure WrittenAs (cell : Json) (l : Literal) : Prop where
  exact : cell.asDouble? = none → l.groupValue? = cell.groupValue?
  rounded : ∀ x, cell.asDouble? = some x →
    ∃ q r, Decimal.value? x = some q ∧ Decimal.RoundsTo q r ∧ l = .decimal r

/-- A number that is written as a double is one. -/
theorem exists_number {cell : Json} {v : GroupValue} (hv : cell.groupValue? = some v) {x : Float}
    (hx : cell.asDouble? = some x) : ∃ p q, v = .number p ∧ Decimal.value? x = some q ∧
      (q = p ∨ Decimal.IsMillionths q) := by
  cases cell with
  | int n =>
    rw [groupValue?] at hv
    rw [asDouble?] at hx
    split at hv
    · next hn =>
      split at hx
      · cases hx
      · next hlarge =>
        cases hv
        cases hx
        simp only [Decimal.int64Min, Decimal.int64Max, Decimal.uint64Max] at hn hlarge
        obtain ⟨k, hk⟩ := Decimal.exists_value?_floatOfInt (n := n) (by omega) (by omega)
        exact ⟨n, k, rfl, hk, .inr (Decimal.isMillionths_intCast k)⟩
    · cases hv
  | float y =>
    cases hx
    obtain ⟨q, hq, rfl⟩ := Option.map_eq_some_iff.mp hv
    exact ⟨q, q, rfl, hq, .inl rfl⟩
  | null | bool | str | arr | obj => cases hx

/-- The literal has the value of the cell if and only if the cell is kept. -/
theorem WrittenAs.eq_iff {cell : Json} {l : Literal} (h : cell.WrittenAs l) {v : GroupValue}
    (hv : cell.groupValue? = some v) : l.groupValue? = cell.groupValue? ↔ cell.Kept := by
  cases hx : cell.asDouble? with
  | none =>
    refine ⟨fun _ x hy => ?_, fun _ => h.exact hx⟩
    rw [hx] at hy
    cases hy
  | some x =>
    obtain ⟨p, q, rfl, hq, hplaces⟩ := exists_number hv hx
    obtain ⟨q', r, hq', hr, rfl⟩ := h.rounded x hx
    obtain rfl : q' = q := Option.some.inj (hq'.symm.trans hq)
    have hvalue : Sql.Literal.groupValue? (.decimal r) = cell.groupValue? ↔ r = p := by
      rw [hv, Sql.Literal.groupValue?, Option.some.injEq, GroupValue.number.injEq]
    have hkept : cell.Kept ↔ p = q' ∧ Decimal.IsMillionths q' := by
      simp only [Kept, hx, hv, hq, Option.some.injEq, GroupValue.number.injEq, forall_eq',
        exists_eq_left']
      constructor <;> exact fun ⟨he, hm⟩ => ⟨he.symm, he ▸ hm⟩
    rw [hvalue, hkept]
    rcases hplaces with rfl | hplaces
    · simpa using hr.eq_iff
    · rw [hr.eq_iff.mpr hplaces, eq_comm, and_iff_left hplaces]

/-- A cell is read back as what it is written as. -/
theorem exists_writtenAs {cell : Json} {v : GroupValue} (hv : cell.groupValue? = some v) :
    ∃ l, ReadsAs (FilterValue.ofCell cell).literal l ∧ cell.WrittenAs l := by
  have hdouble : ∀ {x : Float}, cell.asDouble? = some x →
      FilterValue.ofCell cell = .float x →
      ∃ l, ReadsAs (FilterValue.ofCell cell).literal l ∧ cell.WrittenAs l := by
    intro x hx hcell
    obtain ⟨-, q, -, hq, -⟩ := exists_number hv hx
    obtain ⟨r, hword, hr⟩ := Sql.exists_isWord_float hq
    refine ⟨.decimal r, hcell ▸ hword.readsAs, fun hnone => ?_, fun y hy => ?_⟩
    · rw [hx] at hnone
      cases hnone
    · obtain rfl : x = y := Option.some.inj (hx.symm.trans hy)
      exact ⟨q, r, hq, hr, rfl⟩
  cases cell with
  | null => exact ⟨.null, FilterValue.isWord_null.readsAs, fun _ => rfl, nofun⟩
  | bool b => exact ⟨.bool b, (FilterValue.isWord_ofBool b).readsAs, fun _ => rfl, nofun⟩
  | str s => exact ⟨.text s, (Sql.delimited_literal s).readsAs, fun _ => rfl, nofun⟩
  | float x => exact hdouble rfl rfl
  | int n =>
    by_cases hn : Decimal.int64Min ≤ n ∧ n ≤ Decimal.int64Max
    · have hcell : FilterValue.ofCell (.int n) = .int (Int64.ofInt n) := by
        rw [FilterValue.ofCell, Decimal.int64Of?, if_pos hn]
      have hword : (Int64.ofInt n).toInt = n := Decimal.toInt_ofInt hn
      have hvalue : Literal.groupValue? (.int n) = Json.groupValue? (.int n) := by
        have hunsigned : Decimal.int64Max ≤ Decimal.uint64Max := by decide
        rw [groupValue?, if_pos ⟨hn.1, hn.2.trans hunsigned⟩, Literal.groupValue?]
      refine ⟨.int n, ?_, fun _ => hvalue, fun x hx => ?_⟩
      · rw [hcell, FilterValue.literal, hword]
        exact (Sql.isWord_int n).readsAs
      · rw [asDouble?, if_pos hn] at hx
        cases hx
    · refine hdouble (x := Decimal.floatOfInt n) (by rw [asDouble?, if_neg hn]) ?_
      rw [FilterValue.ofCell, Decimal.int64Of?, if_neg hn]
  | arr items => cases hv
  | obj members => cases hv

end Json

/-! ## Tuples -/

variable {groupBy : List AttributeKey} {row : Row} {tuple : List Literal}

/-- The values of the group columns in a row. -/
def groupOf (groupBy : List AttributeKey) (row : Row) : List (Option GroupValue) :=
  groupBy.map fun key => (row.lookup key.name).bind Json.groupValue?

/-- Every group column of the row has a null, a boolean, a text or a number. -/
def HasGroup (groupBy : List AttributeKey) (row : Row) : Prop :=
  ∀ key ∈ groupBy, ∃ cell v, row.lookup key.name = some cell ∧ cell.groupValue? = some v

/-- No number in the group columns of the row changes by the places of a double. -/
def KeepsGroup (groupBy : List AttributeKey) (row : Row) : Prop :=
  ∀ key ∈ groupBy, ∀ cell, row.lookup key.name = some cell → cell.Kept

/-- One literal for each group key, which says what the cell of that column says. -/
def TupleOf (groupBy : List AttributeKey) (row : Row) (tuple : List Literal) : Prop :=
  List.Forall₂ (fun key l => ∃ cell, row.lookup key.name = some cell ∧ cell.WrittenAs l)
    groupBy tuple

/-- The tuple has the values of the row if and only if the row keeps them. -/
theorem TupleOf.eq_iff (h : TupleOf groupBy row tuple) (hrow : HasGroup groupBy row) :
    tuple.map Literal.groupValue? = groupOf groupBy row ↔ KeepsGroup groupBy row := by
  induction h with
  | nil => exact ⟨fun _ => nofun, fun _ => rfl⟩
  | @cons key l keys ls hkey hkeys ih =>
    obtain ⟨cell, hcell, hl⟩ := hkey
    obtain ⟨⟨cell', v, hcell', hv⟩, hrest⟩ := List.forall_mem_cons.mp hrow
    obtain rfl : cell' = cell := Option.some.inj (hcell'.symm.trans hcell)
    have hkeep : KeepsGroup (key :: keys) row ↔ cell'.Kept ∧ KeepsGroup keys row := by
      rw [KeepsGroup, List.forall_mem_cons]
      simp [hcell, KeepsGroup]
    rw [hkeep, ← hl.eq_iff hv, ← ih hrest]
    simp [groupOf, hcell]

/-- The value of a row in the column of a group key. -/
def groupCell (row : Row) (key : AttributeKey) : Except ServiceError FilterValue :=
  match row.lookup key.name with
  | some cell => .ok (FilterValue.ofCell cell)
  | none => .error (.internal ("top-n row is missing group column " ++ key.name))

theorem groupTuple_eq (groupBy : List AttributeKey) (row : Row) :
    groupTuple groupBy row = (groupBy.mapM (groupCell row)).map FilterValue.tuple := by
  change groupBy.mapM (groupCell row) >>= _ = _
  cases groupBy.mapM (groupCell row) <;> rfl

theorem groupTuples_eq (groupBy : List AttributeKey) (rows : List Row) :
    groupTuples groupBy rows =
      (rows.mapM (groupTuple groupBy)).map fun tuples => (Sql.join "," tuples).text := by
  rw [groupTuples]
  cases rows.mapM (groupTuple groupBy) <;> rfl

theorem groupTuple_error_iff :
    (∃ e, groupTuple groupBy row = .error e) ↔ ∃ key ∈ groupBy, row.lookup key.name = none := by
  rw [groupTuple_eq, map_error_iff, mapM_error_iff]
  refine exists_congr fun key => and_congr_right fun _ => ?_
  unfold groupCell
  cases row.lookup key.name <;> simp

/-- A row with a value for each group key is read back as the tuple of its values. -/
theorem exists_groupTuple (h : HasGroup groupBy row) :
    ∃ sql, groupTuple groupBy row = .ok sql ∧
      ∃ tuple, ReadsAs sql (.list .round tuple) ∧ TupleOf groupBy row tuple := by
  have hcells : ∀ key ∈ groupBy, ∃ value, groupCell row key = .ok value ∧
      ∃ l, ReadsAs value.literal l ∧
        ∃ cell, row.lookup key.name = some cell ∧ cell.WrittenAs l := by
    intro key hkey
    obtain ⟨cell, v, hcell, hv⟩ := h key hkey
    obtain ⟨l, hreads, hwritten⟩ := Json.exists_writtenAs hv
    exact ⟨.ofCell cell, by rw [groupCell, hcell], l, hreads, cell, hcell, hwritten⟩
  obtain ⟨values, hvalues, hlist⟩ := exists_mapM_ok hcells
  refine ⟨FilterValue.tuple values, by rw [groupTuple_eq, hvalues]; rfl, ?_⟩
  obtain ⟨tuple, hreads, htuple⟩ := exists_forall₂ hlist
  have hliterals : List.Forall₂ ReadsAs (values.map FilterValue.literal) tuple :=
    List.forall₂_map_left_iff.mpr hreads
  exact ⟨tuple, (Sql.delimited_list .round hliterals rfl rfl).readsAs, htuple⟩

theorem readItems_join {parts : List Sql} {ls : List Literal} (h : List.Forall₂ ReadsAs parts ls) :
    Literal.readItems (Sql.join "," parts).text.toList = some ls := by
  have hopen : "(" = String.ofList [Sql.Bracket.round.opening] := rfl
  have hclose : ")" = String.ofList [Sql.Bracket.round.closing] := rfl
  have hlist := (Sql.delimited_list .round h hopen hclose).read []
  rw [Sql.chars_append, Sql.chars_append, Sql.chars_raw hopen, Sql.chars_raw hclose,
    List.append_nil, List.singleton_append, List.cons_append] at hlist
  change Literal.read ('(' :: ((Sql.join "," parts).chars ++ [')'])) = _ at hlist
  rw [Literal.readItems, ← Sql.chars, hlist]

/-- Rows with the same text for a tuple that keeps their values are of one group. -/
theorem groupOf_eq_of_text {other : Row} (hrow : HasGroup groupBy row)
    (hother : HasGroup groupBy other) (hkeeps : KeepsGroup groupBy row)
    (hkeeps' : KeepsGroup groupBy other) {a b : Sql}
    (ha : groupTuple groupBy row = .ok a) (hb : groupTuple groupBy other = .ok b)
    (htext : a.text = b.text) : groupOf groupBy row = groupOf groupBy other := by
  obtain ⟨a', ha', tuple, hreads, htuple⟩ := exists_groupTuple hrow
  obtain ⟨b', hb', tuple', hreads', htuple'⟩ := exists_groupTuple hother
  obtain rfl : a' = a := Except.ok.inj (ha'.symm.trans ha)
  obtain rfl : b' = b := Except.ok.inj (hb'.symm.trans hb)
  have hread : Literal.read (a'.chars ++ []) = some (.list .round tuple, []) := hreads.read rfl
  have hread' : Literal.read (b'.chars ++ []) = some (.list .round tuple', []) := hreads'.read rfl
  rw [Sql.chars, htext, ← Sql.chars, hread'] at hread
  obtain rfl : tuple' = tuple := by simpa using hread
  rw [← (htuple.eq_iff hrow).mpr hkeeps, (htuple'.eq_iff hother).mpr hkeeps']

/-- **Group tuples read back.** The tuples of the first pass's rows fail if and only if some row
lacks the column of some group key. Where every such column has a null, a boolean, a text or a
number, they are read back as one tuple for each row, in order, with one literal for each key. A
tuple has the values of its row if and only if none of the row's numbers is changed by being written
as a double with six places; rows of which this holds have one tuple only if they are of one
group. -/
theorem groupTuples_readable (groupBy : List AttributeKey) (rows : List Row) :
    ((∃ e, groupTuples groupBy rows = .error e) ↔
      ∃ row ∈ rows, ∃ key ∈ groupBy, row.lookup key.name = none) ∧
    ((∀ row ∈ rows, HasGroup groupBy row) →
      (∃ text tuples, groupTuples groupBy rows = .ok text ∧
        Literal.readItems text.toList = some (tuples.map (.list .round)) ∧
        List.Forall₂ (fun row tuple => TupleOf groupBy row tuple ∧
          (tuple.map Literal.groupValue? = groupOf groupBy row ↔ KeepsGroup groupBy row))
          rows tuples) ∧
      ∀ row ∈ rows, ∀ other ∈ rows, KeepsGroup groupBy row → KeepsGroup groupBy other →
        ∀ a b, groupTuple groupBy row = .ok a → groupTuple groupBy other = .ok b →
          a.text = b.text → groupOf groupBy row = groupOf groupBy other) := by
  refine ⟨?_, fun hrows => ⟨?_, ?_⟩⟩
  · rw [groupTuples_eq, map_error_iff, mapM_error_iff]
    exact exists_congr fun row => and_congr_right fun _ => groupTuple_error_iff
  · have htuples : ∀ row ∈ rows, ∃ sql, groupTuple groupBy row = .ok sql ∧
        ∃ tuple, ReadsAs sql (.list .round tuple) ∧ TupleOf groupBy row tuple ∧
          (tuple.map Literal.groupValue? = groupOf groupBy row ↔ KeepsGroup groupBy row) := by
      intro row hrow
      obtain ⟨sql, hsql, tuple, hreads, htuple⟩ := exists_groupTuple (hrows row hrow)
      exact ⟨sql, hsql, tuple, hreads, htuple, htuple.eq_iff (hrows row hrow)⟩
    obtain ⟨parts, hparts, hlist⟩ := exists_mapM_ok htuples
    obtain ⟨tuples, hreads, hvalues⟩ := exists_forall₂ hlist
    refine ⟨_, tuples, by rw [groupTuples_eq, hparts]; rfl, ?_, hvalues⟩
    exact readItems_join (List.forall₂_map_right_iff.mpr hreads)
  · intro row hrow other hother hkeeps hkeeps' a b ha hb htext
    exact groupOf_eq_of_text (hrows row hrow) (hrows other hother) hkeeps hkeeps' ha hb htext

/-- A group key without a type. -/
def idKey : AttributeKey := { name := "id" }

theorem not_keepsGroup_largest : ¬ KeepsGroup [idKey] [("id", .int 18446744073709551615)] := by
  intro h
  have hdouble : Decimal.Double.ofFloat (Decimal.floatOfInt 18446744073709551615) =
      .finite false (2 ^ 52) 12 := by rfl
  obtain ⟨q, hcell, hq, -⟩ := h idKey List.mem_cons_self _ rfl _ rfl
  rw [Decimal.value?, hdouble, Decimal.Double.value?, Option.some.injEq] at hq
  have hnumber : (18446744073709551615 : ℚ) = q := by
    simpa [Json.groupValue?, Decimal.int64Min, Decimal.uint64Max] using hcell
  norm_num [← hnumber] at hq

theorem not_keepsGroup_small : ¬ KeepsGroup [idKey] [("id", .float 1e-7)] := by
  intro h
  have hdouble : Decimal.Double.ofFloat 1e-7 = .finite false 7555786372591432 (-76) := by rfl
  obtain ⟨q, -, hq, k, hk⟩ := h idKey List.mem_cons_self _ rfl _ rfl
  rw [Decimal.value?, hdouble, Decimal.Double.value?, Option.some.injEq, hk] at hq
  have hbetween : (0 : ℚ) < k ∧ (k : ℚ) < 1 := by
    norm_num at hq
    constructor <;> linarith
  have hint : 0 < k ∧ k < 1 := by exact_mod_cast hbetween
  omega

/-- A number that is no double, and one with more than six places. -/
def changedRows : List Row := [[("id", .int 18446744073709551615)], [("id", .float 1e-7)]]

theorem hasGroup_changedRows : ∀ row ∈ changedRows, HasGroup [idKey] row := by
  have hone : ∀ {cell : Json} {v : GroupValue}, cell.groupValue? = some v →
      HasGroup [idKey] [("id", cell)] := fun hv =>
    List.forall_mem_singleton.mpr ⟨_, _, rfl, hv⟩
  have hlargest : Json.groupValue? (.int 18446744073709551615) =
      some (.number (18446744073709551615 : ℤ)) := by
    rw [Json.groupValue?, if_pos (by decide)]
  have hsmall : Json.groupValue? (.float 1e-7) =
      some (.number (7555786372591432 * 2 ^ (-76 : ℤ))) := by
    have hdouble : Decimal.Double.ofFloat 1e-7 = .finite false 7555786372591432 (-76) := by rfl
    simp [Json.groupValue?, Decimal.value?, hdouble, Decimal.Double.value?]
  exact List.forall_mem_cons.mpr ⟨hone hlargest, List.forall_mem_singleton.mpr (hone hsmall)⟩

/-- The largest word becomes the double above it, and a tenth of a millionth becomes zero. -/
theorem groupTuples_readable_changed :
    groupTuples [idKey] changedRows = .ok "(18446744073709551616.000000),(0.000000)" ∧
      ∃ text tuples, groupTuples [idKey] changedRows = .ok text ∧
        Literal.readItems text.toList = some (tuples.map (.list .round)) ∧
        List.Forall₂ (fun row tuple => tuple.map Literal.groupValue? ≠ groupOf [idKey] row)
          changedRows tuples := by
  have hchanged : ∀ row ∈ changedRows, ¬ KeepsGroup [idKey] row := List.forall_mem_cons.mpr
    ⟨not_keepsGroup_largest, List.forall_mem_singleton.mpr not_keepsGroup_small⟩
  obtain ⟨text, tuples, htext, hread, hrows⟩ :=
    ((groupTuples_readable [idKey] changedRows).2 hasGroup_changedRows).1
  have hvalues := (List.forall₂_and_left _ _).mpr ⟨hchanged, hrows⟩
  exact ⟨by rfl, text, tuples, htext, hread,
    hvalues.imp fun row tuple ⟨hchanged, _, hiff⟩ he => hchanged (hiff.mp he)⟩

end PanelQuery
