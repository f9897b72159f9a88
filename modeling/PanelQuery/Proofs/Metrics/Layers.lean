import PanelQuery.Proofs.Metrics.Alike
import PanelQuery.Proofs.Metrics.Stage
import PanelQuery.Proofs.Query.Window
import PanelQuery.Proofs.Sql.Hole

/-! # The layers of a stage

A stage reads the one below it, down to samples joined with a lookup. Each layer selects columns and
may group by some of them; here both are read from the text of the statement. -/

namespace PanelQuery.Metrics

open Sql (Piece)
open Sql.SelectList (Reads Place Word)

/-! ## Grouping -/

theorem name_mem_join (sep key : String) (parts : List Sql) :
    Piece.name key ∈ Sql.join sep parts ↔ ∃ part ∈ parts, Piece.name key ∈ part := by
  induction parts with
  | nil => simp [Sql.join]
  | cons part parts ih =>
    cases parts with
    | nil => simp [Sql.join]
    | cons next parts =>
      rw [Sql.join, List.mem_append, List.mem_append, ih, List.exists_mem_cons_iff]
      · simp [Sql.raw]
      · exact List.cons_ne_nil _ _

/-- The names in the text of a grouping are its keys. -/
theorem Grouping.name_mem_sql (grouping : Grouping) (key : String) :
    Piece.name key ∈ grouping.sql ↔ key ∈ grouping.keys := by
  have htags : ∀ (sep : String) (keys : List String),
      Piece.name key ∈ tagsAndTime sep keys ↔ key ∈ keys := by
    intro sep keys
    rw [tagsAndTime, name_mem_join]
    simp [tagSql, Sql.raw]
  cases grouping with
  | time | series | labels => simp [Grouping.sql, Grouping.keys, Sql.raw]
  | tags keys => exact htags "," keys
  | sets keys =>
    have hlist : Piece.name key ∈ tagList ", " keys ↔ key ∈ keys := by
      rw [tagList, name_mem_join]
      simp [tagSql]
    simp [Grouping.sql, Grouping.keys, Sql.raw, htags, hlist]
  | seriesTags keys => simp [Grouping.sql, Grouping.keys, Sql.raw, htags]

namespace Stage

/-- The stage that a stage reads. -/
def below? : Stage → Option Stage
  | .samples .. | .series .. => none
  | .rates _ _ _ _ source | .across _ _ _ source _ _ _ | .counter _ _ _ source
  | .space _ _ source _ _ | .quantile _ _ source _ => some source

/-- The stage and all stages below it. -/
def layers : Stage → List Stage
  | s@(.samples ..) | s@(.series ..) => [s]
  | s@(.rates _ _ _ _ source) | s@(.across _ _ _ source _ _ _) | s@(.counter _ _ _ source)
  | s@(.space _ _ source _ _) | s@(.quantile _ _ source _) => s :: source.layers

/-- The expression in the select list. -/
def value : Stage → Sql
  | .samples _ _ _ value _ _ _ | .across _ _ value _ _ _ _ | .series _ _ _ _ value _ => value
  | .rates _ _ perMinute _ _ => rateSql perMinute
  | .counter _ increase perMinute _ => counterSql increase perMinute
  | .space _ function _ _ _ => Sql.raw (function ++ "(per_series_value)")
  | .quantile _ q _ _ => quantileSql q

/-- The grouping of a stage; series are always grouped by themselves, and rates read their rows as
they are. -/
def grouping? : Stage → Option Grouping
  | .samples _ _ _ _ _ grouping _ | .across _ _ _ _ grouping _ _ | .space _ _ _ grouping _ =>
    some grouping
  | .quantile tags _ _ _ => some (.tags tags)
  | .series .. => some .series
  | .rates .. | .counter .. => none

/-- The tags by which a stage groups. -/
def groupKeys (s : Stage) : List String := (s.grouping?.map Grouping.keys).getD []

/-- The grouping of a stage stands in its text after GROUP BY. -/
theorem text_grouping {s : Stage} {grouping : Grouping} (h : s.grouping? = some grouping) :
    ∃ front back, s.sql.text = front ++ "GROUP BY " ++ grouping.sql.text ++ back := by
  have hword : "GROUP BY " = String.ofList ['G', 'R', 'O', 'U', 'P', ' ', 'B', 'Y', ' '] := rfl
  have hsplit : ∀ {a b c : Sql} {v : String} (w : List Char),
      v = String.ofList (w ++ ['G', 'R', 'O', 'U', 'P', ' ', 'B', 'Y', ' ']) →
      s.sql = a ++ Sql.raw v ++ grouping.sql ++ b ++ c →
      ∃ front back, s.sql.text = front ++ "GROUP BY " ++ grouping.sql.text ++ back := by
    intro a b c v w hv hs
    rw [String.ofList_append, ← hword] at hv
    refine ⟨a.text ++ String.ofList w, b.text ++ c.text, ?_⟩
    simp only [hs, hv, Sql.text_append, Sql.text_raw, String.append_assoc]
  cases s with
  | rates | counter => cases h
  | samples =>
    cases h
    exact hsplit [' '] rfl rfl
  | across | quantile =>
    cases h
    exact hsplit [')', ' '] rfl rfl
  | space =>
    cases h
    exact hsplit (") WHERE isNaN(per_series_value) = 0 ".toList) rfl rfl
  | series =>
    cases h
    have hclause : " GROUP BY fingerprint, ts ORDER BY fingerprint, ts" =
        String.ofList ([' '] ++ (['G', 'R', 'O', 'U', 'P', ' ', 'B', 'Y', ' '] ++
          ("fingerprint, ts".toList ++ " ORDER BY fingerprint, ts".toList))) := rfl
    rw [String.ofList_append, String.ofList_append, String.ofList_append, ← hword,
      String.ofList_toList, String.ofList_toList] at hclause
    rw [Stage.sql, Sql.text_append, Sql.text_raw, hclause, Grouping.sql, Sql.text_raw]
    simp only [← String.append_assoc]
    exact ⟨_, _, rfl⟩

/-- The stage groups by the key: its name stands in the text after GROUP BY. -/
def GroupsBy (s : Stage) (key : String) : Prop :=
  ∃ grouping, Piece.name key ∈ grouping.sql ∧
    s.grouping? = some grouping ∧
    ∃ front back, s.sql.text = front ++ "GROUP BY " ++ grouping.sql.text ++ back

theorem groupsBy_iff {s : Stage} {key : String} : s.GroupsBy key ↔ key ∈ s.groupKeys := by
  unfold GroupsBy groupKeys
  cases h : s.grouping? with
  | none => simp
  | some grouping =>
    constructor
    · rintro ⟨_, hname, hg, -⟩
      cases hg
      exact (grouping.name_mem_sql key).mp hname
    · exact fun hkey => ⟨grouping, (grouping.name_mem_sql key).mpr hkey, rfl, text_grouping h⟩

/-! ## Layers -/

/-- Every layer is made of expressions. -/
theorem Made.layer {s : Stage} {ms : List Sql.Measure} (h : s.Made ms) :
    ∀ layer ∈ s.layers, ∃ ms, layer.Made ms := by
  have hcons : ∀ {s source : Stage} {ms : List Sql.Measure}, s.Made ms →
      (∀ layer ∈ source.layers, ∃ ms, layer.Made ms) →
      ∀ layer ∈ s :: source.layers, ∃ ms, layer.Made ms := fun hs hsource =>
    List.forall_mem_cons.mpr ⟨⟨_, hs⟩, hsource⟩
  induction h with
  | samples hv => exact List.forall_mem_singleton.mpr ⟨_, .samples hv⟩
  | series hv => exact List.forall_mem_singleton.mpr ⟨_, .series hv⟩
  | rates h ih => exact hcons (.rates h) ih
  | across hv h ih => exact hcons (.across hv h) ih
  | counter h ih => exact hcons (.counter h) ih
  | space hf h ih => exact hcons (.space hf h) ih
  | quantile h ih => exact hcons (.quantile h) ih

theorem Made.of_below? {s below : Stage} {ms : List Sql.Measure} (h : s.Made ms)
    (hb : s.below? = some below) : ∃ ms, below.Made ms := by
  cases h <;> cases hb <;> exact ⟨_, ‹_›⟩

theorem mem_layers_self (s : Stage) : s ∈ s.layers := by
  cases s <;> exact List.mem_cons_self

/-- Every layer stands in the text of a stage. -/
theorem within_layer (s : Stage) : ∀ layer ∈ s.layers, layer.sql.Within s.sql := by
  have hcons : ∀ {s source : Stage}, source.sql.Within s.sql →
      (∀ layer ∈ source.layers, layer.sql.Within source.sql) →
      ∀ layer ∈ s :: source.layers, layer.sql.Within s.sql := fun hs hsource =>
    List.forall_mem_cons.mpr ⟨.refl _, fun layer hl => (hsource layer hl).trans hs⟩
  induction s with
  | samples | series => exact List.forall_mem_singleton.mpr (.refl _)
  | rates _ _ _ _ source ih => exact hcons (((Sql.Within.refl _).after _).before _) ih
  | counter _ _ _ source ih => exact hcons (((Sql.Within.refl _).after _).before _) ih
  | across _ _ _ source _ _ _ ih =>
    exact hcons (((((Sql.Within.refl _).after _).before _).before _).before _ |>.before _) ih
  | space _ _ source _ _ ih =>
    exact hcons (((((Sql.Within.refl _).after _).before _).before _).before _ |>.before _) ih
  | quantile _ _ source _ ih =>
    exact hcons (((((Sql.Within.refl _).after _).before _).before _).before _ |>.before _) ih

end Stage

/-! ## Lookups -/

namespace SeriesLookup

/-- The function that reads a label. -/
def extractWord : Word :=
  .letters ['J', 'S', 'O', 'N', 'E', 'x', 't', 'r', 'a', 'c', 't', 'S', 't', 'r', 'i', 'n', 'g']

/-- A label under its name is one column, whatever words stand in front of it. -/
theorem reads_label (name : String) {separator : String} (hs : separator = "," ∨ separator = ", ")
    (words : List Word) : Reads (.column 0 [] words)
      (labelSql name ++ [.fixed " as ", .name name, .fixed separator]) [name] .start := by
  have hopen : Reads (.column 0 [] words) (Sql.raw "JSONExtractString(labels, ") []
      (.column 1 [] (extractWord :: words)) := .raw rfl rfl
  have hkey : Reads (.column 1 [] (extractWord :: words)) (Sql.literal name) []
      (.column 1 [] (extractWord :: words)) := rfl
  have hclose : Reads (.column 1 [] (extractWord :: words)) (Sql.raw ")") []
      (.column 0 [] (extractWord :: words)) := .raw rfl rfl
  have has : Reads (.column 0 [] (extractWord :: words)) (Sql.raw " as ") []
      (.column 0 [] (.letters ['a', 's'] :: extractWord :: words)) := .raw rfl rfl
  have hname : Reads (.column 0 [] (.letters ['a', 's'] :: extractWord :: words)) [.name name] []
      (.column 0 [] (.name name :: .letters ['a', 's'] :: extractWord :: words)) := rfl
  have hend : Reads (.column 0 [] (.name name :: .letters ['a', 's'] :: extractWord :: words))
      (Sql.raw separator) [name] .start := by
    rcases hs with rfl | rfl <;> exact .raw rfl rfl
  exact ((hopen.append hkey).append hclose).append ((has.append hname).append hend)

/-- The word FROM ends the list of a lookup, whatever table comes after it. -/
theorem reads_fingerprint {w : String} (hw : w = " fingerprint FROM " ∨ w = "fingerprint FROM ")
    (table : String) : Reads .start (Sql.raw (w ++ table)) ["fingerprint"] .done := by
  have hfrom : Reads .start (Sql.raw w) ["fingerprint"] .done := by
    rcases hw with rfl | rfl <;> exact .raw rfl (by decide)
  have htable : Reads .done (Sql.raw table) [] .done := Sql.SelectList.scan_done _
  simpa using hfrom.raw_append htable

/-- A lookup selects the labels it is asked for and the fingerprint. One that is asked for none in a
tier selects distinct fingerprints, and no column of that name. -/
theorem selected {l : SeriesLookup} {labels : List String}
    (h : l.columns = "fingerprint" :: labels) (hne : labels ≠ []) :
    l.sql.selected? = some (labels ++ ["fingerprint"]) := by
  have hsql : ∀ {columns}, Reads (.before []) (l.selectSql ++ l.fromSql) columns .done →
      l.sql.selected? = some columns := fun h => ((h.finished _).finished _).selected
  cases l with
  | single metric delta keys conditions =>
    obtain rfl := (List.cons.inj h).2
    refine hsql (Reads.append ?_ (reads_fingerprint (.inl rfl) _))
    cases keys with
    | all => exact .raw rfl (by decide)
    | keys names =>
      have hnames : Reads .start _ (names.map id) .start := .flatMap fun name _ =>
        reads_blank.append (reads_label name (.inl rfl) [])
      rw [List.map_id] at hnames
      exact Stage.reads_select.append hnames
  | tiered metric tier names conditions =>
    obtain rfl := (List.cons.inj h).2
    refine hsql (Reads.append ?_ (reads_fingerprint (.inr rfl) _))
    cases names with
    | nil => exact absurd rfl hne
    | cons first names =>
      have hselect : Reads (.before []) (Sql.raw "SELECT DISTINCT ") [] (.column 0 [] [.letters
          ['D', 'I', 'S', 'T', 'I', 'N', 'C', 'T']]) := .raw rfl (by decide)
      have hnames : Reads .start _ (names.map id) .start := .flatMap fun name _ =>
        reads_label name (.inr rfl) []
      rw [List.map_id] at hnames
      exact hselect.append ((reads_label first (.inr rfl) _).append hnames)

/-- A label that a reader may use is selected. -/
theorem exists_selected {l : SeriesLookup} {name : String} (h : name ∈ l.columns)
    (hn : name ≠ "fingerprint") : ∃ columns, l.sql.selected? = some columns ∧ name ∈ columns := by
  obtain ⟨labels, hl⟩ : ∃ labels, l.columns = "fingerprint" :: labels := by
    cases l <;> exact ⟨_, rfl⟩
  rw [hl, List.mem_cons, or_iff_right hn] at h
  exact ⟨_, selected hl (List.ne_nil_of_mem h), List.mem_append_left _ h⟩

end SeriesLookup

end PanelQuery.Metrics
