import PanelQuery.Json.Document
import PanelQuery.Proofs.Decimal.Finite

/-! # What reading a text can give

Integers of 64 bits, finite doubles, and containers nested no deeper than the reader goes. Of a
container that is not closed nothing is said, since no value is taken out of one. -/

namespace PanelQuery.Json

/-! ## Tokens -/

/-- The numbers a token can hold. -/
def Token.Sound : Token → Prop
  | .int n => Decimal.int64Min ≤ n ∧ n ≤ Decimal.uint64Max
  | .float x => x.isFinite = true
  | _ => True

theorem sound_numberToken (n : Decimal.Numeral) (plain : Bool) : (numberToken n plain).Sound := by
  unfold numberToken
  dsimp only
  split
  · next h =>
    simp only [Bool.and_eq_true, decide_eq_true_eq] at h
    exact ⟨h.2, by rw [Decimal.uint64Max]; omega⟩
  split
  · next h =>
    simp only [Bool.and_eq_true, decide_eq_true_eq] at h
    exact ⟨by rw [Decimal.int64Min]; omega, h.2⟩
  split
  · next x hx => exact isFinite_floatOf hx
  · trivial

theorem sound_takeNumber {cs rest : List Char} {t : Token} (h : takeNumber cs = some (t, rest)) :
    t.Sound := by
  simp only [takeNumber, bind, Option.bind_eq_some_iff, Prod.exists, pure, Option.some.injEq,
    Prod.mk.injEq] at h
  obtain ⟨whole, afterWhole, -, fraction, afterFraction, -, exponent, after, -, rfl, -⟩ := h
  exact sound_numberToken ..

theorem sound_takeToken {c : Char} {cs rest : List Char} {t : Token}
    (h : takeToken c cs = some (t, rest)) : t.Sound := by
  unfold takeToken at h
  split at h
  case h_7 =>
    simp only [takeText, Option.map_eq_some_iff, Prod.exists, Prod.mk.injEq] at h
    obtain ⟨units, after, -, rfl, -⟩ := h
    trivial
  case h_11 => exact sound_takeNumber h
  all_goals
    cases h
    trivial

theorem sound_tokens (cs : List Char) : ∀ t ∈ tokens cs, t.Sound := by
  induction cs using tokens.induct with
  | case1 => simp [tokens]
  | case2 c cs hs ih => rwa [tokens, if_pos hs]
  | case3 c cs hs hnone =>
    rw [tokens, if_neg hs]
    split
    · simp [Token.Sound]
    · next h => rw [hnone] at h; cases h
  | case4 c cs hs t after hsome ih =>
    rw [tokens, if_neg hs]
    split
    · next h => rw [hsome] at h; cases h
    · next t' after' h =>
      rw [hsome] at h
      cases h
      exact List.forall_mem_cons.mpr ⟨sound_takeToken hsome, ih⟩

/-! ## Documents -/

namespace Document

/-- A document that reading can give, with at most `room` closed containers inside each other. -/
inductive Sound : Nat → Document → Prop where
  | null {room : Nat} : Sound room .null
  | bool {room : Nat} (b : Bool) : Sound room (.bool b)
  | int {room : Nat} {n : Int} (hmin : Decimal.int64Min ≤ n) (hmax : n ≤ Decimal.uint64Max) :
      Sound room (.int n)
  | float {room : Nat} {x : Float} (h : x.isFinite = true) : Sound room (.float x)
  | text {room : Nat} (s : String) : Sound room (.text s)
  | arr {room : Nat} {items : List Document} (h : ∀ d ∈ items, Sound room d) :
      Sound (room + 1) (.arr items true)
  | openArr {room : Nat} (items : List Document) : Sound room (.arr items false)
  | obj {room : Nat} {members : List (Key × Document)} (h : ∀ m ∈ members, Sound room m.2) :
      Sound (room + 1) (.obj members true)
  | openObj {room : Nat} (members : List (Key × Document)) : Sound room (.obj members false)
  | unreadable {room : Nat} : Sound room .unreadable
  | broken {room : Nat} : Sound room .broken

theorem sound_leaf {t : Token} {d : Document} (ht : t.Sound) (h : leaf? t = some d) (room : Nat) :
    Sound room d := by
  unfold leaf? at h
  split at h
  case h_3 => cases h; exact .int ht.1 ht.2
  case h_4 => cases h; exact .float ht
  case h_8 => cases h
  all_goals
    cases h
    constructor

theorem sound_abandon {d : Document} (h : ∀ room, Sound room d) (outer : List Open) (room : Nat) :
    Sound room (abandon d outer) := by
  induction outer generalizing d with
  | nil => exact h room
  | cons o outer ih =>
    cases o with
    | arr done => exact ih fun _ => .openArr _
    | obj done key => exact ih fun _ => .openObj _

theorem sound_abandon_broken (outer : List Open) (room : Nat) :
    Sound room (abandon .broken outer) := sound_abandon (fun _ => .broken) outer room

theorem sound_abandon_openArr (items : List Document) (outer : List Open) (room : Nat) :
    Sound room (abandon (.arr items false) outer) :=
  sound_abandon (fun _ => .openArr items) outer room

theorem sound_abandon_openObj (members : List (Key × Document)) (outer : List Open) (room : Nat) :
    Sound room (abandon (.obj members false) outer) :=
  sound_abandon (fun _ => .openObj members) outer room

end Document

/-- The finished parts of an open container. -/
def Open.parts : Open → List Document
  | .arr done => done
  | .obj done _ => done.map Prod.snd

namespace Document

/-- The containers around a value, each with parts that leave room for what is around them. -/
def Around : List Open → Prop
  | [] => True
  | o :: outer => (∀ d ∈ o.parts, Sound (maxDepth - (outer.length + 1)) d) ∧ Around outer

/-- A container finished inside `outer` is sound, or too deep to have a value. -/
theorem sound_nested {outer : List Open} {d : Document}
    (h : ∀ room, room = maxDepth - (outer.length + 1) → Sound (room + 1) d) :
    Sound (maxDepth - outer.length) (nested outer d) := by
  unfold nested
  split
  · next hroom =>
    rw [show maxDepth - outer.length = maxDepth - (outer.length + 1) + 1 by omega]
    exact h _ rfl
  · exact .unreadable

theorem sound_nested_arr {outer : List Open} {items : List Document}
    (h : ∀ d ∈ items, Sound (maxDepth - (outer.length + 1)) d) :
    Sound (maxDepth - outer.length) (nested outer (.arr items true)) :=
  sound_nested fun _ hr => .arr (hr ▸ h)

theorem sound_nested_obj {outer : List Open} {members : List (Key × Document)}
    (h : ∀ m ∈ members, Sound (maxDepth - (outer.length + 1)) m.2) :
    Sound (maxDepth - outer.length) (nested outer (.obj members true)) :=
  sound_nested fun _ hr => .obj (hr ▸ h)

theorem Around.arr {outer : List Open} {done : List Document} {d : Document}
    (h : Around (.arr done :: outer)) (hd : Sound (maxDepth - (outer.length + 1)) d) :
    Around (.arr (d :: done) :: outer) :=
  ⟨List.forall_mem_cons.mpr ⟨hd, h.1⟩, h.2⟩

theorem Around.obj {outer : List Open} {done : List (Key × Document)} {key : Key} {d : Document}
    (h : Around (.obj done key :: outer)) (hd : Sound (maxDepth - (outer.length + 1)) d)
    (next : Key) : Around (.obj ((key, d) :: done) next :: outer) :=
  ⟨List.forall_mem_cons.mpr ⟨hd, h.1⟩, h.2⟩

/-- The end of an array gives it to the containers around it. -/
theorem Around.closeArr {outer : List Open} {done : List Document} {d : Document}
    (h : Around (.arr done :: outer)) (hd : Sound (maxDepth - (outer.length + 1)) d) :
    Sound (maxDepth - outer.length) (nested outer (.arr (d :: done).reverse true)) :=
  sound_nested_arr fun e he => (h.arr hd).1 e (List.mem_reverse.mp he)

/-- The end of an object gives it to the containers around it. -/
theorem Around.closeObj {outer : List Open} {done : List (Key × Document)} {key : Key}
    {d : Document} (h : Around (.obj done key :: outer))
    (hd : Sound (maxDepth - (outer.length + 1)) d) :
    Sound (maxDepth - outer.length) (nested outer (.obj ((key, d) :: done).reverse true)) :=
  sound_nested_obj fun m hm =>
    (h.obj hd key).1 m.2 (List.mem_map_of_mem (List.mem_reverse.mp hm))

/-- Reading on keeps the invariant: what is finished inside `outer` has room for it. The induction
follows the two functions, one case for each of their branches. -/
theorem sound_value_after :
    (∀ outer ts, Around outer → (∀ t ∈ ts, t.Sound) → Sound maxDepth (value outer ts).1) ∧
    ∀ outer d ts, Around outer → Sound (maxDepth - outer.length) d → (∀ t ∈ ts, t.Sound) →
      Sound maxDepth (after outer d ts).1 := by
  refine value.mutual_induct _ _ ?emptyArray ?array ?emptyObject ?object ?noColon ?noKey ?leaf
    ?noLeaf ?noValue ?whole ?endInArray ?endInObject ?follows ?nextItem ?closeArray ?breakInArray
    ?nextMember ?noNextColon ?closeObject ?breakInObject
  case emptyArray =>
    intro outer rest ih hout hts
    simp only [List.forall_mem_cons] at hts
    exact ih hout (sound_nested_arr nofun) hts.2.2
  case array =>
    intro outer rest hne ih hout hts
    simp only [List.forall_mem_cons] at hts
    rw [value]
    · exact ih ⟨nofun, hout⟩ hts.2
    · exact hne
  case emptyObject =>
    intro outer rest ih hout hts
    simp only [List.forall_mem_cons] at hts
    exact ih hout (sound_nested_obj nofun) hts.2.2
  case object =>
    intro outer key rest ih hout hts
    simp only [List.forall_mem_cons] at hts
    exact ih ⟨nofun, hout⟩ hts.2.2.2
  case noColon =>
    intro outer key rest hne hout hts
    rw [value]
    · exact sound_abandon_openObj _ outer _
    · exact hne
  case noKey =>
    intro outer rest hempty hkey hcolon hout hts
    rw [value]
    · exact sound_abandon_openObj _ outer _
    · exact hempty
    · exact hkey
    · exact hcolon
  case leaf =>
    intro outer t rest h1 h2 h3 h4 h5 h6 d hd ih hout hts
    simp only [List.forall_mem_cons] at hts
    rw [value, hd]
    · exact ih hout (sound_leaf hts.1 hd _) hts.2
    all_goals assumption
  case noLeaf =>
    intro outer t rest h1 h2 h3 h4 h5 h6 hd hout hts
    rw [value, hd]
    · exact sound_abandon_broken outer _
    all_goals assumption
  case noValue =>
    intro outer hout hts
    exact sound_abandon_broken outer _
  case whole =>
    intro d hout hd hts
    exact hd
  case endInArray =>
    intro d done outer hout hd hts
    exact sound_abandon_openArr _ outer _
  case endInObject =>
    intro d done key outer hout hd hts
    exact sound_abandon_openObj _ outer _
  case follows =>
    intro d t rest hout hd hts
    rw [after]
    exact hd
  case nextItem =>
    intro d rest done outer ih hout hd hts
    simp only [List.forall_mem_cons] at hts
    exact ih (hout.arr hd) hts.2
  case closeArray =>
    intro d rest done outer ih hout hd hts
    simp only [List.forall_mem_cons] at hts
    exact ih hout.2 (hout.closeArr hd) hts.2
  case breakInArray =>
    intro d t rest done outer hcomma hclose hout hd hts
    rw [after]
    · exact sound_abandon_openArr _ outer _
    · exact hcomma
    · exact hclose
  case nextMember =>
    intro d done key outer next rest ih hout hd hts
    simp only [List.forall_mem_cons] at hts
    exact ih (hout.obj hd _) hts.2.2.2
  case noNextColon =>
    intro d done key outer next rest hne hout hd hts
    rw [after]
    · exact sound_abandon_openObj _ outer _
    · exact hne
  case closeObject =>
    intro d done key outer rest ih hout hd hts
    simp only [List.forall_mem_cons] at hts
    exact ih hout.2 (hout.closeObj hd) hts.2
  case breakInObject =>
    intro d t done key outer rest hnext hcolon hclose hout hd hts
    rw [after]
    · exact sound_abandon_openObj _ outer _
    · exact hclose
    · exact hnext
    · exact hcolon

/-- **What is read is sound.** -/
theorem sound_readWhole (s : String) : Sound maxDepth (readWhole s) := by
  have hvalue := sound_value_after.1 [] (tokens s.toList) trivial (sound_tokens _)
  unfold readWhole
  split
  · next d hd =>
    rw [hd] at hvalue
    exact hvalue
  · exact .broken

end Document

end PanelQuery.Json
