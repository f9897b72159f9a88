import PanelQuery.Json.Bytes
import PanelQuery.Proofs.Json.Double

/-! # Written values as documents

The compact text of a value is read as the document of that value. Three things stand in the way of
this for all values, and `Legible` excludes them: containers nested deeper than the reader goes,
integers beyond 64 bits, and doubles that are rounded on their way back. -/

namespace PanelQuery.Json

/-! ## Legible values -/

mutual

/-- A value whose integers have 64 bits and whose doubles read back, with at most `room` containers
inside each other. -/
def Legible : Nat → Json → Prop
  | _, .null | _, .bool _ | _, .str _ => True
  | _, .int n => Decimal.int64Min ≤ n ∧ n ≤ Decimal.uint64Max
  | _, .float x => ReadsBack x
  | 0, .arr _ | 0, .obj _ => False
  | room + 1, .arr items => LegibleItems room items
  | room + 1, .obj members => LegibleMembers room members

def LegibleItems : Nat → List Json → Prop
  | _, [] => True
  | room, item :: items => Legible room item ∧ LegibleItems room items

def LegibleMembers : Nat → List (String × Json) → Prop
  | _, [] => True
  | room, (_, value) :: members => Legible room value ∧ LegibleMembers room members

end

theorem legibleItems_iff {room : Nat} {items : List Json} :
    LegibleItems room items ↔ ∀ j ∈ items, Legible room j := by
  induction items with
  | nil => simp [LegibleItems]
  | cons item items ih => rw [LegibleItems, ih, List.forall_mem_cons]

/-! ## Tokens of a value -/

mutual

/-- The tokens of the compact text. -/
def lexemes : Json → List Token
  | .null => [.null]
  | .bool b => [.bool b]
  | .int n => [.int n]
  | .float x => [.float x]
  | .str s => [.text (some s)]
  | .arr [] => [.openArray, .closeArray]
  | .arr (item :: items) => .openArray :: lexemes item ++ itemLexemes items
  | .obj [] => [.openObject, .closeObject]
  | .obj ((key, value) :: members) =>
    .openObject :: .text (some key) :: .colon :: lexemes value ++ memberLexemes members

/-- The tokens after the first item of an array. -/
def itemLexemes : List Json → List Token
  | [] => [.closeArray]
  | item :: items => .comma :: lexemes item ++ itemLexemes items

/-- The tokens after the first member of an object. -/
def memberLexemes : List (String × Json) → List Token
  | [] => [.closeObject]
  | (key, value) :: members =>
    .comma :: .text (some key) :: .colon :: lexemes value ++ memberLexemes members

end

theorem endsNumber_nil : EndsNumber [] := nofun

theorem endsNumber_cons {c : Char} (h : c ∈ [',', ']', '\x7d']) (rest : List Char) :
    EndsNumber (c :: rest) := by
  rintro _ _ ⟨⟩
  simp only [List.mem_cons, List.not_mem_nil, or_false] at h
  rcases h with rfl | rfl | rfl <;> decide

mutual

theorem tokens_chars : ∀ (room : Nat) (j : Json), Legible room j → ∀ {rest : List Char},
    EndsNumber rest → tokens (j.chars ++ rest) = j.lexemes ++ tokens rest
  | _, .null, _, rest, _ => tokens_cons rfl rfl
  | _, .bool true, _, rest, _ => tokens_cons rfl rfl
  | _, .bool false, _, rest, _ => tokens_cons rfl rfl
  | _, .int n, h, rest, hr => by
    simp only [Legible] at h
    exact tokens_int h.1 h.2 hr
  | _, .float x, h, rest, hr => by
    simp only [Legible] at h
    exact tokens_float h hr
  | _, .str s, _, rest, _ => tokens_quoted s rest
  | _ + 1, .arr [], _, rest, _ => by simp [chars, itemChars, lexemes]
  | room + 1, .arr (item :: items), h, rest, _ => by
    simp only [Legible, LegibleItems] at h
    have hitems := tokens_items room item items h.1 h.2 rest
    simp [chars, lexemes, hitems]
  | _ + 1, .obj [], _, rest, _ => by simp [chars, memberChars, lexemes]
  | room + 1, .obj ((key, value) :: members), h, rest, _ => by
    simp only [Legible, LegibleMembers] at h
    have hmembers := tokens_members room key value members h.1 h.2 rest
    simp [chars, lexemes, hmembers]
termination_by _ j => sizeOf j

theorem tokens_items : ∀ (room : Nat) (item : Json) (items : List Json), Legible room item →
    LegibleItems room items → ∀ rest : List Char,
    tokens (itemChars (item :: items) ++ ']' :: rest) =
      item.lexemes ++ itemLexemes items ++ tokens rest
  | room, item, [], h, _, rest => by
    have hitem := tokens_chars room item h (endsNumber_cons (c := ']') (by simp) rest)
    simp [itemChars, itemLexemes, hitem]
  | room, item, next :: items, h, hs, rest => by
    simp only [LegibleItems] at hs
    have hitem := tokens_chars room item h
      (endsNumber_cons (c := ',') (by simp) (itemChars (next :: items) ++ ']' :: rest))
    have hitems := tokens_items room next items hs.1 hs.2 rest
    simp [itemChars, itemLexemes, hitem, hitems]
termination_by _ item items => sizeOf item + sizeOf items

theorem tokens_members : ∀ (room : Nat) (key : String) (value : Json)
    (members : List (String × Json)), Legible room value → LegibleMembers room members →
    ∀ rest : List Char, tokens (memberChars ((key, value) :: members) ++ '\x7d' :: rest) =
      .text (some key) :: .colon :: value.lexemes ++ memberLexemes members ++ tokens rest
  | room, key, value, [], h, _, rest => by
    have hvalue := tokens_chars room value h (endsNumber_cons (c := '\x7d') (by simp) rest)
    simp [memberChars, memberLexemes, tokens_quoted, hvalue]
  | room, key, value, (next, other) :: members, h, hs, rest => by
    simp only [LegibleMembers] at hs
    have hvalue := tokens_chars room value h (endsNumber_cons (c := ',') (by simp)
      (memberChars ((next, other) :: members) ++ '\x7d' :: rest))
    have hmembers := tokens_members room next other members hs.1 hs.2 rest
    simp [memberChars, memberLexemes, tokens_quoted, hvalue, hmembers]
termination_by _ _ value members => sizeOf value + sizeOf members

end

/-! ## Documents of tokens -/

namespace Document

theorem nested_of_lt (outer : List Open) (h : outer.length < maxDepth) (d : Document) :
    nested outer d = d := if_pos h

/-- No value starts with the end of an array. -/
theorem lexemes_ne_closeArray (j : Json) (ts rest : List Token) :
    j.lexemes ++ ts ≠ .closeArray :: rest := by
  cases j with
  | arr items => cases items <;> simp [lexemes]
  | obj members => rcases members with _ | ⟨⟨key, value⟩, members⟩ <;> simp [lexemes]
  | _ => simp [lexemes]

theorem value_item (outer : List Open) (j : Json) (ts : List Token) :
    value outer (.openArray :: (j.lexemes ++ ts)) = value (.arr [] :: outer) (j.lexemes ++ ts) := by
  rw [value]
  exact fun rest he => lexemes_ne_closeArray j ts rest he

mutual

/-- The tokens of a value are read as its document. -/
theorem value_lexemes : ∀ (room : Nat) (j : Json), Legible room j → ∀ (outer : List Open),
    outer.length + room ≤ maxDepth → ∀ ts : List Token,
    value outer (j.lexemes ++ ts) = after outer (ofJson j) ts
  | _, .null, _, outer, _, ts => by simp [lexemes, value, leaf?, ofJson]
  | _, .bool b, _, outer, _, ts => by simp [lexemes, value, leaf?, ofJson]
  | _, .int n, _, outer, _, ts => by simp [lexemes, value, leaf?, ofJson]
  | _, .float x, _, outer, _, ts => by simp [lexemes, value, leaf?, ofJson]
  | _, .str s, _, outer, _, ts => by simp [lexemes, value, leaf?, ofJson]
  | room + 1, .arr [], _, outer, hroom, ts => by
    simp [lexemes, value, ofJson, ofItems, nested_of_lt outer (by omega)]
  | room + 1, .arr (item :: items), h, outer, hroom, ts => by
    simp only [Legible, LegibleItems] at h
    have hinner : (Open.arr [] :: outer).length + room ≤ maxDepth := by
      rw [List.length_cons]
      omega
    simp only [lexemes, List.cons_append, List.append_assoc]
    rw [value_item, value_lexemes room item h.1 _ hinner, after_items room items h.2 _ _ _ hroom,
      ofJson, ofItems]
    rfl
  | room + 1, .obj [], _, outer, hroom, ts => by
    simp [lexemes, value, ofJson, ofMembers, nested_of_lt outer (by omega)]
  | room + 1, .obj ((key, v) :: members), h, outer, hroom, ts => by
    simp only [Legible, LegibleMembers] at h
    have hinner : (Open.obj [] (.name key) :: outer).length + room ≤ maxDepth := by
      rw [List.length_cons]
      omega
    simp only [lexemes, List.cons_append, List.append_assoc, value, Key.ofText]
    rw [value_lexemes room v h.1 _ hinner, after_members room members h.2 _ _ _ _ hroom, ofJson,
      ofMembers]
    rfl

theorem after_items : ∀ (room : Nat) (items : List Json), LegibleItems room items →
    ∀ (outer : List Open) (done : List Document) (d : Document),
    outer.length + (room + 1) ≤ maxDepth → ∀ ts : List Token,
    after (.arr done :: outer) d (itemLexemes items ++ ts) =
      after outer (.arr ((d :: done).reverse ++ ofItems items) true) ts
  | _, [], _, outer, done, d, hroom, ts => by
    simp [itemLexemes, after, ofItems, nested_of_lt outer (by omega)]
  | room, item :: items, h, outer, done, d, hroom, ts => by
    simp only [LegibleItems] at h
    have hinner : (Open.arr (d :: done) :: outer).length + room ≤ maxDepth := by
      rw [List.length_cons]
      omega
    simp only [itemLexemes, List.cons_append, List.append_assoc, after]
    rw [value_lexemes room item h.1 _ hinner, after_items room items h.2 _ _ _ hroom, ofItems]
    simp

theorem after_members : ∀ (room : Nat) (members : List (String × Json)),
    LegibleMembers room members → ∀ (outer : List Open) (done : List (Key × Document)) (key : Key)
    (d : Document), outer.length + (room + 1) ≤ maxDepth → ∀ ts : List Token,
    after (.obj done key :: outer) d (memberLexemes members ++ ts) =
      after outer (.obj (((key, d) :: done).reverse ++ ofMembers members) true) ts
  | _, [], _, outer, done, key, d, hroom, ts => by
    simp [memberLexemes, after, ofMembers, nested_of_lt outer (by omega)]
  | room, (next, v) :: members, h, outer, done, key, d, hroom, ts => by
    simp only [LegibleMembers] at h
    have hinner : (Open.obj ((key, d) :: done) (.name next) :: outer).length + room ≤ maxDepth := by
      rw [List.length_cons]
      omega
    simp only [memberLexemes, List.cons_append, List.append_assoc, after, Key.ofText]
    rw [value_lexemes room v h.1 _ hinner, after_members room members h.2 _ _ _ _ hroom, ofMembers]
    simp

end

/-- **Written values read back.** -/
theorem readWhole_render {j : Json} (h : Legible maxDepth j) : readWhole j.render = ofJson j := by
  have htokens := tokens_chars maxDepth j h endsNumber_nil
  have hvalue := value_lexemes maxDepth j h [] (by simp) (tokens [])
  rw [List.append_nil] at htokens
  rw [readWhole, render, String.toList_ofList, htokens, hvalue]
  simp [tokens, after]

end Document

/-! ## Bytes -/

theorem toList_eq_data (bytes : ByteArray) : bytes.toList = bytes.data.toList := by
  have hloop : ∀ (n i : Nat) (done : List UInt8), bytes.size - i = n →
      ByteArray.toList.loop bytes i done = done.reverse ++ bytes.data.toList.drop i := by
    intro n
    induction n with
    | zero =>
      intro i done hn
      have hlength : bytes.data.toList.length ≤ i := by
        rw [Array.length_toList, ByteArray.size_data]
        omega
      rw [ByteArray.toList.loop, if_neg (by omega), List.drop_eq_nil_of_le hlength, List.append_nil]
    | succ n ih =>
      intro i done hn
      have hlength : i < bytes.data.toList.length := by
        rw [Array.length_toList, ByteArray.size_data]
        omega
      have hbyte : bytes.get! i = bytes.data.toList[i] := by
        rw [Array.getElem_toList]
        exact getElem!_pos bytes.data i (by simpa using hlength)
      rw [ByteArray.toList.loop, if_pos (by omega), ih _ _ (by omega), hbyte,
        List.drop_eq_getElem_cons hlength]
      simp
  simpa [ByteArray.toList] using hloop bytes.size 0 [] rfl

/-- The bytes of a text are read as the text. -/
theorem Document.readBytes_toUTF8 (s : String) : readBytes s.toUTF8.toList = readWhole s := by
  have hback : String.fromUTF8? ⟨s.toUTF8.toList.toArray⟩ = some s := by
    rw [toList_eq_data, Array.toArray_toList, String.fromUTF8?]
    exact dif_pos s.isValidUTF8
  rw [readBytes, textOfBytes, hback]

end PanelQuery.Json
