import PanelQuery.Json.Record
import PanelQuery.Proofs.Agree
import PanelQuery.Proofs.Json.Sound

/-! # Records, lists and options

A record written with its fields in order is read member by member, as it would be from an array. A
property that each field keeps is had by every record that is read. -/

namespace PanelQuery.Json.Document

variable {σ α : Type}

/-! ## Members in the order of the fields -/

theorem find?_field {fields : List (Field σ)} (h : (fields.map Field.name).Nodup) {f : Field σ}
    (hf : f ∈ fields) : fields.find? (·.name == f.name) = some f := by
  induction fields with
  | nil => cases hf
  | cons g fields ih =>
    rw [List.map_cons, List.nodup_cons] at h
    rcases List.mem_cons.mp hf with rfl | hf
    · simp
    · have hne : (g.name == f.name) = false := by
        rw [beq_eq_false_iff_ne]
        intro he
        exact h.1 (he ▸ List.mem_map_of_mem hf)
      rw [List.find?_cons, hne]
      exact ih h.2 hf

/-- Members that are the fields still to come are stored like the items of an array. -/
theorem storeMembers_inOrder {all fields : List (Field σ)} {members : List (Key × Document)}
    (hkeys : members.map Prod.fst = fields.map fun f => Key.name f.name)
    (hfind : ∀ f ∈ fields, all.find? (·.name == f.name) = some f)
    (hnodup : (fields.map Field.name).Nodup) (s : σ) (seen : List String)
    (hseen : ∀ f ∈ fields, f.name ∉ seen) :
    storeMembers all s seen members =
      (storeItems s fields (members.map Prod.snd) true).map fun t =>
        (t, (fields.map Field.name).reverse ++ seen) := by
  induction fields generalizing members s seen with
  | nil =>
    obtain rfl := List.map_eq_nil_iff.mp hkeys
    rfl
  | cons f fields ih =>
    obtain ⟨⟨key, d⟩, members, rfl, rfl, hothers⟩ := List.map_eq_cons_iff.mp hkeys
    rw [List.forall_mem_cons] at hfind hseen
    rw [List.map_cons, List.nodup_cons] at hnodup
    have hcontains : seen.contains f.name = false := by simpa using hseen.1
    have hrest : ∀ g ∈ fields, g.name ∉ f.name :: seen := fun g hg he => by
      rcases List.mem_cons.mp he with he | he
      · exact hnodup.1 (he ▸ List.mem_map_of_mem hg)
      · exact hseen.2 g hg he
    simp only [storeMembers, hfind.1, hcontains, storeItems, List.map_cons, Bool.false_eq_true,
      if_false]
    cases f.store s d with
    | error e => rfl
    | ok t =>
      simp only [bind, Except.bind, ih hothers hfind.2 hnodup.2 t _ hrest, List.reverse_cons,
        List.append_assoc, List.cons_append, List.nil_append]

/-- **Order makes names superfluous.** An object with exactly the fields of a record, in order, is
read like the array of its values. -/
theorem asRecord_inOrder {start : σ} {fields : List (Field σ)} {members : List (Key × Document)}
    (hnodup : (fields.map Field.name).Nodup)
    (hkeys : members.map Prod.fst = fields.map fun f => Key.name f.name) :
    asRecord start fields (.obj members true) =
      asRecord start fields (.arr (members.map Prod.snd) true) := by
  have hcomplete : complete fields ((fields.map Field.name).reverse ++ []) = true := by
    simp only [complete, List.all_eq_true, List.append_nil]
    intro f hf
    have hmem : f.name ∈ (fields.map Field.name).reverse :=
      List.mem_reverse.mpr (List.mem_map_of_mem hf)
    simp [hmem]
  have hstore := storeMembers_inOrder hkeys (fun f => find?_field hnodup) hnodup start
    [] fun _ _ => List.not_mem_nil
  simp only [asRecord, hstore]
  cases storeItems start fields (members.map Prod.snd) true with
  | error e => rfl
  | ok t => simp only [Except.map, bind, Except.bind, Bool.not_true, Bool.false_eq_true, if_false,
      hcomplete, if_true]

/-! ## What is kept while reading -/

/-- Storing a part with containers of at most `room` keeps `P`. -/
def Field.Keeps (P : σ → Prop) (room : Nat) (f : Field σ) : Prop :=
  ∀ s d t, P s → Sound room d → f.store s d = .ok t → P t

section Keeps

variable {P : σ → Prop} {room : Nat}

theorem Field.keeps_may {name : String} {read : Reader α} {set : σ → α → σ}
    (h : ∀ s d v, P s → Sound room d → read d = .ok v → P (set s v)) :
    (Field.may name read set).Keeps P room := by
  intro s d t hs hd ht
  obtain ⟨v, hv, rfl⟩ := ok_of_map ht
  exact h s d v hs hd hv

theorem Field.keeps_need {name : String} {read : Reader α} {set : σ → α → σ}
    (h : ∀ s d v, P s → Sound room d → read d = .ok v → P (set s v)) :
    (Field.need name read set).Keeps P room := by
  have hmay : (Field.may name read set).Keeps P room := Field.keeps_may h
  exact hmay

theorem storeItems_closed {fields : List (Field σ)} {items : List Document} {closed : Bool}
    {s t : σ} (h : storeItems s fields items closed = .ok t) : closed = true := by
  cases closed with
  | true => rfl
  | false =>
    induction fields generalizing s items with
    | nil => cases items <;> cases h
    | cons f fields ih =>
      cases items with
      | nil => cases h
      | cons d items =>
        obtain ⟨u, -, ht⟩ := ok_of_bind h
        exact ih ht

theorem storeItems_keeps {fields : List (Field σ)} {items : List Document} {closed : Bool}
    {s t : σ} (hkeeps : ∀ f ∈ fields, f.Keeps P room) (hs : P s)
    (hitems : ∀ d ∈ items, Sound room d) (h : storeItems s fields items closed = .ok t) : P t := by
  induction fields generalizing s items with
  | nil =>
    cases items with
    | cons d items => cases h
    | nil =>
      cases closed with
      | false => cases h
      | true =>
        cases h
        exact hs
  | cons f fields ih =>
    rw [List.forall_mem_cons] at hkeeps
    cases items with
    | nil =>
      simp only [storeItems] at h
      split at h
      · cases h
      split at h
      · cases h
      · exact ih hkeeps.2 hs hitems h
    | cons d items =>
      rw [List.forall_mem_cons] at hitems
      obtain ⟨u, hu, ht⟩ := ok_of_bind h
      exact ih hkeeps.2 (hkeeps.1 s d u hs hitems.1 hu) hitems.2 ht

theorem storeMembers_keeps {fields : List (Field σ)} {members : List (Key × Document)} {s : σ}
    {seen : List String} {r : σ × List String} (hkeeps : ∀ f ∈ fields, f.Keeps P room) (hs : P s)
    (hmembers : ∀ m ∈ members, Sound room m.2) (h : storeMembers fields s seen members = .ok r) :
    P r.1 := by
  induction members generalizing s seen with
  | nil =>
    cases h
    exact hs
  | cons m members ih =>
    rw [List.forall_mem_cons] at hmembers
    obtain ⟨_ | _, d⟩ := m
    · simp only [storeMembers] at h
      split at h
      · obtain ⟨-, -, hrest⟩ := ok_of_bind h
        exact ih hs hmembers.2 hrest
      · next f hf =>
        split at h
        · cases h
        · obtain ⟨u, hu, hrest⟩ := ok_of_bind h
          exact ih (hkeeps f (List.mem_of_find?_eq_some hf) s d u hs hmembers.1 hu) hmembers.2 hrest
    · cases h

/-- **A kept property is had by every record.** -/
theorem asRecord_keeps {start : σ} {fields : List (Field σ)} {d : Document} {t : σ}
    (hkeeps : ∀ f ∈ fields, f.Keeps P room) (hstart : P start) (hd : Sound (room + 1) d)
    (h : asRecord start fields d = .ok t) : P t := by
  cases hd with
  | arr hitems => exact storeItems_keeps hkeeps hstart hitems h
  | openArr items => cases storeItems_closed h
  | obj hmembers =>
    obtain ⟨r, hr, ht⟩ := ok_of_bind h
    have hkept := storeMembers_keeps hkeeps hstart hmembers hr
    simp only [Bool.not_true, Bool.false_eq_true, if_false] at ht
    split at ht
    · cases ht
      exact hkept
    · cases ht
  | openObj members =>
    obtain ⟨r, hr, ht⟩ := ok_of_bind h
    cases ht
  | _ => cases h

/-- Every value of a list comes from a part of the array. -/
theorem asList_keeps {read : Reader α} {d : Document} {vs : List α} {Q : α → Prop}
    (hread : ∀ d v, Sound room d → read d = .ok v → Q v) (hd : Sound (room + 1) d)
    (h : asList read d = .ok vs) : ∀ v ∈ vs, Q v := by
  cases hd with
  | arr hitems =>
    obtain ⟨us, hus, hvs⟩ := ok_of_bind h
    cases hvs
    intro v hv
    obtain ⟨e, he, hve⟩ := forall₂_exists_left (mapM_ok_iff.mp hus) hv
    exact hread e v (hitems e he) hve
  | openArr items =>
    obtain ⟨us, hus, hvs⟩ := ok_of_bind h
    cases hvs
  | _ => cases h

theorem asOption_keeps {read : Reader α} {d : Document} {o : Option α} {Q : α → Prop}
    (hread : ∀ v, read d = .ok v → Q v) (h : asOption read d = .ok o) : ∀ v ∈ o, Q v := by
  unfold asOption at h
  split at h
  · cases h
    exact nofun
  · obtain ⟨v, hv, rfl⟩ := ok_of_map h
    intro w hw
    cases hw
    exact hread v hv

end Keeps

/-! ## Written values -/

mutual

theorem plain_ofJson : ∀ j : Json, plain (ofJson j) = .ok j
  | .null | .bool _ | .int _ | .float _ | .str _ => rfl
  | .arr items => by
    rw [ofJson, plain, plainItems_ofItems items]
    rfl
  | .obj members => by
    rw [ofJson, plain, plainMembers_ofMembers members]
    rfl

theorem plainItems_ofItems : ∀ items : List Json, plainItems (ofItems items) = .ok items
  | [] => rfl
  | item :: items => by
    rw [ofItems, plainItems, plain_ofJson item, plainItems_ofItems items]
    rfl

theorem plainMembers_ofMembers : ∀ members : List (String × Json),
    plainMembers (ofMembers members) = .ok members
  | [] => rfl
  | (key, value) :: members => by
    rw [ofMembers, plainMembers, plain_ofJson value, plainMembers_ofMembers members]
    rfl

end

theorem plainItems_eq (items : List Document) : plainItems items = items.mapM plain := by
  induction items with
  | nil => rfl
  | cons d items ih =>
    rw [plainItems, List.mapM_cons, ih]
    rfl

theorem ofItems_eq (items : List Json) : ofItems items = items.map ofJson := by
  induction items with
  | nil => rfl
  | cons item items ih => rw [ofItems, ih, List.map_cons]

theorem ofMembers_eq (members : List (String × Json)) :
    ofMembers members = members.map fun m => (.name m.1, ofJson m.2) := by
  induction members with
  | nil => rfl
  | cons m members ih => rw [ofMembers, ih, List.map_cons]

/-- A record written with its fields in order is stored one value after the other. -/
theorem asRecord_ofJson {start : σ} {fields : List (Field σ)} {members : List (String × Json)}
    (hnodup : (fields.map Field.name).Nodup)
    (hkeys : members.map Prod.fst = fields.map Field.name) :
    asRecord start fields (ofJson (.obj members)) =
      storeItems start fields (members.map fun m => ofJson m.2) true := by
  rw [ofJson, ofMembers_eq, asRecord_inOrder hnodup]
  · simp [asRecord, Function.comp_def]
  · have hnames := congrArg (List.map Key.name) hkeys
    simpa [Function.comp_def] using hnames

/-- Storing goes on with the record in which a value that could be read has been set. -/
theorem storeItems_may {read : Reader α} {d : Document} {v : α} (h : read d = .ok v) (s : σ)
    (name : String) (set : σ → α → σ) (fields : List (Field σ)) (items : List Document)
    (closed : Bool) : storeItems s (.may name read set :: fields) (d :: items) closed =
      storeItems (set s v) fields items closed := by
  simp only [storeItems, Field.may, h, Except.map, bind, Except.bind]

theorem storeItems_need {read : Reader α} {d : Document} {v : α} (h : read d = .ok v) (s : σ)
    (name : String) (set : σ → α → σ) (fields : List (Field σ)) (items : List Document)
    (closed : Bool) : storeItems s (.need name read set :: fields) (d :: items) closed =
      storeItems (set s v) fields items closed := by
  simp only [storeItems, Field.need, h, Except.map, bind, Except.bind]

theorem asList_ofJson {read : Reader α} {write : α → Json}
    (h : ∀ x, read (ofJson (write x)) = .ok x) (xs : List α) :
    asList read (ofJson (.arr (xs.map write))) = .ok xs := by
  have hvalues : (ofItems (xs.map write)).mapM read = .ok xs := by
    rw [ofItems_eq, List.map_map, mapM_ok_iff, List.forall₂_map_left_iff, List.forall₂_same]
    exact fun x _ => h x
  rw [ofJson, asList, hvalues]
  rfl

end PanelQuery.Json.Document
