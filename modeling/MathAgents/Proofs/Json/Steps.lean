import MathAgents.Json.Reader
import MathAgents.Proofs.Outcome

namespace MathAgents.Json

/-!
# What the readers do

A reader comes to a result in one of several ways.  This file tells them for every reader, with what
is found and with the text that is left; what holds of all that is read, and what is read of a text
that was written, is proved along these ways.

* `Yields` — what a reader has found, and what stands behind it.
* `ItemsRead`, `FieldsRead`, `ArrayRead`, `ObjectRead` — arrays and objects; `yields_readField_iff`
  — the fields of an object.
* `StartRead` — the values that start with the first character of a text; `yields_readValue_iff`,
  `read_eq_ok_iff` — all values, and texts that hold a value and nothing else.
-/

open Text (Found)

variable {α : Type} {levels : Nat} {value : Reader Json} {j v : Json} {items : List Json}
  {field : String × Json} {fields : Fields} {c d : Char} {cs rest : List Char}

/-- Whether a reader has found a value, with a text behind it. -/
def Yields (x : Except Fault (Found cs α)) (a : α) (rest : List Char) : Prop :=
  ∃ found, x = .ok found ∧ found.value = a ∧ found.rest = rest

theorem yields_of_ok {x : Except Fault (Found cs α)} {found : Found cs α} (h : x = .ok found) :
    Yields x found.value found.rest := ⟨found, h, rfl, rfl⟩

/-- What is found within a text is found within a longer one, with the same text behind it. -/
theorem yields_within_iff {ds : List Char} {x : Except Fault (Found cs α)} {a : α}
    {h : cs.length ≤ ds.length} : Yields (x.map (·.within h)) a rest ↔ Yields x a rest := by
  constructor
  · rintro ⟨found, hread, rfl, rfl⟩
    obtain ⟨f, hf, rfl⟩ := map_eq_ok_iff.mp hread
    exact yields_of_ok hf
  · rintro ⟨found, rfl, rfl, rfl⟩
    exact ⟨found.within h, rfl, rfl, rfl⟩

theorem yields_behind_iff {x : Except Fault (Found cs α)} {a : α} :
    Yields (x.map (·.behind c)) a rest ↔ Yields x a rest := yields_within_iff

/-! ### Arrays -/

/-- The ways of reading the items of an array: an item is the last one, or a comma and further items
    follow. -/
inductive ItemsRead (value : Reader Json) : List Char → List Json → List Char → Prop
  | last {cs r rest : List Char} {v : Json} (hv : Yields (value cs) v r)
      (hr : skipSpace r = ']' :: rest) : ItemsRead value cs [v] rest
  | next {cs r s t rest : List Char} {c : Char} {v : Json} {items : List Json}
      (hv : Yields (value cs) v r) (hr : skipSpace r = ',' :: s) (hs : skipSpace s = c :: t)
      (hc : c ≠ ']') (h : ItemsRead value s items rest) : ItemsRead value cs (v :: items) rest

theorem itemsRead_of_ok (cs : List Char) {found : Found cs (List Json)}
    (h : readItems value cs = .ok found) : ItemsRead value cs found.value found.rest := by
  -- by induction on the length of the text: every item takes something off
  rw [readItems] at h
  obtain ⟨⟨v, r, hr⟩, hread, h⟩ := bind_eq_ok_iff.mp h
  have hv : Yields (value cs) v r := yields_of_ok hread
  dsimp only at h
  split at h
  · cases h
  · next c s hs =>
    split at h
    · next hc =>
      obtain rfl := Except.ok.inj h
      exact .last hv (hc ▸ hs)
    · split at h
      · next hc =>
        split at h
        · cases h
        · next d t ht =>
          split at h
          · cases h
          · next hd =>
            obtain ⟨more, hmore, h⟩ := bind_eq_ok_iff.mp h
            obtain rfl := Except.ok.inj h
            have hshorter : s.length < cs.length := Nat.lt_trans (length_of_skipSpace hs) hr
            exact .next hv (hc ▸ hs) ht hd (itemsRead_of_ok s hmore)
      · cases h
termination_by cs.length

theorem ItemsRead.yields (h : ItemsRead value cs items rest) :
    Yields (readItems value cs) items rest := by
  -- every test of the reader has the outcome that the relation names
  induction h with
  | last hv hr =>
    obtain ⟨⟨v, r, hshorter⟩, hread, rfl, rfl⟩ := hv
    rw [readItems, hread]
    simp only [bind, Except.bind]
    split
    · next hs => cases hs.symm.trans hr
    · next hs =>
      obtain ⟨rfl, rfl⟩ := List.cons.inj (hs.symm.trans hr)
      exact ⟨_, rfl, rfl, rfl⟩
  | next hv hr hs hc _ ih =>
    obtain ⟨⟨v, r, hshorter⟩, hread, rfl, rfl⟩ := hv
    obtain ⟨more, hmore, rfl, rfl⟩ := ih
    rw [readItems, hread]
    simp only [bind, Except.bind]
    split
    · next hcomma => cases hcomma.symm.trans hr
    · next hcomma =>
      obtain ⟨rfl, rfl⟩ := List.cons.inj (hcomma.symm.trans hr)
      rw [if_neg (by decide), if_pos rfl]
      split
      · next hnext => cases hnext.symm.trans hs
      · next hnext =>
        obtain ⟨rfl, rfl⟩ := List.cons.inj (hnext.symm.trans hs)
        rw [if_neg hc, hmore]
        exact ⟨_, rfl, rfl, rfl⟩

/-- The ways of reading an array behind its opening bracket. -/
inductive ArrayRead (value : Reader Json) : List Char → Json → List Char → Prop
  | empty {cs rest : List Char} (hcs : skipSpace cs = ']' :: rest) :
      ArrayRead value cs (.arr []) rest
  | items {cs t rest : List Char} {c : Char} {items : List Json} (hcs : skipSpace cs = c :: t)
      (hc : c ≠ ']') (h : ItemsRead value cs items rest) : ArrayRead value cs (.arr items) rest

theorem yields_readArray_iff : Yields (readArray value cs) j rest ↔ ArrayRead value cs j rest := by
  constructor
  · rintro ⟨found, h, rfl, rfl⟩
    unfold readArray at h
    split at h
    · cases h
    · next c s hs =>
      split at h
      · next hc =>
        obtain rfl := Except.ok.inj h
        exact .empty (hc ▸ hs)
      · next hc =>
        obtain ⟨items, hitems, rfl⟩ := map_eq_ok_iff.mp h
        exact .items hs hc (itemsRead_of_ok cs hitems)
  · intro h
    unfold readArray
    cases h with
    | empty hcs =>
      split
      · next hs => cases hs.symm.trans hcs
      · next hs =>
        obtain ⟨rfl, rfl⟩ := List.cons.inj (hs.symm.trans hcs)
        exact ⟨_, rfl, rfl, rfl⟩
    | items hcs hc h =>
      obtain ⟨found, hread, rfl, rfl⟩ := h.yields
      split
      · next hs => cases hs.symm.trans hcs
      · next hs =>
        obtain ⟨rfl, rfl⟩ := List.cons.inj (hs.symm.trans hcs)
        rw [if_neg hc, hread]
        exact ⟨_, rfl, rfl, rfl⟩

/-! ### Objects -/

/-- A field is read as its key, a colon and its value. -/
theorem yields_readField_iff : Yields (readField value cs) field rest ↔
    ∃ r s, Yields (readString [] cs) field.1 r ∧ skipSpace r = ':' :: s ∧
      Yields (value s) field.2 rest := by
  constructor
  · rintro ⟨found, h, rfl, rfl⟩
    obtain ⟨⟨key, r, hshorter⟩, hkey, h⟩ := bind_eq_ok_iff.mp h
    dsimp only at h
    split at h
    · cases h
    · next c s hs =>
      split at h
      · next hc =>
        obtain ⟨v, hv, h⟩ := bind_eq_ok_iff.mp h
        obtain rfl := Except.ok.inj h
        exact ⟨r, s, yields_of_ok hkey, hc ▸ hs, yields_of_ok hv⟩
      · cases h
  · obtain ⟨key, v⟩ := field
    rintro ⟨r, s, ⟨⟨key, r, hshorter⟩, hread, rfl, rfl⟩, hr, found, hvalue, rfl, rfl⟩
    rw [readField, hread]
    simp only [bind, Except.bind]
    split
    · next hcolon => cases hcolon.symm.trans hr
    · next hcolon =>
      obtain ⟨rfl, rfl⟩ := List.cons.inj (hcolon.symm.trans hr)
      rw [if_pos rfl, hvalue]
      exact ⟨_, rfl, rfl, rfl⟩

/-- The ways of reading the fields of an object: a field is the last one, or a comma and further
    fields follow. -/
inductive FieldsRead (value : Reader Json) : List Char → Fields → List Char → Prop
  | last {cs r rest : List Char} {field : String × Json}
      (hfield : Yields (readField value cs) field r) (hr : skipSpace r = '}' :: rest) :
      FieldsRead value cs [field] rest
  | next {cs r s t rest : List Char} {field : String × Json} {fields : Fields}
      (hfield : Yields (readField value cs) field r) (hr : skipSpace r = ',' :: s)
      (hs : skipSpace s = '"' :: t) (h : FieldsRead value t fields rest) :
      FieldsRead value cs (field :: fields) rest

theorem fieldsRead_of_ok (cs : List Char) {found : Found cs Fields}
    (h : readFields value cs = .ok found) : FieldsRead value cs found.value found.rest := by
  rw [readFields] at h
  obtain ⟨⟨field, r, hr⟩, hread, h⟩ := bind_eq_ok_iff.mp h
  have hfield : Yields (readField value cs) field r := yields_of_ok hread
  dsimp only at h
  split at h
  · cases h
  · next c s hs =>
    split at h
    · next hc =>
      obtain rfl := Except.ok.inj h
      exact .last hfield (hc ▸ hs)
    · split at h
      · next hc =>
        split at h
        · cases h
        · next d t ht =>
          split at h
          · next hd =>
            obtain ⟨more, hmore, h⟩ := bind_eq_ok_iff.mp h
            obtain rfl := Except.ok.inj h
            have hshorter : t.length < cs.length :=
              Nat.lt_trans (length_of_skipSpace ht) (Nat.lt_trans (length_of_skipSpace hs) hr)
            exact .next hfield (hc ▸ hs) (hd ▸ ht) (fieldsRead_of_ok t hmore)
          · split at h <;> cases h
      · cases h
termination_by cs.length

theorem FieldsRead.yields (h : FieldsRead value cs fields rest) :
    Yields (readFields value cs) fields rest := by
  induction h with
  | last hfield hr =>
    obtain ⟨⟨field, r, hshorter⟩, hread, rfl, rfl⟩ := hfield
    rw [readFields, hread]
    simp only [bind, Except.bind]
    split
    · next hs => cases hs.symm.trans hr
    · next hs =>
      obtain ⟨rfl, rfl⟩ := List.cons.inj (hs.symm.trans hr)
      exact ⟨_, rfl, rfl, rfl⟩
  | next hfield hr hs _ ih =>
    obtain ⟨⟨field, r, hshorter⟩, hread, rfl, rfl⟩ := hfield
    obtain ⟨more, hmore, rfl, rfl⟩ := ih
    rw [readFields, hread]
    simp only [bind, Except.bind]
    split
    · next hcomma => cases hcomma.symm.trans hr
    · next hcomma =>
      obtain ⟨rfl, rfl⟩ := List.cons.inj (hcomma.symm.trans hr)
      rw [if_neg (by decide), if_pos rfl]
      split
      · next hnext => cases hnext.symm.trans hs
      · next hnext =>
        obtain ⟨rfl, rfl⟩ := List.cons.inj (hnext.symm.trans hs)
        rw [if_pos rfl, hmore]
        exact ⟨_, rfl, rfl, rfl⟩

/-- The ways of reading an object behind its opening brace. -/
inductive ObjectRead (value : Reader Json) : List Char → Json → List Char → Prop
  | empty {cs rest : List Char} (hcs : skipSpace cs = '}' :: rest) :
      ObjectRead value cs (.obj []) rest
  | fields {cs t rest : List Char} {fields : Fields} (hcs : skipSpace cs = '"' :: t)
      (h : FieldsRead value t fields rest) : ObjectRead value cs (.obj fields) rest

theorem yields_readObject_iff :
    Yields (readObject value cs) j rest ↔ ObjectRead value cs j rest := by
  constructor
  · rintro ⟨found, h, rfl, rfl⟩
    unfold readObject at h
    split at h
    · cases h
    · next c s hs =>
      dsimp only at h
      split at h
      · next hc =>
        obtain rfl := Except.ok.inj h
        exact .empty (hc ▸ hs)
      · split at h
        · next hc =>
          obtain ⟨fields, hfields, rfl⟩ := map_eq_ok_iff.mp h
          exact .fields (hc ▸ hs) (fieldsRead_of_ok s hfields)
        · cases h
  · intro h
    unfold readObject
    cases h with
    | empty hcs =>
      split
      · next hs => cases hs.symm.trans hcs
      · next hs =>
        obtain ⟨rfl, rfl⟩ := List.cons.inj (hs.symm.trans hcs)
        exact ⟨_, rfl, rfl, rfl⟩
    | fields hcs h =>
      obtain ⟨found, hread, rfl, rfl⟩ := h.yields
      split
      · next hs => cases hs.symm.trans hcs
      · next hs =>
        obtain ⟨rfl, rfl⟩ := List.cons.inj (hs.symm.trans hcs)
        dsimp only
        rw [if_neg (by decide), if_pos rfl, hread]
        exact ⟨_, rfl, rfl, rfl⟩

/-! ### Values -/

theorem yields_readNumberFound_iff {negative : Bool} :
    Yields (readNumberFound negative cs) j rest ↔ readNumber negative cs = .ok (j, rest) := by
  unfold readNumberFound
  constructor
  · rintro ⟨found, h, rfl, rfl⟩
    split at h
    · cases h
    · next hread =>
      obtain rfl := Except.ok.inj h
      exact hread
  · intro h
    split
    · next hread => cases hread.symm.trans h
    · next hread =>
      obtain ⟨rfl, rfl⟩ := Prod.mk.inj (Except.ok.inj (hread.symm.trans h))
      exact ⟨_, rfl, rfl, rfl⟩

theorem yields_readWordFound_iff {word : List Char} : Yields (readWordFound c v word cs) j rest ↔
    j = v ∧ readWord word cs = .ok rest := by
  unfold readWordFound
  constructor
  · rintro ⟨found, h, rfl, rfl⟩
    split at h
    · cases h
    · next hread =>
      obtain rfl := Except.ok.inj h
      exact ⟨rfl, hread⟩
  · rintro ⟨rfl, h⟩
    split
    · next hread => cases hread.symm.trans h
    · next hread =>
      obtain rfl := Except.ok.inj (hread.symm.trans h)
      exact ⟨_, rfl, rfl, rfl⟩

/-- A digit starts a number. -/
theorem readStart_digit {nested : Option (Reader Json)} (hd : d.isDigit) :
    readStart nested (d :: cs) = readNumberFound false (d :: cs) := by
  -- it is none of the characters that are tried before
  have hne (c : Char) (hc : ¬ c.isDigit) : d ≠ c := fun heq => hc (heq ▸ hd)
  have hquote : d ≠ '"' := hne _ (by decide)
  have hbracket : d ≠ '[' := hne _ (by decide)
  have hbrace : d ≠ '{' := hne _ (by decide)
  have hminus : d ≠ '-' := hne _ (by decide)
  simp [readStart, hquote, hbracket, hbrace, hminus, hd]

/-- The ways of reading the value that starts with the first character of a text. -/
inductive StartRead (nested : Option (Reader Json)) : List Char → Json → List Char → Prop
  | string {cs rest : List Char} {text : String} (h : Yields (readString [] cs) text rest) :
      StartRead nested ('"' :: cs) (.str text) rest
  | array {cs rest : List Char} {j : Json} {value : Reader Json} (hnested : nested = some value)
      (h : ArrayRead value cs j rest) : StartRead nested ('[' :: cs) j rest
  | object {cs rest : List Char} {j : Json} {value : Reader Json} (hnested : nested = some value)
      (h : ObjectRead value cs j rest) : StartRead nested ('{' :: cs) j rest
  | negative {cs rest : List Char} {j : Json} (h : readNumber true cs = .ok (j, rest)) :
      StartRead nested ('-' :: cs) j rest
  | number {cs rest : List Char} {d : Char} {j : Json} (hd : d.isDigit)
      (h : readNumber false (d :: cs) = .ok (j, rest)) : StartRead nested (d :: cs) j rest
  | trueWord {cs rest : List Char} (h : readWord ['r', 'u', 'e'] cs = .ok rest) :
      StartRead nested ('t' :: cs) (.bool true) rest
  | falseWord {cs rest : List Char} (h : readWord ['a', 'l', 's', 'e'] cs = .ok rest) :
      StartRead nested ('f' :: cs) (.bool false) rest
  | nullWord {cs rest : List Char} (h : readWord ['u', 'l', 'l'] cs = .ok rest) :
      StartRead nested ('n' :: cs) .null rest

theorem StartRead.yields {nested : Option (Reader Json)} (h : StartRead nested cs j rest) :
    Yields (readStart nested cs) j rest := by
  cases h with
  | @string cs _ text h =>
    show Yields ((readString [] cs).map fun f => (f.map Json.str).behind '"') _ _
    obtain ⟨found, hread, rfl, rfl⟩ := h
    rw [hread]
    exact ⟨_, rfl, rfl, rfl⟩
  | @array cs _ _ value hnested h =>
    subst hnested
    show Yields ((readArray value cs).map (·.behind '[')) _ _
    exact yields_behind_iff.mpr (yields_readArray_iff.mpr h)
  | @object cs _ _ value hnested h =>
    subst hnested
    show Yields ((readObject value cs).map (·.behind '{')) _ _
    exact yields_behind_iff.mpr (yields_readObject_iff.mpr h)
  | @negative cs _ _ h =>
    show Yields ((readNumberFound true cs).map (·.behind '-')) _ _
    exact yields_behind_iff.mpr (yields_readNumberFound_iff.mpr h)
  | @number cs _ d _ hd h =>
    rw [readStart_digit hd]
    exact yields_readNumberFound_iff.mpr h
  | trueWord h => exact yields_readWordFound_iff.mpr ⟨rfl, h⟩
  | falseWord h => exact yields_readWordFound_iff.mpr ⟨rfl, h⟩
  | nullWord h => exact yields_readWordFound_iff.mpr ⟨rfl, h⟩

/-- **Values.** A value is read in one of these ways, by its first character. -/
theorem yields_readStart_iff {nested : Option (Reader Json)} :
    Yields (readStart nested cs) j rest ↔ StartRead nested cs j rest := by
  refine ⟨fun h => ?_, StartRead.yields⟩
  -- the cases are the characters that are tried, in the order of the reader
  unfold readStart at h
  split at h
  · obtain ⟨found, hfound, -⟩ := h
    cases hfound
  · next c r =>
    split at h
    · next hc =>
      subst hc
      obtain ⟨found, h, rfl, rfl⟩ := h
      obtain ⟨f, hf, rfl⟩ := map_eq_ok_iff.mp h
      exact .string (yields_of_ok hf)
    split at h
    · next hc =>
      subst hc
      split at h
      · obtain ⟨found, hfound, -⟩ := h
        cases hfound
      · exact .array rfl (yields_readArray_iff.mp (yields_behind_iff.mp h))
    split at h
    · next hc =>
      subst hc
      split at h
      · obtain ⟨found, hfound, -⟩ := h
        cases hfound
      · exact .object rfl (yields_readObject_iff.mp (yields_behind_iff.mp h))
    split at h
    · next hc =>
      subst hc
      exact .negative (yields_readNumberFound_iff.mp (yields_behind_iff.mp h))
    split at h
    · next hd => exact .number hd (yields_readNumberFound_iff.mp h)
    split at h
    · next hc =>
      subst hc
      obtain ⟨rfl, hword⟩ := yields_readWordFound_iff.mp h
      exact .trueWord hword
    split at h
    · next hc =>
      subst hc
      obtain ⟨rfl, hword⟩ := yields_readWordFound_iff.mp h
      exact .falseWord hword
    split at h
    · next hc =>
      subst hc
      obtain ⟨rfl, hword⟩ := yields_readWordFound_iff.mp h
      exact .nullWord hword
    · obtain ⟨found, hfound, -⟩ := h
      cases hfound

/-- The reader of what is nested in a value that is read with so many levels. -/
def nestedReader : Nat → Option (Reader Json)
  | 0 => none
  | levels + 1 => some (readValue levels)

theorem yields_readValue_iff : Yields (readValue levels cs) j rest ↔
    StartRead (nestedReader levels) (skipSpace cs) j rest := by
  have hvalue : readValue levels cs = (readStart (nestedReader levels) (skipSpace cs)).map
      (·.within (length_skipSpace cs)) := by
    cases levels <;> rfl
  rw [hvalue, yields_within_iff, yields_readStart_iff]

/-- A text that holds a value and nothing else. -/
theorem read_eq_ok_iff : read levels cs = .ok j ↔
    ∃ rest, Yields (readValue levels cs) j rest ∧ skipSpace rest = [] := by
  constructor
  · intro h
    obtain ⟨found, hfound, h⟩ := bind_eq_ok_iff.mp h
    split at h
    · next hrest =>
      obtain rfl := Except.ok.inj h
      exact ⟨found.rest, yields_of_ok hfound, hrest⟩
    · cases h
  · rintro ⟨rest, ⟨found, hread, rfl, rfl⟩, hrest⟩
    rw [read, hread]
    simp only [bind, Except.bind, hrest]
    rfl

end MathAgents.Json
