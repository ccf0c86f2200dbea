import Mathlib.Data.List.TakeWhile
import MathAgents.Proofs.Json.Steps
import MathAgents.Proofs.Text.Search

namespace MathAgents.Json

/-!
# Where a value ends

Whatever the reader of JSON takes off a text is *balanced*: its braces come in pairs outside of
quotes.  An object is taken off from its opening brace to the one that closes it, so the end of an
object can be told without reading it.

* `Quoted`, `Balanced`, `Braced` — texts in quotes, texts whose braces come in pairs, and one pair
  of braces with what is in it.
* `Takes` — a reader takes a text of some kind off the front.
* `takesOther_readNumber`, `quoted_readString`, `ItemsRead.takes`, `FieldsRead.takes` — what the
  parts of the reader take.
* `takesValue_readValue` — what is taken for a value; `braced_of_parse` — a text that is an object.
-/

open Text (Found)

/-! ### Balanced texts -/

/-- What stands behind an opening quote, up to and with the closing one. -/
inductive Quoted : List Char → Prop
  | close : Quoted ['"']
  | plain {c : Char} {t : List Char} (hquote : c ≠ '"') (hslash : c ≠ '\\') (h : Quoted t) :
      Quoted (c :: t)
  | escaped {c : Char} {t : List Char} (h : Quoted t) : Quoted ('\\' :: c :: t)

/-- Whether a character neither opens quotes nor is a brace. -/
structure Plain (c : Char) : Prop where
  quote : c ≠ '"'
  opening : c ≠ '{'
  closing : c ≠ '}'

instance (c : Char) : Decidable (Plain c) :=
  decidable_of_iff (c ≠ '"' ∧ c ≠ '{' ∧ c ≠ '}')
    ⟨fun ⟨hquote, hopening, hclosing⟩ => ⟨hquote, hopening, hclosing⟩,
      fun hc => ⟨hc.quote, hc.opening, hc.closing⟩⟩

/-- Texts whose braces come in pairs, those in quotes apart. -/
inductive Balanced : List Char → Prop
  | nil : Balanced []
  | plain {c : Char} {t : List Char} (hc : Plain c) (h : Balanced t) : Balanced (c :: t)
  | quoted {s t : List Char} (hs : Quoted s) (h : Balanced t) : Balanced ('"' :: s ++ t)
  | braces {t u : List Char} (ht : Balanced t) (hu : Balanced u) :
      Balanced ('{' :: t ++ '}' :: u)

variable {cs mid rest t u : List Char} {c : Char}

theorem Balanced.append (ht : Balanced t) (hu : Balanced u) : Balanced (t ++ u) := by
  induction ht with
  | nil => exact hu
  | plain hc _ ih => exact .plain hc ih
  | @quoted s t hs _ ih =>
    rw [List.append_assoc]
    exact .quoted hs ih
  | @braces t u' ht _ _ ih =>
    rw [List.append_assoc]
    exact .braces ht ih

/-- Whether a text is an opening brace, a balanced text and the brace that closes it. -/
def Braced (o : List Char) : Prop := ∃ t, Balanced t ∧ o = '{' :: t ++ ['}']

/-! ### What the reader takes off a text -/

/-- Whether the text in front of `rest` has a property. -/
def Takes (p : List Char → Prop) (cs rest : List Char) : Prop := ∃ t, cs = t ++ rest ∧ p t

/-- Texts that may stand in quotes in front of others. -/
def InQuotes (t : List Char) : Prop := ∀ u, Quoted u → Quoted (t ++ u)

theorem takes_refl (cs : List Char) : Takes Balanced cs cs := ⟨[], rfl, .nil⟩

/-- What is taken off in two steps is taken off in one. -/
theorem Takes.append {p q r : List Char → Prop} (happend : ∀ {t u}, p t → q u → r (t ++ u))
    (h : Takes p cs mid) (hrest : Takes q mid rest) : Takes r cs rest := by
  obtain ⟨t, rfl, ht⟩ := h
  obtain ⟨u, rfl, hu⟩ := hrest
  exact ⟨t ++ u, (List.append_assoc t u rest).symm, happend ht hu⟩

theorem Takes.trans (h : Takes Balanced cs mid) (hrest : Takes Balanced mid rest) :
    Takes Balanced cs rest := h.append Balanced.append hrest

theorem Takes.cons (hc : Plain c) (h : Takes Balanced cs rest) : Takes Balanced (c :: cs) rest := by
  obtain ⟨t, rfl, ht⟩ := h
  exact ⟨c :: t, rfl, .plain hc ht⟩

theorem Takes.quoted (h : Takes Quoted cs rest) : Takes Balanced ('"' :: cs) rest := by
  obtain ⟨s, rfl, hs⟩ := h
  exact ⟨'"' :: s ++ [], by simp, .quoted hs .nil⟩

theorem Takes.braces (h : Takes Balanced cs ('}' :: rest)) : Takes Braced ('{' :: cs) rest := by
  obtain ⟨t, rfl, ht⟩ := h
  exact ⟨'{' :: t ++ ['}'], by simp, t, ht, rfl⟩

theorem Takes.of_braced (h : Takes Braced cs rest) : Takes Balanced cs rest := by
  obtain ⟨o, rfl, t, ht, rfl⟩ := h
  exact ⟨'{' :: t ++ '}' :: [], rfl, .braces ht .nil⟩

/-! ### Spaces, words and numbers -/

theorem plain_of_isDigit (h : c.isDigit) : Plain c := by
  constructor <;> rintro rfl <;> cases h

theorem plain_of_isAlpha (h : c.isAlpha) : Plain c := by
  constructor <;> rintro rfl <;> cases h

theorem plain_of_isSpace (h : isSpace c) : Plain c := by
  constructor <;> rintro rfl <;> cases h

theorem takes_dropWhile {p : Char → Bool} (hp : ∀ c, p c → Plain c) (cs : List Char) :
    Takes Balanced cs (cs.dropWhile p) := by
  induction cs with
  | nil => exact takes_refl []
  | cons c cs ih =>
    by_cases hc : p c
    · rw [List.dropWhile_cons_of_pos hc]
      exact ih.cons (hp c hc)
    · rw [List.dropWhile_cons_of_neg hc]
      exact takes_refl _

theorem takes_skipSpace (cs : List Char) : Takes Balanced cs (skipSpace cs) :=
  takes_dropWhile (fun _ => plain_of_isSpace) cs

theorem takes_digits (cs : List Char) : Takes Balanced cs (cs.dropWhile Char.isDigit) :=
  takes_dropWhile (fun _ => plain_of_isDigit) cs

theorem takes_readWord {word : List Char} (hword : ∀ c ∈ word, c.isAlpha)
    (h : readWord word cs = .ok rest) : Takes Balanced cs rest := by
  fun_induction readWord word cs with
  | case1 cs =>
    obtain rfl := Except.ok.inj h
    exact takes_refl cs
  | case2 => cases h
  | case3 c ws cs ih =>
    obtain ⟨hc, hws⟩ := List.forall_mem_cons.mp hword
    exact (ih hws h).cons (plain_of_isAlpha hc)
  | case4 => cases h

theorem takes_fitDigits (n : Nat) (cs : List Char) : Takes Balanced cs (fitDigits n cs).2 := by
  fun_induction fitDigits n cs with
  | case1 n => exact takes_refl []
  | case2 n c cs h ih => exact ih.cons (plain_of_isDigit h.1)
  | case3 n c cs h => exact takes_refl _

theorem takes_exponentDigits (n : Nat) (cs : List Char) :
    Takes Balanced cs (exponentDigits n cs).2.1 := by
  fun_induction exponentDigits n cs with
  | case1 n => exact takes_refl []
  | case2 n c cs hc hn ih => exact ih.cons (plain_of_isDigit hc)
  | case3 n c cs hc hn => exact (takes_refl cs).cons (plain_of_isDigit hc)
  | case4 n c cs hc => exact takes_refl _

/-- Whether the text in front of `rest` is balanced and read as a value that is no object. -/
structure TakesOther (cs : List Char) (j : Json) (rest : List Char) : Prop where
  takes : Takes Balanced cs rest
  ne_obj : ∀ fields, j ≠ .obj fields

variable {negative shrinks : Bool} {n : Nat} {e : Int} {j : Json}

theorem TakesOther.cons (hc : Plain c) (h : TakesOther cs j rest) :
    TakesOther (c :: cs) j rest := ⟨h.takes.cons hc, h.ne_obj⟩

theorem TakesOther.behind (h : TakesOther mid j rest) (hmid : Takes Balanced cs mid) :
    TakesOther cs j rest := ⟨hmid.trans h.takes, h.ne_obj⟩

/-- A value that is found without taking anything off. -/
theorem takesOther_of_ok {found : Json} (hfound : ∀ fields, found ≠ .obj fields)
    (h : (.ok (found, cs) : Except Fault (Json × List Char)) = .ok (j, rest)) :
    TakesOther cs j rest := by
  obtain ⟨rfl, rfl⟩ := Prod.mk.inj (Except.ok.inj h)
  exact ⟨takes_refl cs, hfound⟩

theorem takesOther_double (h : double negative n e cs = .ok (j, rest)) :
    TakesOther cs j rest := by
  unfold double at h
  split at h
  · cases h
  · exact takesOther_of_ok (by simp) h

theorem takesOther_signedExponentTail
    (h : signedExponentTail negative n e shrinks cs = .ok (j, rest)) : TakesOther cs j rest := by
  cases cs with
  | nil => cases h
  | cons d cs =>
    have hdigits := takes_exponentDigits (Decimal.digitValue d) cs
    simp only [signedExponentTail] at h
    split at h
    · cases h
    · next hd =>
      have hd : Plain d := plain_of_isDigit (by simpa using hd)
      split at h
      · next heq =>
        rw [heq] at hdigits
        exact ((takesOther_double h).behind hdigits).cons hd
      · next r heq =>
        rw [heq] at hdigits
        split at h
        · cases h
        · exact ((takesOther_of_ok (by simp) h).behind (hdigits.trans (takes_digits r))).cons hd

theorem takesOther_exponentTail (h : exponentTail negative n e cs = .ok (j, rest)) :
    TakesOther cs j rest := by
  unfold exponentTail at h
  split at h
  · exact (takesOther_signedExponentTail h).cons (by decide)
  · exact (takesOther_signedExponentTail h).cons (by decide)
  · exact takesOther_signedExponentTail h

theorem takesOther_fractionTail (h : fractionTail negative n e cs = .ok (j, rest)) :
    TakesOther cs j rest := by
  have hdigits := (takes_fitDigits n cs).trans (takes_digits (fitDigits n cs).2)
  simp only [fractionTail] at h
  split at h
  · cases h
  · refine TakesOther.behind ?_ hdigits
    split at h
    · next heq =>
      rw [heq]
      exact (takesOther_exponentTail h).cons (by decide)
    · next heq =>
      rw [heq]
      exact (takesOther_exponentTail h).cons (by decide)
    · exact takesOther_double h

theorem takesOther_wholeTail (h : wholeTail negative n cs = .ok (j, rest)) :
    TakesOther cs j rest := by
  have hdigits := (takes_fitDigits n cs).trans (takes_digits (fitDigits n cs).2)
  refine TakesOther.behind ?_ hdigits
  simp only [wholeTail] at h
  split at h
  · next heq =>
    rw [heq]
    exact (takesOther_fractionTail h).cons (by decide)
  · next heq =>
    rw [heq]
    exact (takesOther_exponentTail h).cons (by decide)
  · next heq =>
    rw [heq]
    exact (takesOther_exponentTail h).cons (by decide)
  · split at h
    · exact takesOther_double h
    · split at h
      · exact takesOther_of_ok (by simp) h
      · split at h <;> exact takesOther_of_ok (by simp) h

/-- A number holds neither quotes nor braces. -/
theorem takesOther_readNumber (h : readNumber negative cs = .ok (j, rest)) :
    TakesOther cs j rest := by
  cases cs with
  | nil => cases h
  | cons c cs =>
    simp only [readNumber] at h
    split at h
    · next hc =>
      have hplain : Plain c := plain_of_isDigit (by rw [hc]; decide)
      split at h
      · split at h
        · cases h
        · exact (takesOther_wholeTail h).cons hplain
      · exact (takesOther_wholeTail h).cons hplain
    · split at h
      · next hc => exact (takesOther_wholeTail h).cons (plain_of_isDigit hc)
      · cases h

/-! ### Strings -/

/-- A hexadecimal digit may stand in quotes. -/
theorem ne_of_hexValue? {d : Char} {n : Nat} (h : Text.hexValue? d = some n) :
    d ≠ '"' ∧ d ≠ '\\' := by
  constructor <;> rintro rfl <;> cases h

theorem inQuotes_of_hexNat? {ds : List Char} {n : Nat} (h : Text.hexNat? ds = some n) :
    InQuotes ds := by
  suffices hfrom : ∀ m, ds.foldlM (fun n d => (Text.hexValue? d).map (16 * n + ·)) m = some n →
      InQuotes ds from hfrom 0 h
  clear h
  induction ds with
  | nil => exact fun _ _ _ hu => hu
  | cons d ds ih =>
    intro m h u hu
    rw [List.foldlM_cons] at h
    obtain ⟨k, hk, h⟩ := Option.bind_eq_some_iff.mp h
    obtain ⟨v, hv, -⟩ := Option.map_eq_some_iff.mp hk
    obtain ⟨hquote, hslash⟩ := ne_of_hexValue? hv
    exact .plain hquote hslash (ih k h u hu)

theorem inQuotes_readHex {found : Found cs Nat} (h : readHex cs = .ok found) :
    Takes InQuotes cs found.rest := by
  unfold readHex at h
  split at h
  · cases h
  · split at h
    · next a b c d rest _ =>
      split at h
      · next n hn =>
        obtain rfl := Except.ok.inj h
        exact ⟨[a, b, c, d], rfl, inQuotes_of_hexNat? hn⟩
      · cases h
    · cases h

/-- A backslash and the character behind it may stand in quotes. -/
theorem Takes.escaped (h : Takes InQuotes cs rest) : Takes InQuotes ('\\' :: c :: cs) rest := by
  obtain ⟨t, rfl, ht⟩ := h
  exact ⟨'\\' :: c :: t, rfl, fun u hu => .escaped (ht u hu)⟩

theorem takes_inQuotes_refl (cs : List Char) : Takes InQuotes cs cs := ⟨[], rfl, fun _ hu => hu⟩

theorem InQuotes.append (ht : InQuotes t) (hu : InQuotes u) : InQuotes (t ++ u) := by
  intro v hv
  rw [List.append_assoc]
  exact ht _ (hu v hv)

theorem Takes.trans_inQuotes (h : Takes InQuotes cs mid) (hrest : Takes InQuotes mid rest) :
    Takes InQuotes cs rest := h.append InQuotes.append hrest

theorem Takes.trans_quoted (h : Takes InQuotes cs mid) (hrest : Takes Quoted mid rest) :
    Takes Quoted cs rest := h.append (fun ht hu => ht _ hu) hrest

theorem inQuotes_readTrailing {leading : Nat} {found : Found cs Char}
    (h : readTrailing leading cs = .ok found) : Takes InQuotes cs found.rest := by
  unfold readTrailing at h
  split at h
  · cases h
  · cases h
  · next digits =>
    obtain ⟨hex, hhex, h⟩ := bind_eq_ok_iff.mp h
    split at h
    · obtain rfl := Except.ok.inj h
      exact (inQuotes_readHex hhex).escaped
    · cases h
  · cases h
  · cases h

theorem inQuotes_readEscape {found : Found cs Char} (h : readEscape cs = .ok found) :
    Takes InQuotes ('\\' :: cs) found.rest := by
  unfold readEscape at h
  split at h
  · cases h
  · next digits =>
    obtain ⟨hex, hhex, h⟩ := bind_eq_ok_iff.mp h
    split at h
    · cases h
    · split at h
      · obtain ⟨trailing, htrailing, h⟩ := bind_eq_ok_iff.mp h
        obtain rfl := Except.ok.inj h
        exact (inQuotes_readHex hhex).escaped.trans_inQuotes (inQuotes_readTrailing htrailing)
      · obtain rfl := Except.ok.inj h
        exact (inQuotes_readHex hhex).escaped
  · next c rest _ =>
    have hplain : Takes InQuotes ('\\' :: c :: rest) rest := (takes_inQuotes_refl rest).escaped
    have hfound : found.rest = rest := by
      dsimp only at h
      repeat' split at h
      all_goals cases h
      all_goals rfl
    rwa [hfound]

/-- A string is taken off with its closing quote. -/
theorem quoted_readString {acc : List Char} {found : Found cs String}
    (h : readString acc cs = .ok found) : Takes Quoted cs found.rest := by
  fun_induction readString acc cs with
  | case1 | case3 | case4 | case6 | case7 => cases h
  | case2 acc rest =>
    obtain rfl := Except.ok.inj h
    exact ⟨['"'], rfl, .close⟩
  | case5 acc rest d rest' hshorter hescape found' hread _ ih =>
    obtain rfl := Except.ok.inj h
    exact (inQuotes_readEscape hescape).trans_quoted (ih hread)
  | case8 acc c rest hquote hslash _ found' hread ih =>
    obtain rfl := Except.ok.inj h
    obtain ⟨t, ht, hquoted⟩ := ih hread
    exact ⟨c :: t, congrArg (c :: ·) ht, .plain hquote hslash hquoted⟩

/-! ### Arrays and objects -/

/-- Whether a reader takes balanced texts. -/
def Reads (reader : Reader Json) : Prop :=
  ∀ ⦃cs j rest⦄, Yields (reader cs) j rest → Takes Balanced cs rest

/-- Space, and a character behind it that is neither a quote nor a brace. -/
theorem takes_of_skipSpace {r s : List Char} (hc : Plain c) (h : skipSpace r = c :: s) :
    Takes Balanced r s := by
  have hspace := takes_skipSpace r
  rw [h] at hspace
  exact hspace.trans ((takes_refl s).cons hc)

section

variable {value : Reader Json} {items : List Json} {fields : Fields} {field : String × Json}

theorem ItemsRead.takes (h : ItemsRead value cs items rest) (hvalue : Reads value) :
    Takes Balanced cs rest := by
  induction h with
  | last hv hr => exact (hvalue hv).trans (takes_of_skipSpace (by decide) hr)
  | next hv hr _ _ _ ih =>
    exact (hvalue hv).trans ((takes_of_skipSpace (by decide) hr).trans ih)

theorem takes_readField (hvalue : Reads value) (h : Yields (readField value cs) field rest) :
    Takes Balanced ('"' :: cs) rest := by
  obtain ⟨r, s, ⟨found, hkey, -, rfl⟩, hr, hv⟩ := yields_readField_iff.mp h
  have hname : Takes Balanced ('"' :: cs) found.rest := (quoted_readString hkey).quoted
  exact hname.trans ((takes_of_skipSpace (by decide) hr).trans (hvalue hv))

theorem FieldsRead.takes (h : FieldsRead value cs fields rest) (hvalue : Reads value) :
    Takes Balanced ('"' :: cs) ('}' :: rest) := by
  induction h with
  | @last _ r _ _ hfield hr => exact (takes_readField hvalue hfield).trans (hr ▸ takes_skipSpace r)
  | @next _ r s _ _ _ _ hfield hr hs _ ih =>
    -- the next field is taken off with its first quote, which the reader has passed already
    have hcomma : Takes Balanced r s := takes_of_skipSpace (by decide) hr
    have hrest := (hs ▸ takes_skipSpace s).trans ih
    exact (takes_readField hvalue hfield).trans (hcomma.trans hrest)

theorem ArrayRead.takesOther (h : ArrayRead value cs j rest) (hvalue : Reads value) :
    TakesOther cs j rest := by
  cases h with
  | empty hcs => exact ⟨takes_of_skipSpace (by decide) hcs, by simp⟩
  | items _ _ h => exact ⟨h.takes hvalue, by simp⟩

/-- An object is taken off up to and with its closing brace. -/
theorem ObjectRead.takes (h : ObjectRead value cs j rest) (hvalue : Reads value) :
    Takes Balanced cs ('}' :: rest) := by
  cases h with
  | empty hcs => exact hcs ▸ takes_skipSpace cs
  | fields hcs h => exact (hcs ▸ takes_skipSpace cs).trans (h.takes hvalue)

end

/-! ### Values -/

/-- A word holds neither quotes nor braces. -/
theorem takesOther_word {first : Char} {word cs : List Char}
    (hword : (first :: word).all Char.isAlpha) (hj : ∀ fields, j ≠ .obj fields)
    (h : readWord word cs = .ok rest) : TakesOther (first :: cs) j rest := by
  obtain ⟨hfirst, hword⟩ := List.forall_mem_cons.mp (List.all_eq_true.mp hword)
  exact ⟨(takes_readWord hword h).cons (plain_of_isAlpha hfirst), hj⟩

/-- Whether the text in front of `rest` is balanced, and read as an object only if it is one pair of
    braces with what is in them. -/
structure TakesValue (cs : List Char) (j : Json) (rest : List Char) : Prop where
  takes : Takes Balanced cs rest
  braced : ∀ fields, j = .obj fields → Takes Braced cs rest

theorem TakesOther.value (h : TakesOther cs j rest) : TakesValue cs j rest :=
  ⟨h.takes, fun fields hj => absurd hj (h.ne_obj fields)⟩

/-- Of the characters that a value can start with only a quote and a brace are not plain, and only a
    brace starts an object. -/
theorem StartRead.takesValue {nested : Option (Reader Json)} (h : StartRead nested cs j rest)
    (hnested : ∀ value, nested = some value → Reads value) : TakesValue cs j rest := by
  cases h with
  | string h =>
    obtain ⟨found, hread, -, rfl⟩ := h
    exact TakesOther.value ⟨(quoted_readString hread).quoted, by simp⟩
  | array hvalue h => exact ((h.takesOther (hnested _ hvalue)).cons (by decide)).value
  | object hvalue h =>
    have hobject := (h.takes (hnested _ hvalue)).braces
    exact ⟨hobject.of_braced, fun _ _ => hobject⟩
  | negative h => exact ((takesOther_readNumber h).cons (by decide)).value
  | number _ h => exact (takesOther_readNumber h).value
  | trueWord h => exact (takesOther_word rfl (by simp) h).value
  | falseWord h => exact (takesOther_word rfl (by simp) h).value
  | nullWord h => exact (takesOther_word rfl (by simp) h).value

/-- **Values.** The reader takes balanced texts, and an object from brace to brace. -/
theorem takesValue_readValue (levels : Nat) (h : Yields (readValue levels cs) j rest) :
    TakesValue (skipSpace cs) j rest := by
  -- by induction on the levels: what is nested is read with one level less
  induction levels generalizing cs j rest with
  | zero => exact (yields_readValue_iff.mp h).takesValue (by simp [nestedReader])
  | succ levels ih =>
    refine (yields_readValue_iff.mp h).takesValue ?_
    rintro value hvalue cs j rest hread
    obtain rfl := Option.some.inj hvalue
    exact (takes_skipSpace cs).trans (ih hread).takes

/-- Space between the parts of a text is blank. -/
theorem isBlankChar_of_isSpace (h : isSpace c) : Text.isBlankChar c := by
  simp only [isSpace, Bool.or_eq_true, beq_iff_eq] at h
  rcases h with ((rfl | rfl) | rfl) | rfl <;> decide

theorem skipSpace_of_trimmed {cs : List Char} (h : Text.Trimmed cs) : skipSpace cs = cs := by
  cases cs with
  | nil => rfl
  | cons c cs =>
    exact List.dropWhile_cons_of_neg fun hc => h.left c rfl (isBlankChar_of_isSpace hc)

/-- Nothing but space behind a trimmed text is nothing. -/
theorem eq_nil_of_trimmed {o : List Char} (h : Text.Trimmed (o ++ rest))
    (hrest : skipSpace rest = []) : rest = [] := by
  cases hlast : rest.getLast? with
  | none => exact List.getLast?_eq_none_iff.mp hlast
  | some c =>
    have hspace : isSpace c := List.dropWhile_eq_nil_iff.mp hrest c (List.mem_of_getLast? hlast)
    have hend : (o ++ rest).getLast? = some c := by rw [List.getLast?_append, hlast, Option.some_or]
    exact absurd (isBlankChar_of_isSpace hspace) (h.right c hend)

/-- What is read as an object without space around it is one pair of braces with what is in them. -/
theorem braced_of_read {levels : Nat} {cs : List Char} {fields : Fields}
    (hcs : Text.Trimmed cs) (h : read levels cs = .ok (.obj fields)) : Braced cs := by
  obtain ⟨rest, hread, hrest⟩ := read_eq_ok_iff.mp h
  have hvalue := takesValue_readValue levels hread
  rw [skipSpace_of_trimmed hcs] at hvalue
  obtain ⟨o, rfl, hbraced⟩ := hvalue.braced fields rfl
  rw [eq_nil_of_trimmed hcs hrest, List.append_nil]
  exact hbraced

/-- A text that is an object, with some field, is one pair of braces with what is in them. -/
theorem braced_of_parse {text key : String} {value : Json} (htext : Text.Trimmed text.toList)
    (h : parse text = .ok j) (hkey : j.get? key = some value) : Braced text.toList := by
  obtain ⟨raw, hread, rfl⟩ := map_eq_ok_iff.mp h
  cases raw with
  | obj fields => exact braced_of_read htext hread
  | null | bool | int | float | str | arr => cases hkey

end MathAgents.Json
