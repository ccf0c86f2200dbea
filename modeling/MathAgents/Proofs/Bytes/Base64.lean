import MathAgents.Bytes.Base64

namespace MathAgents.Base64

/-!
# Base64 loses nothing

Whatever bytes are written as a text are read from it again.  A group of the text is settled on its
own: its four characters stand for numbers below 64, which make up the number that its bytes make
up.

* `value?_letter` — the characters of the alphabet.
* `decode?_group` — a group without padding is read on its own.
* `decode?_encode` — the bytes are read again.
-/

/-- Every character of the alphabet stands for its number. -/
theorem value?_letter {n : Nat} (hn : n < 64) : value? (letter n) = some n := by
  have hall : ∀ n < 64, value? (letter n) = some n := by decide
  exact hall n hn

/-- No character of the alphabet is the padding. -/
theorem letter_ne_pad {n : Nat} (hn : n < 64) : letter n ≠ '=' := by
  intro hpad
  have hvalue := value?_letter hn
  rw [hpad] at hvalue
  cases hvalue

/-- A group without padding is read in front of the rest. -/
theorem decode?_group {n₁ n₂ n₃ n₄ : Nat} (h₁ : n₁ < 64) (h₂ : n₂ < 64) (h₃ : n₃ < 64)
    (h₄ : n₄ < 64) (rest : List Char) :
    decode? (letter n₁ :: letter n₂ :: letter n₃ :: letter n₄ :: rest) =
      let n := ((n₁ * 64 + n₂) * 64 + n₃) * 64 + n₄
      (decode? rest).map fun bytes => UInt8.ofNat (n / 65536) ::
        UInt8.ofNat (n / 256 % 256) :: UInt8.ofNat (n % 256) :: bytes := by
  rw [decode?]
  · simp only [value?_letter h₁, value?_letter h₂, value?_letter h₃, value?_letter h₄]
    cases decode? rest <;> rfl
  all_goals
    intros
    exact letter_ne_pad h₄ ‹_›

/-- A group for two bytes ends a text. -/
theorem decode?_pair {n₁ n₂ n₃ : Nat} (h₁ : n₁ < 64) (h₂ : n₂ < 64) (h₃ : n₃ < 64) :
    decode? [letter n₁, letter n₂, letter n₃, '='] =
      let n := (n₁ * 64 + n₂) * 64 + n₃
      if n % 4 = 0 then some [UInt8.ofNat (n / 1024), UInt8.ofNat (n / 4 % 256)] else none := by
  rw [decode?]
  · simp only [value?_letter h₁, value?_letter h₂, value?_letter h₃]
    rfl
  · exact letter_ne_pad h₃

/-- A group for one byte ends a text. -/
theorem decode?_single {n₁ n₂ : Nat} (h₁ : n₁ < 64) (h₂ : n₂ < 64) :
    decode? [letter n₁, letter n₂, '=', '='] =
      let n := n₁ * 64 + n₂
      if n % 16 = 0 then some [UInt8.ofNat (n / 16)] else none := by
  rw [decode?]
  simp only [value?_letter h₁, value?_letter h₂]
  rfl

/-- **Round trip.** What is written is read again. -/
theorem decode?_encode (bytes : List UInt8) : decode? (encode bytes) = some bytes := by
  -- by induction on the groups: the characters of each make up its number again
  induction bytes using encode.induct with
  | case1 => rfl
  | case2 a =>
    have ha := a.toNat_lt
    have hnumber : a.toNat * 16 / 64 * 64 + a.toNat * 16 % 64 = a.toNat * 16 := by omega
    rw [encode, decode?_single (by omega) (by omega)]
    simp only [hnumber, Nat.mul_mod_left, if_true, Nat.mul_div_cancel _ (Nat.succ_pos 15),
      UInt8.ofNat_toNat]
  | case3 a b =>
    have ha := a.toNat_lt
    have hb := b.toNat_lt
    have hnumber (n : Nat) : (n / 4096 * 64 + n / 64 % 64) * 64 + n % 64 = n := by omega
    have hfirst : (a.toNat * 256 + b.toNat) * 4 / 1024 = a.toNat := by omega
    have hsecond : (a.toNat * 256 + b.toNat) * 4 / 4 % 256 = b.toNat := by omega
    rw [encode, decode?_pair (by omega) (by omega) (by omega)]
    simp only [hnumber, Nat.mul_mod_left, if_true, hfirst, hsecond, UInt8.ofNat_toNat]
  | case4 a b c rest ih =>
    have ha := a.toNat_lt
    have hb := b.toNat_lt
    have hc := c.toNat_lt
    have hnumber (n : Nat) :
        ((n / 262144 * 64 + n / 4096 % 64) * 64 + n / 64 % 64) * 64 + n % 64 = n := by omega
    have hfirst : ((a.toNat * 256 + b.toNat) * 256 + c.toNat) / 65536 = a.toNat := by omega
    have hsecond : ((a.toNat * 256 + b.toNat) * 256 + c.toNat) / 256 % 256 = b.toNat := by omega
    have hthird : ((a.toNat * 256 + b.toNat) * 256 + c.toNat) % 256 = c.toNat := by omega
    rw [encode, decode?_group (by omega) (by omega) (by omega) (by omega), ih]
    simp only [hnumber, hfirst, hsecond, hthird, UInt8.ofNat_toNat]
    rfl

end MathAgents.Base64
