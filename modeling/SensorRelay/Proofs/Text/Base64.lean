import SensorRelay.Text.Encoding

/-!
# Base 64 read back

The bytes that are written in base 64 are read back (`ofBase64Chars?_base64Chars`) : each of the
sixty-four signs has its value, three bytes make the number that their four signs make, and a group
that is filled up is told from a full one, since no sign is the filling. So are those that are
written with two hexadecimal digits each (`ofHex?_toHex`).
-/

namespace SensorRelay.Text

theorem base64Value?_base64Sign {n : Nat} (h : n < 64) : base64Value? (base64Sign n) = some n := by
  have hall : ∀ n : Fin 64, base64Value? (base64Sign n) = some n.val := by decide +kernel
  exact hall ⟨n, h⟩

/-- The filling is no sign. -/
theorem base64Sign_ne {n : Nat} (h : n < 64) : base64Sign n ≠ '=' := by
  intro heq
  have hvalue := base64Value?_base64Sign h
  rw [heq] at hvalue
  exact absurd hvalue (by simp [base64Value?])

/-- The numbers of the signs of one group are its digits to base 64. -/
theorem ofBase64Chars?_full {i j k l : Nat} (hi : i < 64) (hj : j < 64) (hk : k < 64) (hl : l < 64)
    (rest : List Char) :
    ofBase64Chars? (base64Sign i :: base64Sign j :: base64Sign k :: base64Sign l :: rest) =
      (ofBase64Chars? rest).map fun bytes =>
        let n := i * 262144 + j * 4096 + k * 64 + l
        UInt8.ofNat (n / 65536) :: UInt8.ofNat (n / 256 % 256) :: UInt8.ofNat (n % 256) :: bytes := by
  rw [ofBase64Chars?]
  · simp only [base64Value?_base64Sign hi, base64Value?_base64Sign hj, base64Value?_base64Sign hk,
      base64Value?_base64Sign hl, Option.bind_eq_bind, Option.bind_some]
    cases ofBase64Chars? rest <;> rfl
  · rintro - hlast -
    exact base64Sign_ne hl hlast
  · rintro hlast -
    exact base64Sign_ne hl hlast

theorem ofBase64Chars?_two {i j k : Nat} (hi : i < 64) (hj : j < 64) (hk : k < 64) :
    ofBase64Chars? [base64Sign i, base64Sign j, base64Sign k, '='] =
      let n := i * 4096 + j * 64 + k
      some [UInt8.ofNat (n / 1024), UInt8.ofNat (n / 4 % 256)] := by
  rw [ofBase64Chars?]
  · simp only [base64Value?_base64Sign hi, base64Value?_base64Sign hj, base64Value?_base64Sign hk]
    rfl
  · exact base64Sign_ne hk

theorem ofBase64Chars?_one {i j : Nat} (hi : i < 64) (hj : j < 64) :
    ofBase64Chars? [base64Sign i, base64Sign j, '=', '='] =
      some [UInt8.ofNat ((i * 64 + j) / 16)] := by
  rw [ofBase64Chars?]
  simp only [base64Value?_base64Sign hi, base64Value?_base64Sign hj]
  rfl

theorem ofNat_eq_of_toNat_eq {n : Nat} {b : UInt8} (h : n = b.toNat) : UInt8.ofNat n = b := by
  rw [h, UInt8.ofNat_toNat]

/-- Bytes come back from base 64. -/
theorem ofBase64Chars?_base64Chars (bytes : Bytes) :
    ofBase64Chars? (base64Chars bytes) = some bytes := by
  fun_induction base64Chars bytes with
  | case1 => rfl
  | case2 a n =>
    have ha := a.toNat_lt
    rw [ofBase64Chars?_one (by omega) (by omega), ofNat_eq_of_toNat_eq (b := a) (by omega)]
  | case3 a b n =>
    have ha := a.toNat_lt
    have hb := b.toNat_lt
    rw [ofBase64Chars?_two (by omega) (by omega) (by omega)]
    dsimp only
    rw [ofNat_eq_of_toNat_eq (b := a) (by omega), ofNat_eq_of_toNat_eq (b := b) (by omega)]
  | case4 a b c rest n ih =>
    have ha := a.toNat_lt
    have hb := b.toNat_lt
    have hc := c.toNat_lt
    rw [ofBase64Chars?_full (by omega) (by omega) (by omega) (by omega), ih, Option.map_some]
    dsimp only
    rw [ofNat_eq_of_toNat_eq (b := a) (by omega), ofNat_eq_of_toNat_eq (b := b) (by omega),
      ofNat_eq_of_toNat_eq (b := c) (by omega)]

/-- A byte more than a full group. -/
example : base64Chars [0x00, 0xFF, 0x10, 0x80] = "AP8QgA==".toList := by decide

/-! ## Hexadecimal digits -/

theorem hexValue?_hexDigit {n : Nat} (h : n < 16) : hexValue? (hexDigit n) = some n := by
  have hall : ∀ n : Fin 16, hexValue? (hexDigit n) = some n.val := by decide +kernel
  exact hall ⟨n, h⟩

theorem ofHex?_toHex (bytes : Bytes) : ofHex? (toHex bytes) = some bytes := by
  rw [ofHex?, toHex, String.toList_ofList]
  induction bytes with
  | nil => rfl
  | cons b bytes ih =>
    have hdigits : hexChars 2 b.toNat = [hexDigit (b.toNat / 16 % 16), hexDigit (b.toNat % 16)] :=
      rfl
    have hbyte : 16 * (b.toNat / 16 % 16) + b.toNat % 16 = b.toNat := by
      have := b.toNat_lt
      omega
    rw [List.flatMap_cons, hdigits, List.cons_append, List.singleton_append, ofHexChars?, ih,
      hexValue?_hexDigit (Nat.mod_lt _ (by decide)), hexValue?_hexDigit (Nat.mod_lt _ (by decide))]
    change some (UInt8.ofNat (16 * (b.toNat / 16 % 16) + b.toNat % 16) :: bytes) = some (b :: bytes)
    rw [hbyte, UInt8.ofNat_toNat]

end SensorRelay.Text
