import BattleShips.Protocol.Message
import Mathlib.Data.List.DropRight

/-!
# Errors and texts

`Error`, the texts for the user, and the functions of `utility/` that take a message apart:
`parse`, `JoinLobbyCode::parse` and `generate_conn_code`, with the parts of the C and C++
libraries they rest on (`std::to_string` and `std::strtol` in base 10, for 64-bit numbers).
-/

namespace BattleShips

/-- `Error`. A context is kept as its message; the source location in front of it is not. -/
structure Error where
  backtrace : List String
  deriving DecidableEq

def Error.addContext (e : Error) (msg : String) : Error := ⟨e.backtrace ++ [msg]⟩

/-- `make_error_c`, without the text for `errno`. -/
def makeErrorC (message : String) : Error := ⟨[message]⟩

/-- `user_error_e`. -/
inductive UserError
  | generic
  | cantCreateLobby
  | cantJoinLobby
  | unknownCommand
  deriving DecidableEq

/-- `user_message`. -/
def userMessage : UserError → Bytes
  | .generic => ascii "Error occurred, please try again latter."
  | .cantCreateLobby => ascii "Cant create lobby, please try again latter."
  | .cantJoinLobby => ascii "Cant join lobby, please check connection code or try again."
  | .unknownCommand => ascii "Unknown command, please check your input."

/-! ### Decimal numerals -/

def isDigit (b : UInt8) : Bool := 48 ≤ b.toNat && b.toNat ≤ 57

/-- `isspace` in the "C" locale. -/
def isSpace (b : UInt8) : Bool := b.toNat = 32 || (9 ≤ b.toNat && b.toNat ≤ 13)

/-- The decimal numeral of a natural number. -/
def decimal (n : ℕ) : Bytes := (Nat.toDigits 10 n).map fun c => UInt8.ofNat c.toNat

/-- `std::to_string`. -/
def toDecimal : ℤ → Bytes
  | .ofNat n => decimal n
  | .negSucc n => 45 :: decimal (n + 1)

/-- The value of a string of digits. -/
def digitsValue (ds : Bytes) : ℕ := ds.foldl (fun n d => 10 * n + (d.toNat - 48)) 0

/-- The conversion of `strtol` to a `long`: out of range it saturates. -/
def clampLong (z : ℤ) : ℤ := max (-2 ^ 63) (min (2 ^ 63 - 1) z)

/-- `std::strtol(s, nullptr, 10)`: white space, a sign, and as many digits as there are. -/
def strtol (s : Bytes) : ℤ :=
  match s.dropWhile isSpace with
  | [] => 0
  | c :: rest =>
    if c.toNat = 45 then clampLong (-(digitsValue (rest.takeWhile isDigit) : ℤ))
    else if c.toNat = 43 then clampLong (digitsValue (rest.takeWhile isDigit))
    else clampLong (digitsValue ((c :: rest).takeWhile isDigit))

lemma decimal_ne_nil (n : ℕ) : decimal n ≠ [] := by
  simp [decimal]

/-- A digit is one byte, of the same value. -/
lemma toNat_ofNat_of_isDigit {c : Char} (hc : c.isDigit) :
    48 ≤ c.toNat ∧ c.toNat ≤ 57 ∧ (UInt8.ofNat c.toNat).toNat = c.toNat := by
  obtain ⟨hge, hle⟩ : 48 ≤ c.toNat ∧ c.toNat ≤ 57 := by
    simpa [Char.isDigit, UInt32.le_iff_toNat_le] using hc
  exact ⟨hge, hle, UInt8.toNat_ofNat_of_lt' (show c.toNat < 256 by omega)⟩

lemma isDigit_of_mem_decimal {n : ℕ} {b : UInt8} (hb : b ∈ decimal n) : isDigit b := by
  obtain ⟨c, hc, rfl⟩ := List.mem_map.1 hb
  obtain ⟨hge, hle, hvalue⟩ := toNat_ofNat_of_isDigit
    (Nat.isDigit_of_mem_toDigits (by decide) (by decide) hc)
  simp [isDigit, hvalue, hge, hle]

lemma not_isSpace_of_isDigit {b : UInt8} (hb : isDigit b) : isSpace b = false := by
  simp only [isDigit, Bool.and_eq_true, decide_eq_true_eq] at hb
  simp only [isSpace, Bool.or_eq_false_iff, Bool.and_eq_false_iff, decide_eq_false_iff_not]
  omega

/-- A numeral has the value that it is written for. -/
lemma digitsValue_decimal (n : ℕ) : digitsValue (decimal n) = n := by
  have hchars : ∀ (cs : List Char) (m : ℕ), (∀ c ∈ cs, c.isDigit) →
      (cs.map fun c => UInt8.ofNat c.toNat).foldl (fun n d => 10 * n + (d.toNat - 48)) m =
        Nat.ofDigitChars 10 cs m := by
    intro cs
    induction cs with
    | nil => exact fun m _ => Nat.ofDigitChars_nil.symm
    | cons c cs ih =>
      intro m hcs
      obtain ⟨-, -, hvalue⟩ := toNat_ofNat_of_isDigit (hcs c List.mem_cons_self)
      rw [List.map_cons, List.foldl_cons, hvalue, Nat.ofDigitChars_cons]
      exact ih _ fun c hc => hcs c (List.mem_cons_of_mem _ hc)
  rw [digitsValue, decimal, hchars _ _ fun c hc =>
    Nat.isDigit_of_mem_toDigits (by decide) (by decide) hc]
  exact Nat.ofDigitChars_ten_toDigits

/-- A decimal numeral: a sign or none, and at least one digit. -/
inductive Numeral : Bytes → ℤ → Prop
  | unsigned {ds : Bytes} (hne : ds ≠ []) (hdigits : ∀ b ∈ ds, isDigit b) :
      Numeral ds (digitsValue ds)
  | plus {ds : Bytes} (hne : ds ≠ []) (hdigits : ∀ b ∈ ds, isDigit b) :
      Numeral (43 :: ds) (digitsValue ds)
  | minus {ds : Bytes} (hne : ds ≠ []) (hdigits : ∀ b ∈ ds, isDigit b) :
      Numeral (45 :: ds) (-(digitsValue ds : ℤ))

lemma numeral_toDecimal (z : ℤ) : Numeral (toDecimal z) z := by
  have hdigits : ∀ n, ∀ b ∈ decimal n, isDigit b := fun _ _ => isDigit_of_mem_decimal
  cases z with
  | ofNat n =>
    have h := Numeral.unsigned (decimal_ne_nil n) (hdigits n)
    rwa [digitsValue_decimal] at h
  | negSucc n =>
    have h := Numeral.minus (decimal_ne_nil (n + 1)) (hdigits (n + 1))
    rwa [digitsValue_decimal] at h

/-- Only the sign and the digits. -/
lemma Numeral.mem {s : Bytes} {z : ℤ} (h : Numeral s z) {b : UInt8} (hb : b ∈ s) :
    b = 43 ∨ b = 45 ∨ isDigit b := by
  cases h with
  | unsigned hne hdigits => exact .inr (.inr (hdigits b hb))
  | plus hne hdigits =>
    rcases List.mem_cons.1 hb with rfl | hb
    · exact .inl rfl
    · exact .inr (.inr (hdigits b hb))
  | minus hne hdigits =>
    rcases List.mem_cons.1 hb with rfl | hb
    · exact .inr (.inl rfl)
    · exact .inr (.inr (hdigits b hb))

/-- `strtol` reads a numeral to its end. -/
lemma strtol_numeral {s : Bytes} {z : ℤ} (h : Numeral s z) : strtol s = clampLong z := by
  cases h with
  | plus hne hdigits | minus hne hdigits =>
    have htake := List.takeWhile_eq_self_iff.2 hdigits
    simp [strtol, isSpace, htake]
  | unsigned hne hdigits =>
    have htake := List.takeWhile_eq_self_iff.2 hdigits
    obtain ⟨c, rest, rfl⟩ := List.exists_cons_of_ne_nil hne
    have hc : isDigit c := hdigits c List.mem_cons_self
    have hsign : c.toNat ≠ 45 ∧ c.toNat ≠ 43 := by
      simp only [isDigit, Bool.and_eq_true, decide_eq_true_eq] at hc
      omega
    rw [strtol, List.dropWhile_cons_of_neg (by simp [not_isSpace_of_isDigit hc])]
    simp only [hsign.1, hsign.2, if_false, htake]

/-- The numbers of a `long`. -/
def FitsLong (z : ℤ) : Prop := -2 ^ 63 ≤ z ∧ z < 2 ^ 63

lemma clampLong_eq {z : ℤ} (h : FitsLong z) : clampLong z = z := by
  obtain ⟨hge, hlt⟩ := h
  rw [clampLong]
  omega

lemma fitsLong_strtol (s : Bytes) : FitsLong (strtol s) := by
  have hclamp : ∀ z, FitsLong (clampLong z) := by
    intro z
    rw [FitsLong, clampLong]
    omega
  rw [strtol]
  cases s.dropWhile isSpace with
  | nil => exact ⟨by decide, by decide⟩
  | cons c rest =>
    dsimp only
    split_ifs <;> exact hclamp _

/-- `strtol` reads back what `to_string` has written. -/
lemma strtol_toDecimal {z : ℤ} (hnonneg : 0 ≤ z) (hlt : z < 2 ^ 63) : strtol (toDecimal z) = z := by
  rw [strtol_numeral (numeral_toDecimal z)]
  exact clampLong_eq ⟨by omega, hlt⟩

/-- A result of `time`. A clock shows a number of five digits at least (`substr` throws where there
are fewer). -/
structure Time where
  seconds : ℕ
  fiveDigits : 10000 ≤ seconds

lemma fiveDigits_default : 10000 ≤ 1700054321 := by decide

instance : Inhabited Time := ⟨1700054321, fiveDigits_default⟩

/-- `generate_conn_code` at the time `now`: the number that its last five digits spell. -/
def generateConnCode (now : Time) : ℤ :=
  strtol ((decimal now.seconds).drop ((decimal now.seconds).length - 5))

/-! ### Messages of users -/

/-- `parse`: what follows the first space. -/
def parse (message : Bytes) : Except Error Bytes :=
  match message.dropWhile (· ≠ 32) with
  | [] => .error ⟨["Cant parse chat message"]⟩
  | _ :: rest => .ok rest

/-- `JoinLobbyCode`. -/
structure JoinLobbyCode where
  stringCode : Bytes
  intCode : ℤ
  deriving DecidableEq

/-- `JoinLobbyCode::parse`: the whole message is a number other than 0, or else what follows its
last space is the code. -/
def JoinLobbyCode.parse (message : Bytes) : Except Error JoinLobbyCode :=
  if strtol message ≠ 0 then
    .ok { stringCode := toDecimal (strtol message), intCode := strtol message }
  else if (32 : UInt8) ∈ message then
    let stringCode := message.rtakeWhile (· ≠ 32)
    .ok { stringCode := stringCode, intCode := strtol stringCode }
  else .error ⟨["Cant parse connetion code"]⟩

/-- A chat message is its text up to the first space, the space, and the rest. -/
lemma parse_append {word : Bytes} (hword : (32 : UInt8) ∉ word) (t : Bytes) :
    BattleShips.parse (word ++ 32 :: t) = .ok t := by
  have : (word ++ 32 :: t).dropWhile (· ≠ 32) = 32 :: t := by
    induction word with
    | nil => simp
    | cons b word ih =>
      have hb : b ≠ 32 := fun h => hword (by simp [h])
      simpa [hb] using ih fun h => hword (by simp [h])
  rw [BattleShips.parse, this]

end BattleShips
