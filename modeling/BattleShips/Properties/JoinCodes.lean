import BattleShips.Utility.Text

/-!
# Which messages are connection codes

`JoinLobbyCode::parse` calls `strtol` without looking where it stops, and takes its 0 for a
failure. What it accepts need not be a number: whatever follows the last space is a code, what
follows the digits is dropped, and the code 0 is refused when it stands alone.
-/

namespace BattleShips

/-- A numeral of 64 bits. -/
def IsCode (s : Bytes) : Prop := ∃ z, Numeral s z ∧ FitsLong z

/-- What follows the last space. -/
def lastWord (message : Bytes) : Bytes := message.rtakeWhile (· ≠ 32)

/-- `JoinLobbyCode::parse` accepts the message only if there is a code in it, and accepts it if it
is one of those that servers give out. -/
structure AcceptsCodesOnly (message : Bytes) : Prop where
  accepted : ∀ code, JoinLobbyCode.parse message = .ok code →
    Numeral code.stringCode code.intCode ∧ FitsLong code.intCode
  refused : ¬ IsCode message → ¬ (32 ∈ message ∧ IsCode (lastWord message)) →
    ∃ e, JoinLobbyCode.parse message = .error e
  bare : ∀ n : ℕ, n < 2 ^ 63 → message = toDecimal n →
    ∃ code, JoinLobbyCode.parse message = .ok code ∧ code.intCode = n

variable {message s : Bytes} {z : ℤ}

lemma Numeral.space_notMem (h : Numeral s z) : 32 ∉ s := by
  intro hmem
  rcases h.mem hmem with heq | heq | hdigit
  · exact absurd heq (by decide)
  · exact absurd heq (by decide)
  · exact absurd hdigit (by decide)

/-- The number at the front of a numeral is its value. -/
lemma IsCode.numeral_strtol (h : IsCode s) : Numeral s (strtol s) := by
  obtain ⟨z, hnumeral, hfits⟩ := h
  rw [strtol_numeral hnumeral, clampLong_eq hfits]
  exact hnumeral

lemma isCode_of_numeral_strtol (h : Numeral s (strtol s)) : IsCode s :=
  ⟨strtol s, h, fitsLong_strtol s⟩

/-! ### What `JoinLobbyCode::parse` comes to -/

lemma parse_of_number (hnumber : strtol message ≠ 0) : JoinLobbyCode.parse message =
    .ok { stringCode := toDecimal (strtol message), intCode := strtol message } := by
  rw [JoinLobbyCode.parse, if_pos hnumber]

lemma parse_of_space (hzero : strtol message = 0) (hspace : 32 ∈ message) :
    JoinLobbyCode.parse message =
      .ok { stringCode := lastWord message, intCode := strtol (lastWord message) } := by
  rw [JoinLobbyCode.parse, if_neg (not_not.2 hzero), if_pos hspace]
  rfl

lemma parse_of_none (hzero : strtol message = 0) (hspace : 32 ∉ message) :
    ∃ e, JoinLobbyCode.parse message = .error e := by
  rw [JoinLobbyCode.parse, if_neg (not_not.2 hzero), if_neg hspace]
  exact ⟨_, rfl⟩

/-- A message that begins with a number is accepted, whatever comes after the number. -/
lemma acceptsCodesOnly_of_number (hnumber : strtol message ≠ 0) : AcceptsCodesOnly message ↔
    IsCode message ∨ 32 ∈ message ∧ IsCode (lastWord message) := by
  have hparse := parse_of_number hnumber
  constructor
  · intro h
    by_contra hnone
    obtain ⟨hwhole, hword⟩ := not_or.1 hnone
    obtain ⟨e, he⟩ := h.refused hwhole hword
    rw [hparse] at he
    cases he
  · intro hcode
    constructor
    · intro code hok
      rw [hparse] at hok
      cases hok
      exact ⟨numeral_toDecimal _, fitsLong_strtol _⟩
    · intro hwhole hword
      exact absurd hcode (not_or.2 ⟨hwhole, hword⟩)
    · intro n hn hbare
      refine ⟨_, hparse, ?_⟩
      rw [hbare]
      exact strtol_toDecimal (Int.natCast_nonneg n) (by exact_mod_cast hn)

/-- **Codes only**: with a space in it, what follows the last one has to be a code. Without one, the
message has to be a code or begin with no number, and it must not be the code 0. -/
theorem acceptsCodesOnly_iff (message : Bytes) : AcceptsCodesOnly message ↔
    if 32 ∈ message then IsCode (lastWord message)
    else message ≠ toDecimal 0 ∧ (strtol message = 0 ∨ IsCode message) := by
  have hzeroCode : strtol (toDecimal 0) = 0 := strtol_toDecimal le_rfl (by decide)
  by_cases hspace : 32 ∈ message
  · have hwhole : ¬ IsCode message := fun ⟨z, hnumeral, _⟩ => hnumeral.space_notMem hspace
    rw [if_pos hspace]
    by_cases hnumber : strtol message = 0
    · have hparse := parse_of_space hnumber hspace
      constructor
      · intro h
        exact isCode_of_numeral_strtol (h.accepted _ hparse).1
      · intro hword
        constructor
        · intro code hok
          rw [hparse] at hok
          cases hok
          exact ⟨hword.numeral_strtol, fitsLong_strtol _⟩
        · intro _ hnone
          exact absurd ⟨hspace, hword⟩ hnone
        · intro n _ hbare
          have hnumeral := numeral_toDecimal n
          rw [← hbare] at hnumeral
          exact absurd hspace hnumeral.space_notMem
    · rw [acceptsCodesOnly_of_number hnumber]
      simp [hwhole, hspace]
  · rw [if_neg hspace]
    by_cases hnumber : strtol message = 0
    · obtain ⟨e, hparse⟩ := parse_of_none hnumber hspace
      constructor
      · intro h
        refine ⟨?_, .inl hnumber⟩
        intro hbare
        obtain ⟨code, hok, -⟩ := h.bare 0 (by decide) hbare
        rw [hparse] at hok
        cases hok
      · rintro ⟨hne, -⟩
        constructor
        · intro code hok
          rw [hparse] at hok
          cases hok
        · exact fun _ _ => ⟨e, hparse⟩
        · intro n hn hbare
          have hread := strtol_toDecimal (z := n) (Int.natCast_nonneg n) (by exact_mod_cast hn)
          rw [← hbare, hnumber] at hread
          rw [hbare, ← hread] at hne
          exact absurd rfl hne
    · rw [acceptsCodesOnly_of_number hnumber]
      have hne : message ≠ toDecimal 0 := by
        rintro rfl
        exact hnumber hzeroCode
      simp [hspace, hnumber, hne]

/-- A word that is no number joins the lobby 0, a number with something behind it the lobby of the
number, and the code 0 is refused. -/
theorem not_acceptsCodesOnly :
    JoinLobbyCode.parse (ascii "\\join abc") =
        .ok { stringCode := ascii "abc", intCode := 0 } ∧
      JoinLobbyCode.parse (ascii "12abc") = .ok { stringCode := ascii "12", intCode := 12 } ∧
      JoinLobbyCode.parse (toDecimal 0) = .error ⟨["Cant parse connetion code"]⟩ ∧
      ¬ AcceptsCodesOnly (ascii "\\join abc") := by
  have hparse : JoinLobbyCode.parse (ascii "\\join abc") =
      .ok { stringCode := ascii "abc", intCode := 0 } := by decide
  refine ⟨hparse, by decide, by decide, fun h => ?_⟩
  rcases (h.accepted _ hparse).1.mem (b := 97) (by decide) with heq | heq | hdigit
  · exact absurd heq (by decide)
  · exact absurd heq (by decide)
  · exact absurd hdigit (by decide)

end BattleShips
