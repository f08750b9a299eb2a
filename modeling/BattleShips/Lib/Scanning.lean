import BattleShips.Lib.Framing

/-!
# Scanning for frames

A reader gets a byte stream in pieces and looks for a header wherever it takes the next frame to
begin. If it holds all of the body that the header declares, it takes the frame; otherwise it drops
the header and looks again, after the next piece, at what comes behind it. This file says where such
a reader looks. On a stream of frames it stays at their starts until a piece ends inside a body.
-/

/-- How a reader sees a frame: the size of the header, and that of the body as the header declares
it. -/
structure Scanner (β : Type*) where
  header : ℕ
  header_pos : 0 < header
  bodySize : List β → ℕ

namespace Scanner

variable {β : Type*} (R : Scanner β)

/-- The length of the frame at the front, according to its header. -/
def frameLength (held : List β) : ℕ := R.header + R.bodySize held

lemma frameLength_pos (held : List β) : 0 < R.frameLength held :=
  Nat.add_pos_left R.header_pos _

/-- The reader holds `held` from the offset `a` on: where it looks, with what it holds from there
on, and what is left. -/
def scan (a : ℕ) (held : List β) : List (ℕ × List β) × List β :=
  if _h : R.frameLength held ≤ held.length then
    ((a, held) :: (scan (a + R.frameLength held) (held.drop (R.frameLength held))).1,
      (scan (a + R.frameLength held) (held.drop (R.frameLength held))).2)
  else if R.header ≤ held.length then ([(a, held)], held.drop R.header)
  else ([], held)
termination_by held.length
decreasing_by
  all_goals
    have := R.frameLength_pos held
    simp only [List.length_drop]
    omega

/-- Where the reader looks that holds `held` from the offset `a` on and gets `pieces`. -/
def looks : ℕ → List β → List (List β) → List (ℕ × List β)
  | _, _, [] => []
  | a, held, piece :: pieces =>
    (R.scan a (held ++ piece)).1 ++
      looks (a + (held ++ piece).length - (R.scan a (held ++ piece)).2.length)
        (R.scan a (held ++ piece)).2 pieces

variable {R}

lemma scan_of_fits {a : ℕ} {held : List β} (h : R.frameLength held ≤ held.length) :
    R.scan a held =
      ((a, held) :: (R.scan (a + R.frameLength held) (held.drop (R.frameLength held))).1,
        (R.scan (a + R.frameLength held) (held.drop (R.frameLength held))).2) := by
  rw [scan, dif_pos h]

lemma scan_of_header {a : ℕ} {held : List β} (h : held.length < R.frameLength held)
    (hheader : R.header ≤ held.length) : R.scan a held = ([(a, held)], held.drop R.header) := by
  rw [scan, dif_neg (not_le.2 h), if_pos hheader]

lemma scan_of_lt {a : ℕ} {held : List β} (h : held.length < R.header) :
    R.scan a held = ([], held) := by
  rw [scan, dif_neg (by rw [frameLength]; omega), if_neg (not_le.2 h)]

/-- What a scan finds and leaves does not depend on the offset. -/
lemma scan_offset (a b : ℕ) (held : List β) :
    (R.scan a held).1.map Prod.snd = (R.scan b held).1.map Prod.snd ∧
      (R.scan a held).2 = (R.scan b held).2 := by
  induction hlen : held.length using Nat.strong_induction_on generalizing a b held with
  | _ n ih =>
    subst hlen
    by_cases hfits : R.frameLength held ≤ held.length
    · have hpos := R.frameLength_pos held
      obtain ⟨hlooks, hleft⟩ := ih (held.drop (R.frameLength held)).length
        (by rw [List.length_drop]; omega) (a + R.frameLength held) (b + R.frameLength held) _ rfl
      rw [scan_of_fits hfits, scan_of_fits hfits]
      exact ⟨congrArg (List.cons held) hlooks, hleft⟩
    · rw [not_le] at hfits
      by_cases hheader : R.header ≤ held.length
      · rw [scan_of_header hfits hheader, scan_of_header hfits hheader]
        exact ⟨rfl, rfl⟩
      · rw [scan_of_lt (not_le.1 hheader), scan_of_lt (not_le.1 hheader)]
        exact ⟨rfl, rfl⟩

/-- What a scan leaves is the end of what is held, and it has looked at what is before it. -/
lemma scan_spec (a : ℕ) (held : List β) :
    ∃ k ≤ held.length, (R.scan a held).2 = held.drop k ∧
      (∀ l ∈ (R.scan a held).1, ∃ j < k, l = (a + j, held.drop j)) ∧
      (R.scan a held).1.Pairwise (fun l l' => l.1 < l'.1) := by
  induction hlen : held.length using Nat.strong_induction_on generalizing a held with
  | _ n ih =>
    subst hlen
    by_cases hfits : R.frameLength held ≤ held.length
    · have hpos := R.frameLength_pos held
      obtain ⟨k, hk, hleft, hlooks, hpairwise⟩ :=
        ih (held.drop (R.frameLength held)).length (by rw [List.length_drop]; omega)
          (a + R.frameLength held) (held.drop (R.frameLength held)) rfl
      rw [List.length_drop] at hk
      have hshift : ∀ l ∈ (R.scan (a + R.frameLength held) (held.drop (R.frameLength held))).1,
          ∃ j < R.frameLength held + k, R.frameLength held ≤ j ∧ l = (a + j, held.drop j) := by
        intro l hl
        obtain ⟨j, hj, rfl⟩ := hlooks l hl
        exact ⟨R.frameLength held + j, by omega, Nat.le_add_right _ _, by
          rw [List.drop_drop, Nat.add_assoc]⟩
      rw [scan_of_fits hfits]
      refine ⟨R.frameLength held + k, by omega, by rw [hleft, List.drop_drop], ?_, ?_⟩
      · intro l hl
        rcases List.mem_cons.1 hl with rfl | hl
        · exact ⟨0, by omega, rfl⟩
        · obtain ⟨j, hj, -, rfl⟩ := hshift l hl
          exact ⟨j, hj, rfl⟩
      · refine List.pairwise_cons.2 ⟨fun l hl => ?_, hpairwise⟩
        obtain ⟨j, -, hle, rfl⟩ := hshift l hl
        simp only
        omega
    · rw [not_le] at hfits
      by_cases hheader : R.header ≤ held.length
      · have hpos := R.header_pos
        rw [scan_of_header hfits hheader]
        exact ⟨R.header, hheader, rfl, fun l hl => ⟨0, hpos, by simpa using hl⟩,
          List.pairwise_singleton ..⟩
      · rw [scan_of_lt (not_le.1 hheader)]
        exact ⟨0, Nat.zero_le _, rfl, nofun, .nil⟩

/-- The reader looks at what the stream has, and further and further behind. -/
lemma looks_spec (a : ℕ) (held : List β) (pieces : List (List β)) :
    (∀ l ∈ R.looks a held pieces, a ≤ l.1 ∧ l.2 <+: (held ++ pieces.flatten).drop (l.1 - a)) ∧
      (R.looks a held pieces).Pairwise (fun l l' => l.1 < l'.1) := by
  induction pieces generalizing a held with
  | nil => exact ⟨nofun, .nil⟩
  | cons piece pieces ih =>
    obtain ⟨k, hk, hleft, hlooks, hpairwise⟩ := R.scan_spec a (held ++ piece)
    have hoffset : a + (held ++ piece).length - (R.scan a (held ++ piece)).2.length = a + k := by
      rw [hleft, List.length_drop]
      omega
    obtain ⟨hrest, hpairwise'⟩ := ih (a + k) ((held ++ piece).drop k)
    rw [looks, hoffset, hleft]
    have hsplit : held ++ (piece :: pieces).flatten = (held ++ piece) ++ pieces.flatten := by simp
    refine ⟨fun l hl => ?_, List.pairwise_append.2 ⟨hpairwise, hpairwise', fun l hl l' hl' => ?_⟩⟩
    · rcases List.mem_append.1 hl with hl | hl
      · obtain ⟨j, hj, rfl⟩ := hlooks l hl
        refine ⟨Nat.le_add_right _ _, ?_⟩
        have hdrop : ((held ++ piece) ++ pieces.flatten).drop j =
            (held ++ piece).drop j ++ pieces.flatten := List.drop_append_of_le_length (by omega)
        rw [hsplit, Nat.add_sub_cancel_left, hdrop]
        exact List.prefix_append _ _
      · obtain ⟨hle, hstarts⟩ := hrest l hl
        refine ⟨by omega, ?_⟩
        have hdrop : ((held ++ piece) ++ pieces.flatten).drop k =
            (held ++ piece).drop k ++ pieces.flatten := List.drop_append_of_le_length hk
        rw [hsplit, show l.1 - a = k + (l.1 - (a + k)) by omega, ← List.drop_drop, hdrop]
        exact hstarts
    · obtain ⟨j, hj, rfl⟩ := hlooks l hl
      have hle := (hrest l' hl').1
      simp only
      omega

/-! ### Induction along the pieces -/

section Induction

variable {B : List β → Prop} {a : ℕ}

/-- What holds where the reader begins to scan, and is kept by the frames that it takes, holds
wherever it looks. -/
lemma scan_induction {I L : ℕ → Prop} {bytes : List β}
    (frame : ∀ a, L a → B (bytes.drop a) →
      R.frameLength (bytes.drop a) ≤ (bytes.drop a).length →
        L (a + R.frameLength (bytes.drop a)))
    (header : ∀ a, L a → (bytes.drop a).length < R.frameLength (bytes.drop a) →
      R.header ≤ (bytes.drop a).length → I (a + R.header))
    (stop : ∀ a, L a → (bytes.drop a).length < R.header → I a)
    (ha : a ≤ bytes.length) (hL : L a) (hB : ∀ l ∈ (R.scan a (bytes.drop a)).1, B l.2) :
    (∀ l ∈ (R.scan a (bytes.drop a)).1, L l.1 ∧ l.2 = bytes.drop l.1) ∧
      ∃ a' ≤ bytes.length, I a' ∧ (R.scan a (bytes.drop a)).2 = bytes.drop a' := by
  induction hlen : (bytes.drop a).length using Nat.strong_induction_on generalizing a with
  | _ n ih =>
    subst hlen
    have hlength : (bytes.drop a).length = bytes.length - a := List.length_drop
    by_cases hfits : R.frameLength (bytes.drop a) ≤ (bytes.drop a).length
    · have hpos := R.frameLength_pos (bytes.drop a)
      rw [scan_of_fits hfits, List.drop_drop] at hB ⊢
      have hnext := frame a hL (hB _ List.mem_cons_self) hfits
      obtain ⟨hlooks, hleft⟩ := ih _ (by rw [List.length_drop]; omega) (by omega) hnext
        (fun l hl => hB l (List.mem_cons_of_mem _ hl)) rfl
      refine ⟨fun l hl => ?_, hleft⟩
      rcases List.mem_cons.1 hl with rfl | hl
      · exact ⟨hL, rfl⟩
      · exact hlooks l hl
    · rw [not_le] at hfits
      by_cases hheader : R.header ≤ (bytes.drop a).length
      · rw [scan_of_header hfits hheader]
        refine ⟨fun l hl => ?_, a + R.header, by omega, header a hL hfits hheader, List.drop_drop⟩
        rw [List.mem_singleton.1 hl]
        exact ⟨hL, rfl⟩
      · rw [scan_of_lt (not_le.1 hheader)]
        exact ⟨fun l hl => absurd hl List.not_mem_nil, a, ha, stop a hL (not_le.1 hheader), rfl⟩

/-- `I` holds of where the reader goes on after the pieces that it has got, and `L` of where it is
while it scans what it holds: then `L` holds wherever it looks. -/
lemma looks_induction {I L : List (List β) → ℕ → Prop} {all : List (List β)}
    (next : ∀ done piece a, done ++ [piece] <+: all → I done a → L (done ++ [piece]) a)
    (frame : ∀ done a, L done a → B (done.flatten.drop a) →
      R.frameLength (done.flatten.drop a) ≤ (done.flatten.drop a).length →
        L done (a + R.frameLength (done.flatten.drop a)))
    (header : ∀ done a, L done a →
      (done.flatten.drop a).length < R.frameLength (done.flatten.drop a) →
        R.header ≤ (done.flatten.drop a).length → I done (a + R.header))
    (stop : ∀ done a, L done a → (done.flatten.drop a).length < R.header → I done a)
    {D pieces : List (List β)} (hall : D ++ pieces = all) (hI : I D a)
    (ha : a ≤ D.flatten.length)
    (hB : ∀ l ∈ R.looks a (D.flatten.drop a) pieces, B l.2) :
    ∀ l ∈ R.looks a (D.flatten.drop a) pieces, ∃ D', L D' l.1 ∧
      l.2 = D'.flatten.drop l.1 := by
  induction pieces generalizing D a with
  | nil => exact fun l hl => absurd hl List.not_mem_nil
  | cons piece pieces ih =>
    have hall' : (D ++ [piece]) ++ pieces = all := by simpa using hall
    have hflatten : (D ++ [piece]).flatten = D.flatten ++ piece := by simp
    have hheld : D.flatten.drop a ++ piece = (D ++ [piece]).flatten.drop a := by
      rw [hflatten, List.drop_append_of_le_length ha]
    have ha' : a ≤ (D ++ [piece]).flatten.length := by
      rw [hflatten, List.length_append]
      omega
    rw [looks, hheld] at hB ⊢
    obtain ⟨hlooks, a', hle, hI', hleft⟩ := scan_induction (frame (D ++ [piece]))
      (header (D ++ [piece])) (stop (D ++ [piece])) ha'
      (next D piece a ⟨pieces, hall'⟩ hI) fun l hl => hB l (List.mem_append_left _ hl)
    have hoffset : a + ((D ++ [piece]).flatten.drop a).length -
        ((D ++ [piece]).flatten.drop a').length = a' := by
      rw [List.length_drop, List.length_drop]
      omega
    rw [hleft, hoffset] at hB ⊢
    intro l hl
    rcases List.mem_append.1 hl with hl | hl
    · exact ⟨_, hlooks l hl⟩
    · exact ih hall' hI' hle (fun l hl => hB l (List.mem_append_right _ hl)) l hl

end Induction

end Scanner
