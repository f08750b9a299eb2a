import Mathlib.Data.Nat.Digits.Defs
import Mathlib.Data.List.Flatten
import Mathlib.Tactic

/-!
# Length-prefixed framing

A message is sent as a frame: a header of a fixed size followed by a body. A byte stream is a
concatenation of frames, and a reader sees it in pieces that are cut anywhere. This file has the
arithmetic of such cuts: where an offset of the stream falls, and what the prefix of the stream
up to that offset consists of. The little-endian numerals of headers are at the end.
-/

/-- A way of encoding messages as frames with a header of fixed size. -/
structure Framing (α β : Type*) where
  encode : α → List β
  header : ℕ
  header_le : ∀ a, header ≤ (encode a).length

namespace Framing

variable {α β : Type*} (F : Framing α β)

/-- The concatenation of the frames of `ms`. -/
def stream (ms : List α) : List β := ms.flatMap F.encode

@[simp] lemma stream_nil : F.stream [] = [] := rfl

@[simp] lemma stream_cons (m : α) (ms : List α) :
    F.stream (m :: ms) = F.encode m ++ F.stream ms := rfl

lemma stream_singleton (m : α) : F.stream [m] = F.encode m := by
  simp

@[simp] lemma stream_append (ms ns : List α) :
    F.stream (ms ++ ns) = F.stream ms ++ F.stream ns := by
  simp [stream]

lemma stream_take_append_drop (k : ℕ) (ms : List α) :
    F.stream (ms.take k) ++ F.stream (ms.drop k) = F.stream ms := by
  rw [← stream_append, List.take_append_drop]

/-- The offset `n` of the stream of `ms` lies inside the body of some frame: the whole header of
that frame is before `n`, and at least one byte of its body is not. -/
def InsideBody : List α → ℕ → Prop
  | [], _ => False
  | m :: ms, n =>
    if n < (F.encode m).length then F.header ≤ n else InsideBody ms (n - (F.encode m).length)

instance decidableInsideBody : ∀ (ms : List α) (n : ℕ), Decidable (F.InsideBody ms n)
  | [], _ => isFalse not_false
  | m :: ms, n =>
    if h : n < (F.encode m).length then
      decidable_of_iff (F.header ≤ n) (by simp [InsideBody, h])
    else
      have := decidableInsideBody ms (n - (F.encode m).length)
      decidable_of_iff (F.InsideBody ms (n - (F.encode m).length)) (by simp [InsideBody, h])

@[simp] lemma not_insideBody_nil (n : ℕ) : ¬ F.InsideBody [] n := not_false

lemma insideBody_append (ms ns : List α) (n : ℕ) :
    F.InsideBody (ms ++ ns) ((F.stream ms).length + n) ↔ F.InsideBody ns n := by
  induction ms with
  | nil => simp
  | cons m ms ih =>
    have hn : ¬ (F.stream (m :: ms)).length + n < (F.encode m).length := by simp; omega
    have hsub : (F.stream (m :: ms)).length + n - (F.encode m).length
        = (F.stream ms).length + n := by simp; omega
    rw [List.cons_append, InsideBody, if_neg hn, hsub, ih]

lemma insideBody_drop {k n : ℕ} {ms : List α} :
    F.InsideBody ms ((F.stream (ms.take k)).length + n) ↔ F.InsideBody (ms.drop k) n := by
  conv_lhs => rw [← List.take_append_drop k ms]
  rw [List.take_append_drop, ← F.insideBody_append (ms.take k) (ms.drop k), List.take_append_drop]

/-- An offset that is inside no body is past some whole frames and less than a header. -/
lemma exists_of_not_insideBody {ms : List α} {n : ℕ} (hn : n ≤ (F.stream ms).length)
    (hH : 0 < F.header) (h : ¬ F.InsideBody ms n) :
    ∃ k ≤ ms.length, ∃ r < F.header, n = (F.stream (ms.take k)).length + r := by
  induction ms generalizing n with
  | nil => exact ⟨0, le_rfl, 0, hH, by simpa using hn⟩
  | cons m ms ih =>
    rw [InsideBody] at h
    split_ifs at h with hlt
    · exact ⟨0, Nat.zero_le _, n, by omega, by simp⟩
    · have hn' : n - (F.encode m).length ≤ (F.stream ms).length := by simp at hn; omega
      obtain ⟨k, hk, r, hr, heq⟩ := ih hn' h
      exact ⟨k + 1, by simpa using hk, r, hr, by simp; omega⟩

/-- An offset inside a body is past some whole frames and the header of the next one. -/
lemma exists_of_insideBody {ms : List α} {n : ℕ} (h : F.InsideBody ms n) :
    ∃ k m, ms[k]? = some m ∧ ∃ r, F.header ≤ r ∧ r < (F.encode m).length ∧
      n = (F.stream (ms.take k)).length + r := by
  induction ms generalizing n with
  | nil => exact absurd h (F.not_insideBody_nil n)
  | cons m ms ih =>
    rw [InsideBody] at h
    split_ifs at h with hlt
    · exact ⟨0, m, rfl, n, h, hlt, by simp⟩
    · obtain ⟨k, m', hm', r, hr, hlt', heq⟩ := ih h
      exact ⟨k + 1, m', by simpa using hm', r, hr, hlt', by simp; omega⟩

/-- A part of the stream that ends `r` bytes after the first `k` frames. -/
lemma exists_of_append_eq_stream {xs ys : List β} {ms : List α} {k r : ℕ}
    (h : xs ++ ys = F.stream ms) (hlen : xs.length = (F.stream (ms.take k)).length + r) :
    ∃ zs, zs.length = r ∧ xs = F.stream (ms.take k) ++ zs ∧ zs ++ ys = F.stream (ms.drop k) := by
  rw [← F.stream_take_append_drop k ms] at h
  have hle : (F.stream (ms.take k)).length ≤ xs.length := by omega
  obtain ⟨zs, rfl⟩ : F.stream (ms.take k) <+: xs :=
    List.prefix_of_prefix_length_le (List.prefix_append _ _) ⟨ys, h⟩ hle
  refine ⟨zs, by simpa using hlen, rfl, ?_⟩
  rwa [List.append_assoc, List.append_cancel_left_eq] at h

/-! ### Where frames end -/

/-- The offsets of the stream at which a frame ends. -/
def frameEnds : List α → List ℕ
  | [] => []
  | m :: ms => (F.encode m).length :: (frameEnds ms).map ((F.encode m).length + ·)

lemma length_frameEnds (ms : List α) : (F.frameEnds ms).length = ms.length := by
  induction ms with
  | nil => rfl
  | cons m ms ih => simp [frameEnds, ih]

lemma frameEnds_append (ms ns : List α) :
    F.frameEnds (ms ++ ns) = F.frameEnds ms ++ (F.frameEnds ns).map ((F.stream ms).length + ·) := by
  induction ms with
  | nil => simp [frameEnds]
  | cons m ms ih => simp [frameEnds, ih, Nat.add_assoc]

lemma header_le_of_mem_frameEnds {ms : List α} {n : ℕ} (h : n ∈ F.frameEnds ms) : F.header ≤ n := by
  cases ms with
  | nil => cases h
  | cons m ms =>
    have hm := F.header_le m
    rcases List.mem_cons.1 h with rfl | h
    · exact hm
    · obtain ⟨n', -, rfl⟩ := List.mem_map.1 h
      omega

lemma le_of_mem_frameEnds {ms : List α} {n : ℕ} (h : n ∈ F.frameEnds ms) :
    n ≤ (F.stream ms).length := by
  induction ms generalizing n with
  | nil => cases h
  | cons m ms ih =>
    rw [stream_cons, List.length_append]
    rcases List.mem_cons.1 h with rfl | h
    · exact Nat.le_add_right _ _
    · obtain ⟨n', hn', rfl⟩ := List.mem_map.1 h
      have := ih hn'
      omega

/-- How many frames end behind the offset `a`, up to the offset `b`. -/
def endsWithin (ms : List α) (a b : ℕ) : ℕ := (F.frameEnds ms).countP fun n => a < n ∧ n ≤ b

lemma endsWithin_drop {ms : List α} {k a b : ℕ} :
    F.endsWithin ms ((F.stream (ms.take k)).length + a) ((F.stream (ms.take k)).length + b) =
      F.endsWithin (ms.drop k) a b := by
  have hnone : (F.frameEnds (ms.take k)).countP (fun n =>
      (F.stream (ms.take k)).length + a < n ∧ n ≤ (F.stream (ms.take k)).length + b) = 0 := by
    refine List.countP_eq_zero.2 fun n hn => ?_
    have hle := F.le_of_mem_frameEnds hn
    simp only [decide_eq_true_eq]
    omega
  conv_lhs => rw [endsWithin, ← List.take_append_drop k ms, frameEnds_append]
  rw [List.take_append_drop, List.countP_append, hnone, Nat.zero_add, List.countP_map, endsWithin]
  refine List.countP_congr fun n _ => ?_
  simp

/-- A part of the stream from within a header to within another one has the ends of the frames
between them. -/
lemma endsWithin_take {ms : List α} {k a r : ℕ} (hk : k ≤ ms.length) (ha : a < F.header)
    (hr : r < F.header) : F.endsWithin ms a ((F.stream (ms.take k)).length + r) = k := by
  have hall : ∀ n ∈ F.frameEnds (ms.take k), a < n ∧ n ≤ (F.stream (ms.take k)).length + r := by
    intro n hn
    exact ⟨ha.trans_le (F.header_le_of_mem_frameEnds hn), Nat.le_add_right_of_le
      (F.le_of_mem_frameEnds hn)⟩
  have hnone : (F.frameEnds (ms.drop k)).countP (fun n =>
      a < (F.stream (ms.take k)).length + n ∧
        (F.stream (ms.take k)).length + n ≤ (F.stream (ms.take k)).length + r) = 0 := by
    refine List.countP_eq_zero.2 fun n hn => ?_
    have hle := F.header_le_of_mem_frameEnds hn
    simp only [decide_eq_true_eq]
    omega
  conv_lhs => rw [endsWithin, ← List.take_append_drop k ms, frameEnds_append]
  rw [List.take_append_drop, List.countP_append, List.countP_map]
  refine (congrArg₂ (· + ·) (List.countP_eq_length.2 fun n hn => ?_) hnone).trans ?_
  · simpa using hall n hn
  · simp [length_frameEnds, hk]

/-! ### Writing -/

/-- What a writer puts out that writes the first `n` bytes of each frame. -/
def written (ms : List α) (ns : List ℕ) : List β :=
  (List.zipWith (fun m n => (F.encode m).take n) ms ns).flatten

lemma length_written_le {ms : List α} {ns : List ℕ} :
    (F.written ms ns).length ≤ (F.stream ms).length := by
  induction ms generalizing ns with
  | nil => simp [written]
  | cons m ms ih =>
    cases ns with
    | nil => simp [written]
    | cons n ns =>
      have htail := @ih ns
      simp only [written, List.zipWith_cons_cons, List.flatten_cons, List.length_append,
        List.length_take, stream_cons] at htail ⊢
      omega

/-- The frames come out as a stream just if each of them is written whole. -/
lemma written_eq_stream_iff {ms : List α} {ns : List ℕ} (hlen : ms.length = ns.length)
    (hle : ∀ x ∈ ms.zip ns, x.2 ≤ (F.encode x.1).length) :
    F.written ms ns = F.stream ms ↔ ∀ x ∈ ms.zip ns, x.2 = (F.encode x.1).length := by
  induction ms generalizing ns with
  | nil => simp [written]
  | cons m ms ih =>
    obtain ⟨n, ns, rfl⟩ : ∃ n ns', ns = n :: ns' := List.exists_cons_of_length_eq_add_one hlen.symm
    simp only [List.zip_cons_cons, List.forall_mem_cons] at hle ⊢
    have htail := ih (by simpa using hlen) hle.2
    have hwritten : F.written (m :: ms) (n :: ns) = (F.encode m).take n ++ F.written ms ns := by
      simp [written]
    rw [hwritten, stream_cons]
    constructor
    · intro heq
      have hlength := congrArg List.length heq
      have hrest : (F.written ms ns).length ≤ (F.stream ms).length := F.length_written_le
      simp only [List.length_append, List.length_take] at hlength
      have hn : n = (F.encode m).length := by
        have := hle.1
        omega
      rw [hn, List.take_length, List.append_cancel_left_eq] at heq
      exact ⟨hn, htail.1 heq⟩
    · rintro ⟨rfl, hwhole⟩
      rw [List.take_length, htail.2 hwhole]

end Framing

/-! ### Little-endian numerals -/

/-- The `k` low bytes of `n`, the lowest first. -/
def littleEndian (k n : ℕ) : List UInt8 := (List.range k).map fun i => UInt8.ofNat (n / 256 ^ i)

/-- The number whose bytes are `bs`, the lowest first. -/
def ofLittleEndian (bs : List UInt8) : ℕ := Nat.ofDigits 256 (bs.map UInt8.toNat)

@[simp] lemma length_littleEndian (k n : ℕ) : (littleEndian k n).length = k := by
  simp [littleEndian]

lemma littleEndian_succ (k n : ℕ) :
    littleEndian (k + 1) n = UInt8.ofNat n :: littleEndian k (n / 256) := by
  simp [littleEndian, List.range_succ_eq_map, pow_succ', Nat.div_div_eq_div_mul, Function.comp_def]

lemma ofLittleEndian_littleEndian {k n : ℕ} (h : n < 256 ^ k) :
    ofLittleEndian (littleEndian k n) = n := by
  induction k generalizing n with
  | zero =>
    have : n = 0 := by simpa using h
    simp [this, littleEndian, ofLittleEndian]
  | succ k ih =>
    have hdiv : n / 256 < 256 ^ k := by
      rw [Nat.div_lt_iff_lt_mul (by norm_num)]
      simpa [pow_succ] using h
    have := ih hdiv
    rw [ofLittleEndian] at this ⊢
    rw [littleEndian_succ, List.map_cons, Nat.ofDigits_cons, this]
    simp only [UInt8.toNat_ofNat']
    omega
