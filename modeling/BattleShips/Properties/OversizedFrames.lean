import BattleShips.Net.ReceiveScan

/-!
# Frames that the buffer cannot hold

`send_message` accepts payloads of any length, and the receive coroutine has no way to skip one that
it cannot hold: it drops the header and takes the payload for the next frames. Whether it yields
something from inside a payload is up to the bytes there, which the sender has chosen.
-/

namespace BattleShips

variable {ms : List SentMessage} {rs : List RecvResult}

/-- The payload of the `k`-th message goes on at the offset. -/
def InsidePayload (ms : List SentMessage) (k offset : ℕ) : Prop :=
  frameStart ms k + headerSize ≤ offset ∧ offset < frameStart ms (k + 1)

/-- Where a read has ended inside a payload, no payload size that is found every sixteen bytes from
there on is one of a frame that a later read completes, as far as the buffer reaches. -/
def HidesNoFrame (ms : List SentMessage) (reads : List Bytes) : Prop :=
  ∀ (k j offset : ℕ) (cut later : List Bytes), later <+: reads → cut <+: later →
    InsidePayload ms k cut.flatten.length → 1 ≤ j → cut.length + j ≤ later.length →
      offset = frameStart ms k + headerSize * j → (∀ k', offset ≠ frameStart ms k') →
        offset + headerSize ≤ later.flatten.length →
          later.flatten.length ≤ offset + bufferSize →
            later.flatten.length < offset + scanner.frameLength (later.flatten.drop offset)

/-! ### Frames of the stream -/

lemma frameStart_le {k k' : ℕ} (h : k ≤ k') : frameStart ms k ≤ frameStart ms k' := by
  obtain ⟨ns, hns⟩ := List.take_prefix_take_left (l := ms) h
  rw [frameStart, frameStart, ← hns, Framing.stream_append, List.length_append]
  exact Nat.le_add_right _ _

lemma frameStart_succ {k : ℕ} {m : SentMessage} (hm : ms[k]? = some m) :
    frameStart ms (k + 1) = frameStart ms k + m.encode.length := by
  obtain ⟨hk, rfl⟩ := List.getElem?_eq_some_iff.1 hm
  rw [frameStart, frameStart, List.take_succ_eq_append_getElem hk, Framing.stream_append,
    List.length_append, framing.stream_singleton, framing_encode]

/-- What is held from the start of a frame on, if it has the header, begins with that frame. -/
lemma held_of_start {held : Bytes} {k : ℕ}
    (hheld : held <+: (framing.stream ms).drop (frameStart ms k))
    (hheader : headerSize ≤ held.length) :
    ∃ m rest, ms[k]? = some m ∧ held <+: m.encode ++ rest := by
  have hdrop : (framing.stream ms).drop (frameStart ms k) = framing.stream (ms.drop k) := by
    rw [frameStart, ← framing.stream_take_append_drop k ms, List.drop_left]
  rw [hdrop] at hheld
  cases hrest : ms.drop k with
  | nil =>
    rw [hrest, Framing.stream_nil, List.prefix_nil] at hheld
    rw [hheld] at hheader
    exact absurd hheader (by decide)
  | cons m rest =>
    have hget : (ms.drop k)[0]? = ms[k + 0]? := List.getElem?_drop
    rw [hrest] at hget hheld
    rw [Framing.stream_cons, framing_encode] at hheld
    exact ⟨m, framing.stream rest, hget.symm, hheld⟩

/-- The header of a frame is the one that was sent. -/
lemma header_of_encode {held rest : Bytes} {m : SentMessage} (hm : m.payload.length < 256 ^ 8)
    (hheld : held <+: m.encode ++ rest) (hheader : headerSize ≤ held.length) :
    MessageHeader.ofBytes (held.take headerSize) =
      { type := m.type, payloadSize := m.payload.length } := by
  rw [SentMessage.encode, List.append_assoc] at hheld
  obtain ⟨tail, htail⟩ := hheld
  have hsame : (held ++ tail).take headerSize = held.take headerSize :=
    List.take_append_of_le_length hheader
  rw [← hsame, htail, List.take_left' (by simp)]
  simpa using MessageHeader.ofBytes_toBytes m.padding
    (h := { type := m.type, payloadSize := m.payload.length }) hm []

/-- At the start of a frame, the header says how long it is. -/
lemma frameLength_of_start {held : Bytes} {k : ℕ} (hms : ∀ m ∈ ms, m.payload.length < 256 ^ 8)
    (hheld : held <+: (framing.stream ms).drop (frameStart ms k))
    (hheader : headerSize ≤ held.length) :
    frameStart ms (k + 1) = frameStart ms k + scanner.frameLength held := by
  obtain ⟨m, rest, hm, hprefix⟩ := held_of_start hheld hheader
  have hparsed := header_of_encode (hms m (List.mem_of_getElem? hm)) hprefix hheader
  rw [frameStart_succ hm, Scanner.frameLength, scanner_header, scanner_bodySize, hparsed,
    m.length_encode]

/-- At the start of a frame, a complete frame is the message that was sent there. -/
lemma frameContent_of_start {held : Bytes} {k : ℕ} (hms : ∀ m ∈ ms, m.payload.length < 256 ^ 8)
    (hheld : held <+: (framing.stream ms).drop (frameStart ms k))
    (hfits : scanner.frameLength held ≤ held.length) :
    ∃ m, ms[k]? = some m ∧ frameContent held = m.content := by
  have hheader : headerSize ≤ held.length := le_trans (Nat.le_add_right _ _) hfits
  obtain ⟨m, rest, hm, hprefix⟩ := held_of_start hheld hheader
  have hparsed := header_of_encode (hms m (List.mem_of_getElem? hm)) hprefix hheader
  have hsize : scanner.bodySize held = m.payload.length := by rw [scanner_bodySize, hparsed]
  rw [Scanner.frameLength, scanner_header, hsize] at hfits
  have hpayload : (held.drop headerSize).take m.payload.length = m.payload := by
    rw [SentMessage.encode, List.append_assoc] at hprefix
    obtain ⟨tail, htail⟩ := hprefix
    have hbody : held.drop headerSize ++ tail = m.payload ++ rest := by
      rw [← List.drop_append_of_le_length hheader, htail, List.drop_left' (by simp)]
    have hsame : (held.drop headerSize ++ tail).take m.payload.length =
        (held.drop headerSize).take m.payload.length :=
      List.take_append_of_le_length (by rw [List.length_drop]; omega)
    rw [← hsame, hbody, List.take_left]
  refine ⟨m, hm, ?_⟩
  rw [frameContent, hsize, hparsed, hpayload]
  rfl

/-- Frames that begin further and further behind are those of messages in their order. -/
lemma sublist_of_starts {xs : List (ℕ × MessageType × Bytes)} (j : ℕ)
    (hpairwise : xs.Pairwise fun x y => x.1 < y.1)
    (hxs : ∀ x ∈ xs, ∃ k m, j ≤ k ∧ ms[k]? = some m ∧ x = (frameStart ms k, m.content)) :
    (xs.map Prod.snd).Sublist ((ms.drop j).map (·.content)) := by
  induction xs generalizing j with
  | nil => exact List.nil_sublist _
  | cons x xs ih =>
    obtain ⟨hx, hpairwise'⟩ := List.pairwise_cons.1 hpairwise
    obtain ⟨k, m, hjk, hm, rfl⟩ := hxs x List.mem_cons_self
    have hrest : (xs.map Prod.snd).Sublist ((ms.drop (k + 1)).map (·.content)) := by
      refine ih (k + 1) hpairwise' fun y hy => ?_
      obtain ⟨k', m', -, hm', rfl⟩ := hxs y (List.mem_cons_of_mem _ hy)
      refine ⟨k', m', ?_, hm', rfl⟩
      by_contra hle
      exact absurd (hx _ hy) (not_lt.2 (frameStart_le (by omega)))
    have hdrop : ms.drop k = m :: ms.drop (k + 1) := by
      obtain ⟨hk, rfl⟩ := List.getElem?_eq_some_iff.1 hm
      exact List.drop_eq_getElem_cons hk
    have hfirst : (m.content :: xs.map Prod.snd).Sublist ((ms.drop k).map (·.content)) := by
      rw [hdrop, List.map_cons]
      exact hrest.cons_cons _
    exact hfirst.trans ((List.drop_sublist_drop_left ms hjk).map _)

/-! ### Where the coroutine looks -/

/-- After a read that has ended inside the payload of a frame, the coroutine is at one of the
sixteen bytes from the frame on: a read takes it no further than to the next ones. -/
def OffTrack (ms : List SentMessage) (reads : List Bytes) (ahead offset : ℕ) : Prop :=
  ∃ k j cut, cut <+: reads ∧ InsidePayload ms k cut.flatten.length ∧ 1 ≤ j ∧
    cut.length + j ≤ reads.length + ahead ∧ offset = frameStart ms k + headerSize * j

/-- Where the coroutine is after these reads. -/
def OnOrOffTrack (ms : List SentMessage) (all reads : List Bytes) (ahead offset : ℕ) : Prop :=
  reads <+: all ∧ ((∃ k, offset = frameStart ms k) ∨ OffTrack ms reads ahead offset)

/-- The coroutine looks at starts of frames, and every sixteen bytes inside a payload in which a
read has ended. -/
lemma looks_onOrOffTrack {all : List Bytes} (hms : ∀ m ∈ ms, m.payload.length < 256 ^ 8)
    (hstream : all.flatten <+: framing.stream ms) (hhides : HidesNoFrame ms all)
    (hbuffer : ∀ l ∈ scanner.looks 0 [] all, l.2.length ≤ bufferSize) :
    ∀ l ∈ scanner.looks 0 [] all, ∃ reads, OnOrOffTrack ms all reads 0 l.1 ∧
      l.2 = reads.flatten.drop l.1 := by
  have hheld : ∀ {reads : List Bytes} (a : ℕ), reads <+: all →
      reads.flatten.drop a <+: (framing.stream ms).drop a := fun a hreads =>
    List.IsPrefix.drop (hreads.flatten.trans hstream) a
  have hpos : 0 < headerSize := by decide
  refine Scanner.looks_induction (R := scanner) (D := []) (a := 0)
    (B := fun held => held.length ≤ bufferSize)
    (I := fun reads a => OnOrOffTrack ms all reads 1 a)
    (L := fun reads a => OnOrOffTrack ms all reads 0 a) ?_ ?_ ?_ ?_ (List.nil_append all)
    ⟨List.nil_prefix, .inl ⟨0, rfl⟩⟩ le_rfl hbuffer
  · rintro reads read a hreads ⟨-, hon | ⟨k, j, cut, hcut, hinside, hj, hle, rfl⟩⟩
    · exact ⟨hreads, .inl hon⟩
    · exact ⟨hreads, .inr ⟨k, j, cut, hcut.trans (List.prefix_append _ _), hinside, hj,
        by simpa using hle, rfl⟩⟩
  · rintro reads a ⟨hreads, htrack⟩ hroom hfits
    have hheader : headerSize ≤ (reads.flatten.drop a).length :=
      le_trans (Nat.le_add_right _ _) hfits
    by_cases hon : ∃ k, a = frameStart ms k
    · obtain ⟨k, rfl⟩ := hon
      exact ⟨hreads, .inl ⟨k + 1, (frameLength_of_start hms (hheld _ hreads) hheader).symm⟩⟩
    · -- nothing is complete where no frame begins
      obtain ⟨k, j, cut, hcut, hinside, hj, hle, ha⟩ := htrack.resolve_left hon
      rw [List.length_drop] at hfits hheader hroom
      have hlt := hhides k j a cut reads hreads hcut hinside hj (by omega) ha
        (fun k' heq => hon ⟨k', heq⟩) (by omega) (by omega)
      omega
  · rintro reads a ⟨hreads, htrack⟩ hlt hheader
    rw [scanner_header] at hheader ⊢
    refine ⟨hreads, .inr ?_⟩
    by_cases hon : ∃ k, a = frameStart ms k
    · obtain ⟨k, rfl⟩ := hon
      have hnext := frameLength_of_start hms (hheld _ hreads) hheader
      rw [List.length_drop] at hlt hheader
      exact ⟨k, 1, reads, List.prefix_rfl, ⟨by omega, by omega⟩, le_rfl, by omega, by
        rw [Nat.mul_one]⟩
    · obtain ⟨k, j, cut, hcut, hinside, hj, hle, rfl⟩ := htrack.resolve_left hon
      exact ⟨k, j + 1, cut, hcut, hinside, by omega, by omega, by
        rw [Nat.mul_succ, Nat.add_assoc]⟩
  · rintro reads a ⟨hreads, hon | ⟨k, j, cut, hcut, hinside, hj, hle, rfl⟩⟩ -
    · exact ⟨hreads, .inl hon⟩
    · exact ⟨hreads, .inr ⟨k, j, cut, hcut, hinside, hj, by omega, rfl⟩⟩

/-! ### What it yields -/

/-- If nothing is complete where the coroutine looks and no frame begins, it only yields frames. -/
lemma parsesFramesOnly_of_looks (hms : ∀ m ∈ ms, m.payload.length < 256 ^ 8)
    (hstream : readBytes rs <+: framing.stream ms)
    (hyields : Yields (readBytes rs).length coReceiveFromSocket rs (foundAt (headerLooks rs)))
    (hnothing : ∀ l ∈ headerLooks rs, (∀ k, l.1 ≠ frameStart ms k) →
      l.2.length < scanner.frameLength l.2) : ParsesFramesOnly ms rs := by
  obtain ⟨N, hN⟩ := hyields
  obtain ⟨hlooks, hpairwise⟩ := scanner.looks_spec 0 [] (pieces rs)
  intro n
  -- what has been yielded is the beginning of what is found
  have hstarts : dataFrames (readBytes rs).length (coReceiveFromSocket.resumes n rs) <+:
      foundAt (headerLooks rs) := by
    rw [← hN (max n N) (le_max_right _ _)]
    exact (resumes_le (le_max_left n N) _ rs).filterMap _
  have hframes : ∀ x ∈ foundAt (headerLooks rs), ∃ k m, 0 ≤ k ∧ ms[k]? = some m ∧
      x = (frameStart ms k, m.content) := by
    intro x hx
    obtain ⟨l, hl, rfl⟩ := List.mem_map.1 hx
    obtain ⟨hl, hfits⟩ := List.mem_filter.1 hl
    have hfits : scanner.frameLength l.2 ≤ l.2.length := by simpa using hfits
    obtain ⟨k, hk⟩ : ∃ k, l.1 = frameStart ms k := by
      by_contra hstart
      exact absurd (hnothing l hl fun k hk => hstart ⟨k, hk⟩) (not_lt.2 hfits)
    have hheld := (hlooks l hl).2
    rw [List.nil_append, flatten_pieces, Nat.sub_zero, hk] at hheld
    obtain ⟨m, hm, hcontent⟩ := frameContent_of_start hms (hheld.trans (hstream.drop _)) hfits
    exact ⟨k, m, Nat.zero_le k, hm, by rw [hk, hcontent]⟩
  refine ⟨fun x hx => ?_, ?_⟩
  · obtain ⟨k, m, -, hm, hx⟩ := hframes x (hstarts.subset hx)
    exact ⟨k, m, hm, hx⟩
  · rw [← dataFrames_content (readBytes rs).length]
    have hsorted : (dataFrames (readBytes rs).length
        (coReceiveFromSocket.resumes n rs)).Pairwise fun x y => x.1 < y.1 := by
      refine List.Pairwise.sublist hstarts.sublist ?_
      exact List.pairwise_map.2 (hpairwise.filter _)
    exact sublist_of_starts 0 hsorted fun x hx => hframes x (hstarts.subset hx)

/-- **The messages that the coroutine yields are frames of the stream**, in their order, if the
reads hide no frame in a payload. -/
theorem coReceiveFromSocket_parsesFramesOnly (ms : List SentMessage) (rs : List RecvResult)
    (hms : ∀ m ∈ ms, m.payload.length < 256 ^ 8) (hcut : IsCut rs)
    (hstream : readBytes rs <+: framing.stream ms)
    (hwindow : WindowsRespected coReceiveFromSocket rs) (hhides : HidesNoFrame ms (pieces rs)) :
    ParsesFramesOnly ms rs := by
  have htotal : (readBytes rs).length = 0 + 0 + (readBytes rs).length := by omega
  obtain ⟨hyields, hbuffer⟩ := yields_looks (by simp) (by decide) hcut htotal hwindow
  refine parsesFramesOnly_of_looks hms hstream hyields fun l hl hinside => ?_
  rw [← flatten_pieces] at hstream
  obtain ⟨reads, ⟨hreads, htrack⟩, hheld⟩ := looks_onOrOffTrack hms hstream hhides hbuffer l hl
  obtain ⟨k, j, cut, hcut', hpayload, hj, hle, hoffset⟩ :=
    htrack.resolve_left fun ⟨k, hk⟩ => hinside k hk
  have hroom := hbuffer l hl
  rw [hheld, List.length_drop] at hroom ⊢
  by_cases hheader : l.1 + headerSize ≤ reads.flatten.length
  · have hlt := hhides k j l.1 cut reads hreads hcut' hpayload hj (by omega) hoffset hinside hheader
      (by omega)
    omega
  · have hpos : 0 < headerSize := by decide
    rw [Scanner.frameLength, scanner_header]
    omega

/-- Every read fills the window that it is offered. -/
def WindowsFilled (co : ReceiveCo) (rs : List RecvResult) : Prop :=
  ∀ n, ∀ r ∈ co.resumes n rs, ∀ c ∈ r.calls,
    c.result = .wouldBlock ∨ c.result.bytes.length = c.window

/-- With nothing left to read, there is nothing to fill a window with. -/
lemma windowsFilled_nil (co : ReceiveCo) : WindowsFilled co [] := by
  intro n
  induction n generalizing co with
  | zero => exact fun r hr => absurd hr List.not_mem_nil
  | succ n ih =>
    obtain ⟨hcalls, hpending⟩ : (∀ c ∈ (co.resume []).calls, c.result = .wouldBlock) ∧
        (co.resume []).pending = [] := by
      cases co with
      | reading buffer free => simp [ReceiveCo.resume, receiveLoop]
      | parsing p =>
        rcases hnext : p.parseNext with ⟨message, p'⟩
        cases message <;> simp [ReceiveCo.resume, hnext, receiveLoop]
    rw [ReceiveCo.resumes, hpending]
    intro r hr c hc
    cases hco : (co.resume []).co with
    | none =>
      rw [hco, List.mem_singleton] at hr
      exact .inl (hcalls c (hr ▸ hc))
    | some co' =>
      rw [hco] at hr
      rcases List.mem_cons.1 hr with rfl | hr
      · exact .inl (hcalls c hc)
      · exact ih co' r hr c hc

lemma windowsFilled_of_resume {co : ReceiveCo} {rs : List RecvResult}
    (hcalls : ∀ c ∈ (co.resume rs).calls,
      c.result = .wouldBlock ∨ c.result.bytes.length = c.window)
    (hrest : ∀ co' ∈ (co.resume rs).co, WindowsFilled co' (co.resume rs).pending) :
    WindowsFilled co rs := by
  intro n r hr c hc
  cases n with
  | zero => exact absurd hr List.not_mem_nil
  | succ n =>
    rw [ReceiveCo.resumes] at hr
    cases hco : (co.resume rs).co with
    | none =>
      rw [hco, List.mem_singleton] at hr
      exact hcalls c (hr ▸ hc)
    | some co' =>
      rw [hco] at hr
      rcases List.mem_cons.1 hr with rfl | hr
      · exact hcalls c hc
      · exact hrest co' hco n r hr c hc

lemma WindowsFilled.respected {co : ReceiveCo} {rs : List RecvResult} (h : WindowsFilled co rs) :
    WindowsRespected co rs := by
  intro n r hr c hc
  rcases h n r hr c hc with hblocked | hfilled
  · rw [hblocked]
    exact Nat.zero_le _
  · exact hfilled.le

/-! ### A payload of text -/

/-- A message that the buffer cannot hold. -/
def longMessage : SentMessage where
  payload := List.replicate 1040 97
  padding := Vector.replicate 7 0

/-- A small message and then the long one, in the largest reads that there can be. -/
def longReads : List RecvResult :=
  [.received ((hiMessage.encode ++ longMessage.encode).take bufferSize) none,
    .received (((hiMessage.encode ++ longMessage.encode).drop bufferSize).take 34) none,
    .received (((hiMessage.encode ++ longMessage.encode).drop bufferSize).drop 34) none]

lemma longReads_flatten :
    (pieces longReads).flatten = hiMessage.encode ++ longMessage.encode := by
  simp [pieces, longReads]

lemma longReads_filled : WindowsFilled coReceiveFromSocket longReads := by
  have hsecond : ∀ co ∈ (coReceiveFromSocket.resume longReads).co,
      (∀ c ∈ (co.resume (coReceiveFromSocket.resume longReads).pending).calls,
        c.result = .wouldBlock ∨ c.result.bytes.length = c.window) ∧
      (co.resume (coReceiveFromSocket.resume longReads).pending).pending = [] := by decide +kernel
  refine windowsFilled_of_resume (by decide +kernel) fun co hco => ?_
  obtain ⟨hcalls, hpending⟩ := hsecond co hco
  refine windowsFilled_of_resume (fun c hc => hcalls c hc) fun co' _ => ?_
  rw [hpending]
  exact windowsFilled_nil co'

/-- Inside the long payload, sixteen bytes that have been read are sixteen letters. -/
lemma frameLength_longReads {bytes : Bytes} {i : ℕ}
    (hbytes : bytes <+: hiMessage.encode ++ longMessage.encode)
    (hread : 34 + i + headerSize ≤ bytes.length) :
    2000 < scanner.frameLength (bytes.drop (34 + i)) := by
  obtain ⟨front, hfront, hsplit⟩ : ∃ front : Bytes, front.length = 34 ∧
      hiMessage.encode ++ longMessage.encode = front ++ List.replicate 1040 97 :=
    ⟨hiMessage.encode ++ MessageHeader.toBytes longMessage.padding
      { type := longMessage.type, payloadSize := longMessage.payload.length }, by decide +kernel, by
        rw [List.append_assoc]
        rfl⟩
  rw [hsplit] at hbytes
  have hlength := hbytes.length_le
  rw [List.length_append, hfront, List.length_replicate] at hlength
  have hletters : (bytes.drop (34 + i)).take headerSize = List.replicate headerSize 97 := by
    obtain ⟨rest, hrest⟩ := hbytes
    calc (bytes.drop (34 + i)).take headerSize
      _ = ((bytes ++ rest).drop (34 + i)).take headerSize := by
        rw [List.drop_append_of_le_length (by omega),
          List.take_append_of_le_length (by rw [List.length_drop]; omega)]
      _ = ((List.replicate 1040 97).drop i).take headerSize := by
        rw [hrest, ← List.drop_drop, List.drop_left' hfront]
      _ = List.replicate headerSize 97 := by
        rw [List.drop_replicate, List.take_replicate, Nat.min_eq_left (by omega)]
  rw [Scanner.frameLength, scanner_bodySize, hletters]
  decide +kernel

/-- No sixteen bytes of the long payload are a header of a small frame. -/
lemma hidesNoFrame_longReads : HidesNoFrame [hiMessage, longMessage] (pieces longReads) := by
  rintro k j offset cut later hlater hcut ⟨hbegins, hends⟩ hj - rfl - hheader -
  have hbytes : later.flatten <+: hiMessage.encode ++ longMessage.encode :=
    longReads_flatten ▸ hlater.flatten
  have hlength : later.flatten.length ≤ 1074 := hbytes.length_le.trans (by decide +kernel)
  have hstart : frameStart [hiMessage, longMessage] 1 = 18 := by decide +kernel
  obtain rfl : k = 1 := by
    rcases k with _ | _ | k
    · -- no read ends inside the small message
      rw [Nat.zero_add, hstart] at hends
      rcases hcut.trans hlater with ⟨rest, hrest⟩
      cases cut with
      | nil => exact absurd hbegins (by decide)
      | cons read cut =>
        obtain ⟨rfl, -⟩ := List.cons.inj hrest
        rw [List.flatten_cons, List.length_append] at hends
        have hread : 1024 ≤ ((hiMessage.encode ++ longMessage.encode).take bufferSize).length := by
          decide +kernel
        omega
    · rfl
    · -- there is no third message
      exact absurd (hbegins.trans_lt hends) (by simp [frameStart])
  rw [hstart] at hheader ⊢
  obtain ⟨i, hi⟩ : ∃ i, 18 + headerSize * j = 34 + i := ⟨headerSize * (j - 1), by
    obtain ⟨j, rfl⟩ : ∃ n, j = n + 1 := ⟨j - 1, by omega⟩
    rw [Nat.add_sub_cancel, Nat.mul_succ]
    have hsize : headerSize = 16 := rfl
    omega⟩
  rw [hi] at hheader ⊢
  have hlong := frameLength_longReads hbytes hheader
  omega

/-- The small message is yielded, and nothing from inside of the long one. -/
theorem coReceiveFromSocket_parsesFramesOnly_long :
    bufferSize < longMessage.encode.length ∧ WindowsFilled coReceiveFromSocket longReads ∧
      (dataMessages (coReceiveFromSocket.resumes 2 longReads)).map (·.content) =
        [hiMessage.content] ∧
      ParsesFramesOnly [hiMessage, longMessage] longReads := by
  have hcut : IsCut longReads := by decide +kernel
  have hstream : readBytes longReads = framing.stream [hiMessage, longMessage] := by
    rw [← flatten_pieces, longReads_flatten]
    simp
  exact ⟨by decide +kernel, longReads_filled, by decide +kernel,
    coReceiveFromSocket_parsesFramesOnly _ _ (by decide +kernel) hcut (hstream ▸ List.prefix_rfl)
      longReads_filled.respected hidesNoFrame_longReads⟩

/-! ### A payload that is a frame -/

lemma readBytes_split (bs : Bytes) (n : ℕ) :
    readBytes [.received (bs.take n) none, .received (bs.drop n) none] = bs := by
  simp [RecvResult.bytes]

/-- A message whose payload begins with the frame of another one. -/
def evilMessage : SentMessage where
  payload := MessageHeader.toBytes (Vector.replicate 7 0) { type := .default, payloadSize := 4 } ++
    ascii "evil" ++ List.replicate 1004 0
  padding := Vector.replicate 7 0

/-- Its 1040 bytes, in the largest reads that there can be. -/
def evilReads : List RecvResult :=
  [.received (evilMessage.encode.take bufferSize) none,
    .received (evilMessage.encode.drop bufferSize) none]

/-- The second read makes room for a look at the payload, which is taken for a message. -/
theorem coReceiveFromSocket_parses_evil :
    ¬ ∀ (ms : List SentMessage) (rs : List RecvResult), (∀ m ∈ ms, m.payload.length < 256 ^ 8) →
      (∃ m ∈ ms, bufferSize < m.encode.length) → IsCut rs → readBytes rs <+: framing.stream ms →
        WindowsFilled coReceiveFromSocket rs → ParsesFramesOnly ms rs := by
  intro h
  have hcut : IsCut evilReads := by decide +kernel
  have hstream : readBytes evilReads = framing.stream [evilMessage] :=
    (readBytes_split _ _).trans (framing.stream_singleton _).symm
  have hpending : (coReceiveFromSocket.resume evilReads).pending = [] := by decide +kernel
  have hfilled : WindowsFilled coReceiveFromSocket evilReads :=
    windowsFilled_of_resume (by decide +kernel) fun co' _ => by
      rw [hpending]
      exact windowsFilled_nil co'
  have hlong : ∃ m ∈ [evilMessage], bufferSize < m.encode.length :=
    ⟨evilMessage, List.mem_singleton_self _, by decide +kernel⟩
  have hframes := h [evilMessage] evilReads (by decide +kernel) hlong hcut
    (hstream ▸ List.prefix_rfl) hfilled 1
  have hfound : dataFrames (readBytes evilReads).length (coReceiveFromSocket.resumes 1 evilReads) =
      [(16, .default, ascii "evil")] := by decide +kernel
  rw [hfound] at hframes
  obtain ⟨k, m, hm, heq⟩ := hframes.1 _ List.mem_cons_self
  obtain rfl : evilMessage = m := by
    cases k with
    | zero => simpa using hm
    | succ k => simp at hm
  have hpayload : ascii "evil" = evilMessage.payload := congrArg (fun x => x.2.2) heq
  exact absurd hpayload (by decide +kernel)

end BattleShips
