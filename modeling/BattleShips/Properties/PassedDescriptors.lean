import BattleShips.Lib.Custody
import BattleShips.Net.ReceiveScan

/-!
# Descriptors passed over a connection

The receive coroutine keeps the descriptor that came with a read in the message that it fills, and
fills that message anew for each frame that the read completes. What is moved from keeps its
optional descriptor, so that each of these frames carries it; and if the read completes no frame,
the descriptor goes with the message that is never yielded.
-/

namespace BattleShips

open Custody ParseLocals

/-- The descriptors that a resumption gets from `recvmsg`, and the one that its message carries. -/
def Resumed.custody (r : Resumed) : List (Custody ℤ) :=
  r.sockets.map taken ++ (r.result.bind ReceivedMessage.socket).toList.map given

/-- What becomes of the descriptors while the coroutine runs. -/
def descriptorLog (rs : List Resumed) : List (Custody ℤ) := rs.flatMap Resumed.custody

/-- How many frames are complete in what is held. -/
def framesCompleted (held : Bytes) : ℕ := (foundAt (scanner.scan 0 held).1).length

/-- The descriptors of the reads, each with the number of frames that its read completes, if `held`
is left of the earlier reads. -/
def completions (held : Bytes) : List RecvResult → List (Option ℤ × ℕ)
  | [] => []
  | .received bytes socket :: rs =>
    (socket, framesCompleted (held ++ bytes)) ::
      completions (scanner.scan 0 (held ++ bytes)).2 rs
  | .wouldBlock :: rs => completions held rs
  | .failed :: rs => completions held rs

/-- The descriptors alone. -/
def passed (reads : List (Option ℤ × ℕ)) : List (ℤ × ℕ) :=
  reads.filterMap fun read => read.1.map fun socket => (socket, read.2)

lemma framesCompleted_eq (a : ℕ) (held : Bytes) :
    (foundAt (scanner.scan a held).1).length = framesCompleted held := by
  have hcount : ∀ ls : List (ℕ × Bytes), (foundAt ls).length =
      (ls.map Prod.snd).countP fun held => scanner.frameLength held ≤ held.length := by
    intro ls
    rw [foundAt, List.length_map, List.countP_map, List.countP_eq_length_filter]
    rfl
  rw [framesCompleted, hcount, hcount, (Scanner.scan_offset a 0 held).1]

lemma length_dataFrames {total : ℕ} {ys : List Resumed}
    (h : ∀ y ∈ ys, ∃ message, y.result = some message ∧ message.status = .data) :
    (dataFrames total ys).length = ys.length := by
  induction ys with
  | nil => rfl
  | cons y ys ih =>
    obtain ⟨message, hresult, hdata⟩ := h y List.mem_cons_self
    have hone : (dataFrames total [y]).length = 1 := by
      simp [dataFrames, hresult, hdata]
    rw [dataFrames_cons, List.length_append, hone, ih fun y hy => h y (List.mem_cons_of_mem _ hy),
      List.length_cons, Nat.add_comm]

/-- The coroutine, resumed often enough, has done this with the descriptors. -/
def Logs (co : ReceiveCo) (rs : List RecvResult) (log : List (Custody ℤ)) : Prop :=
  ∃ N, ∀ n ≥ N, descriptorLog (co.resumes n rs) = log

variable {rs : List RecvResult} {log : List (Custody ℤ)}

lemma descriptorLog_cons (r : Resumed) (rs : List Resumed) :
    descriptorLog (r :: rs) = r.custody ++ descriptorLog rs := rfl

lemma logs_nil {buffer : Bytes} {free : ℕ} : Logs (.reading buffer free) [] [] := by
  refine ⟨0, fun n _ => ?_⟩
  induction n with
  | zero => rfl
  | succ n ih =>
    have hsucc : (ReceiveCo.reading buffer free).resumes (n + 1) []
        = (ReceiveCo.reading buffer free).resume [] ::
          (ReceiveCo.reading buffer free).resumes n [] := rfl
    rw [hsucc, descriptorLog_cons, ih (Nat.zero_le _)]
    rfl

lemma Logs.wouldBlock {buffer : Bytes} {free : ℕ} (h : Logs (.reading buffer free) rs log) :
    Logs (.reading buffer free) (.wouldBlock :: rs) log := by
  obtain ⟨N, hN⟩ := h
  refine ⟨N + 1, fun n hn => ?_⟩
  obtain ⟨k, rfl⟩ : ∃ k, n = k + 1 := ⟨n - 1, by omega⟩
  exact hN k (by omega)

/-- A read gets its descriptor before the inner loop starts. -/
lemma Logs.received {buffer bytes : Bytes} {free : ℕ} {socket : Option ℤ} (hne : bytes ≠ [])
    (h : Logs (.parsing (ofRead buffer free bytes socket)) rs log) :
    Logs (.reading buffer free) (.received bytes socket :: rs)
      (socket.toList.map taken ++ log) := by
  obtain ⟨N, hN⟩ := h
  refine ⟨N + 1, fun n hn => ?_⟩
  obtain ⟨k, rfl⟩ : ∃ k, n = k + 1 := ⟨n - 1, by omega⟩
  rw [← hN (k + 1) (by omega), ReceiveCo.resumes, ReceiveCo.resumes, resume_received hne,
    Resumed.withCall_co, Resumed.withCall_pending]
  have hcustody : ∀ r : Resumed, (r.withCall ⟨bufferSize - free, .received bytes socket⟩).custody =
      socket.toList.map taken ++ r.custody := by
    intro r
    cases socket with
    | none => simp [Resumed.custody, Resumed.sockets, RecvResult.socket]
    | some socket => simp [Resumed.custody, Resumed.sockets, RecvResult.socket]
  cases ((ReceiveCo.parsing (ofRead buffer free bytes socket)).resume rs).co with
  | none => simp [descriptorLog, hcustody]
  | some co' => rw [descriptorLog_cons, descriptorLog_cons, hcustody, List.append_assoc]

/-- Every frame that the inner loop yields carries the descriptor of the read. -/
lemma logs_parsing {p : ParseLocals} (hp : p.InBounds) (hnone : p.header.type = .none) :
    ∃ p' : ParseLocals, p'.InBounds ∧ p'.held = (scanner.scan 0 p.held).2 ∧
      (∀ log, Logs (.reading p'.moveLeftoverToBeginning.1 p'.moveLeftoverToBeginning.2) rs log →
        Logs (.parsing p) rs ((List.replicate (framesCompleted p.held)
          (p.receivedMessage.socket.toList.map given)).flatten ++ log)) ∧
      (WindowsRespected (.parsing p) rs → WindowsRespected
        (.reading p'.moveLeftoverToBeginning.1 p'.moveLeftoverToBeginning.2) rs) := by
  obtain ⟨ys, p', hp', hheld', hframes, hys, hresumes⟩ := resumes_parsing hp hnone rfl
  have hlength : ys.length = framesCompleted p.held := by
    rw [← framesCompleted_eq, ← hframes, length_dataFrames]
    intro y hy
    obtain ⟨-, message, hresult, hdata, -⟩ := hys y hy
    exact ⟨message, hresult, hdata⟩
  have hlog : ∀ rest, descriptorLog (ys ++ rest) = (List.replicate (framesCompleted p.held)
      (p.receivedMessage.socket.toList.map given)).flatten ++ descriptorLog rest := by
    intro rest
    have hone : ys.map Resumed.custody =
        List.replicate ys.length (p.receivedMessage.socket.toList.map given) := by
      apply List.eq_replicate_iff.2
      refine ⟨List.length_map _, fun log hlog => ?_⟩
      obtain ⟨y, hy, rfl⟩ := List.mem_map.1 hlog
      obtain ⟨hcalls, message, hresult, -, hsocket⟩ := hys y hy
      simp [Resumed.custody, Resumed.sockets, hcalls, hresult, hsocket]
    rw [descriptorLog, List.flatMap_append, ← hlength, ← hone, List.flatMap_def]
    rfl
  refine ⟨p', hp', hheld', fun log hrest => ?_, fun hw => hw.of_resumes hresumes⟩
  obtain ⟨N, hN⟩ := hrest
  refine ⟨ys.length + (N + 1), fun n hn => ?_⟩
  obtain ⟨k, rfl⟩ : ∃ k, n = ys.length + (k + 1) := ⟨n - ys.length - 1, by omega⟩
  rw [hresumes, hlog, hN (k + 1) (by omega)]

/-- What becomes of the descriptor of one read, with the frames that the read completes. -/
lemma custody_read (socket : Option ℤ) (n : ℕ) :
    socket.toList.map taken ++ (List.replicate n (socket.toList.map given)).flatten =
      (passed [(socket, n)]).flatMap batch := by
  cases socket with
  | none => simp [passed]
  | some socket =>
    induction n with
    | zero => rfl
    | succ n ih => simp [passed, batch, List.replicate_succ]

/-- The coroutine passes on the descriptor of each read with every frame that the read completes. -/
lemma logs_reading {buffer : Bytes} {free : ℕ} (hbuffer : buffer.length = bufferSize)
    (hfree : free ≤ bufferSize) (hcut : IsCut rs)
    (hwindow : WindowsRespected (.reading buffer free) rs) :
    Logs (.reading buffer free) rs
      ((passed (completions (buffer.take free) rs)).flatMap batch) := by
  induction rs generalizing buffer free with
  | nil => exact logs_nil
  | cons r rs ih =>
    have hcut' : IsCut rs := fun r' hr' => hcut r' (List.mem_cons_of_mem _ hr')
    obtain rfl | ⟨bytes, socket, hne, rfl⟩ := hcut r List.mem_cons_self
    · exact (ih hbuffer hfree hcut' hwindow.wouldBlock).wouldBlock
    obtain ⟨hroom, hwindow'⟩ := hwindow.received hne
    obtain ⟨hbounds, hheld⟩ := @ofRead_held buffer bytes free socket hbuffer (by omega)
    obtain ⟨p, hp, hheld', hlogs, hwindows⟩ := logs_parsing hbounds rfl
    obtain ⟨hsize, hfree', htake⟩ := moveLeftover_held hp
    have hle : p.moveLeftoverToBeginning.2 ≤ bufferSize := by
      have hlen := hp.length_held
      have hbound := hp.le
      omega
    have hrest := hlogs _ (ih hsize hle hcut' (hwindows hwindow'))
    rw [htake, hheld', hheld] at hrest
    have hread := Logs.received hne hrest
    have hsocket : (ofRead buffer free bytes socket).receivedMessage.socket = socket := rfl
    rw [hsocket, ← List.append_assoc, custody_read, ← List.flatMap_append, passed,
      passed, ← List.filterMap_append] at hread
    exact hread

lemma logs_coReceiveFromSocket (hcut : IsCut rs)
    (hwindow : WindowsRespected coReceiveFromSocket rs) :
    Logs coReceiveFromSocket rs ((passed (completions [] rs)).flatMap batch) :=
  logs_reading (by simp) (Nat.zero_le _) hcut hwindow

/-- Frames and some of a header: the frames are complete, and the rest is left. -/
lemma framesCompleted_stream {ms : List SentMessage} (hms : ∀ m ∈ ms, m.payload.length < 256 ^ 8)
    {zs : Bytes} (hzs : zs.length < headerSize) :
    framesCompleted (framing.stream ms ++ zs) = ms.length ∧
      (scanner.scan 0 (framing.stream ms ++ zs)).2 = zs := by
  induction ms with
  | nil =>
    rw [framesCompleted, Framing.stream_nil, List.nil_append, Scanner.scan_of_lt hzs]
    exact ⟨rfl, rfl⟩
  | cons m ms ih =>
    obtain ⟨hcompleted, hleft⟩ := ih fun m' hm' => hms m' (List.mem_cons_of_mem _ hm')
    have hlength := frameLength_encode (hms m List.mem_cons_self) (framing.stream ms ++ zs)
    have hfits : scanner.frameLength (m.encode ++ (framing.stream ms ++ zs)) ≤
        (m.encode ++ (framing.stream ms ++ zs)).length := by
      rw [hlength, List.length_append]
      exact Nat.le_add_right _ _
    rw [framesCompleted, Framing.stream_cons, framing_encode, List.append_assoc,
      Scanner.scan_of_fits hfits, hlength, List.drop_left, foundAt_cons hfits, List.length_cons,
      framesCompleted_eq, hcompleted, List.length_cons]
    exact ⟨rfl, (Scanner.scan_offset _ 0 _).2.trans hleft⟩

/-- The descriptors of the reads, each with the number of messages that end in its read, if `offset`
bytes of their stream were read earlier. -/
def endings (ms : List SentMessage) (offset : ℕ) : List RecvResult → List (Option ℤ × ℕ)
  | [] => []
  | .received bytes socket :: rs =>
    (socket, framing.endsWithin ms offset (offset + bytes.length)) ::
      endings ms (offset + bytes.length) rs
  | .wouldBlock :: rs => endings ms offset rs
  | .failed :: rs => endings ms offset rs

lemma endings_drop {ms : List SentMessage} {k r : ℕ} :
    endings ms ((framing.stream (ms.take k)).length + r) rs = endings (ms.drop k) r rs := by
  induction rs generalizing r with
  | nil => rfl
  | cons result rs ih =>
    cases result with
    | received bytes socket =>
      rw [endings, endings, Nat.add_assoc, framing.endsWithin_drop, ih]
    | wouldBlock => exact ih
    | failed => exact ih

/-- Where no read ends inside a payload, a read completes the messages that end in it. -/
lemma completions_eq_endings {ms : List SentMessage} (hms : ∀ m ∈ ms, m.payload.length < 256 ^ 8)
    (hcut : IsCut rs) {held : Bytes} (hheld : held.length < headerSize)
    (hstream : held ++ readBytes rs = framing.stream ms)
    (hcuts : CutsNoPayload ms held.length rs) :
    completions held rs = endings ms held.length rs := by
  induction rs generalizing held ms with
  | nil => rfl
  | cons result rs ih =>
    have hcut' : IsCut rs := fun r' hr' => hcut r' (List.mem_cons_of_mem _ hr')
    have hrest := (cutsNoPayload_cons.1 hcuts).2
    obtain rfl | ⟨bytes, socket, hne, rfl⟩ := hcut result List.mem_cons_self
    · exact ih hms hcut' hheld hstream hrest
    have hend : ¬ framing.InsideBody ms (held.length + bytes.length) := hrest 0
    have hread : (held ++ bytes) ++ readBytes rs = framing.stream ms := by
      rw [List.append_assoc]
      exact hstream
    have hle : held.length + bytes.length ≤ (framing.stream ms).length := by
      rw [← hread, List.length_append, List.length_append]
      exact Nat.le_add_right _ _
    -- the read ends in the header behind the first `k` messages
    obtain ⟨k, hk, r, hr, heq⟩ := framing.exists_of_not_insideBody hle (by decide) hend
    obtain ⟨zs, rfl, hsplit, hdrop⟩ :=
      framing.exists_of_append_eq_stream hread (by rw [List.length_append, heq])
    obtain ⟨hcompleted, hleft⟩ :=
      framesCompleted_stream (fun m hm => hms m (List.mem_of_mem_take hm)) hr
    have hrest' : CutsNoPayload (ms.drop k) zs.length rs := by
      rw [← cutsNoPayload_drop, ← heq]
      exact hrest
    rw [completions, endings, hsplit, hcompleted, hleft, heq,
      framing.endsWithin_take hk hheld hr, endings_drop,
      ih (fun m hm => hms m (List.mem_of_mem_drop hm)) hcut' hr hdrop hrest', List.length_take,
      min_eq_left hk]

lemma completions_stream {ms : List SentMessage} (hms : ∀ m ∈ ms, m.payload.length < 256 ^ 8)
    (socket : Option ℤ) :
    completions [] [.received (framing.stream ms) socket] = [(socket, ms.length)] := by
  rw [completions, completions, List.nil_append, ← List.append_nil (framing.stream ms),
    (framesCompleted_stream hms (by decide)).1]

/-- All that happens with the descriptors has happened after some resumptions. -/
lemma Logs.allowed {co : ReceiveCo} {G : List (Custody ℤ) → Custody ℤ → Prop} (h : Logs co rs log)
    (hlog : Traced.Allowed G [] log) (n : ℕ) :
    Traced.Allowed G [] (descriptorLog (co.resumes n rs)) := by
  obtain ⟨N, hN⟩ := h
  obtain ⟨rest, hrest⟩ := resumes_le (le_max_left n N) co rs
  have happend : descriptorLog (co.resumes n rs) ++ descriptorLog rest = log := by
    rw [← hN (max n N) (le_max_right _ _), ← hrest, descriptorLog, descriptorLog, descriptorLog,
      List.flatMap_append]
  rw [← happend, Traced.allowed_append] at hlog
  exact hlog.1

lemma settled_iff_completions (hcut : IsCut rs)
    (hwindow : WindowsRespected coReceiveFromSocket rs)
    (hfresh : ∀ n,
      Traced.Allowed TakenFresh [] (descriptorLog (coReceiveFromSocket.resumes n rs))) :
    (∃ N, ∀ n ≥ N, Settled [] (descriptorLog (coReceiveFromSocket.resumes n rs))) ↔
      ∀ read ∈ completions [] rs, read.1 ≠ none → read.2 = 1 := by
  obtain ⟨N, hN⟩ := logs_coReceiveFromSocket hcut hwindow
  have hfreshN := hfresh N
  rw [hN N le_rfl] at hfreshN
  have hsettled := settled_batches_iff (fun _ => not_held_nil) hfreshN
  have hpassed : (∀ b ∈ passed (completions [] rs), b.2 = 1) ↔
      ∀ read ∈ completions [] rs, read.1 ≠ none → read.2 = 1 := by
    constructor
    · rintro h ⟨_ | socket, n⟩ hread hne
      · exact absurd rfl hne
      · exact h (socket, n) (List.mem_filterMap.2 ⟨_, hread, rfl⟩)
    · intro h b hb
      obtain ⟨⟨_ | socket, n⟩, hread, heq⟩ := List.mem_filterMap.1 hb
      · exact absurd heq (by simp)
      · obtain rfl := Option.some.inj heq
        exact h _ hread (by simp)
  rw [← hpassed, ← hsettled]
  constructor
  · rintro ⟨M, hM⟩
    rw [← hN (max M N) (le_max_right _ _)]
    exact hM _ (le_max_left _ _)
  · intro h
    exact ⟨N, fun n hn => by rwa [hN n hn]⟩

/-- **Passed descriptors**: each of them is yielded with exactly one message just if each read that
gets one completes exactly one frame. Where no read of a stream of messages ends inside a payload,
these are the messages that end in the read. -/
theorem coReceiveFromSocket_settles_iff (rs : List RecvResult) (hcut : IsCut rs)
    (hwindow : WindowsRespected coReceiveFromSocket rs)
    (hfresh : ∀ n,
      Traced.Allowed TakenFresh [] (descriptorLog (coReceiveFromSocket.resumes n rs))) :
    ((∃ N, ∀ n ≥ N, Settled [] (descriptorLog (coReceiveFromSocket.resumes n rs))) ↔
      ∀ read ∈ completions [] rs, read.1 ≠ none → read.2 = 1) ∧
    ∀ ms : List SentMessage, (∀ m ∈ ms, m.payload.length < 256 ^ 8) →
      readBytes rs = framing.stream ms → CutsNoPayload ms 0 rs →
        completions [] rs = endings ms 0 rs := by
  refine ⟨settled_iff_completions hcut hwindow hfresh, fun ms hms hstream hcuts => ?_⟩
  exact completions_eq_endings hms hcut (by decide) hstream hcuts

/-- The second of three messages ends in the read that comes with a descriptor. -/
def passedReads : List RecvResult :=
  let bytes := framing.stream threeHi
  [.received (bytes.take 30) none, .wouldBlock, .received ((bytes.drop 30).take 6) (some 5),
    .received (bytes.drop 36) none]

theorem coReceiveFromSocket_settles_hi :
    endings threeHi 0 passedReads = [(none, 1), (some 5, 1), (none, 1)] ∧
      ∃ N, ∀ n ≥ N, Settled [] (descriptorLog (coReceiveFromSocket.resumes n passedReads)) := by
  have hcut : IsCut passedReads := by decide
  have hwindow : WindowsRespected coReceiveFromSocket passedReads :=
    windowsRespected_of_le coReceiveFromSocket_ready (by decide)
  have hcuts : CutsNoPayload threeHi 0 passedReads := by decide
  have hendings : endings threeHi 0 passedReads = [(none, 1), (some 5, 1), (none, 1)] := by decide
  have hcompletions : completions [] passedReads = endings threeHi 0 passedReads :=
    completions_eq_endings (by decide) hcut (by decide) (by decide) hcuts
  have hlogs := logs_coReceiveFromSocket hcut hwindow
  rw [hcompletions, hendings] at hlogs
  obtain ⟨hsettles, hstream⟩ := coReceiveFromSocket_settles_iff passedReads hcut hwindow
    (hlogs.allowed ⟨not_held_nil, trivial, trivial⟩)
  refine ⟨hendings, hsettles.2 ?_⟩
  rw [hstream threeHi (by decide) (by decide) hcuts, hendings]
  decide

/-- Two messages in one read, which comes with a descriptor: both carry it. -/
theorem coReceiveFromSocket_not_settles :
    (∀ m ∈ [hiMessage, hiMessage], m.type ≠ .none ∧ m.encode.length ≤ bufferSize) ∧
      IsCut [.received (framing.stream [hiMessage, hiMessage]) (some 5)] ∧
      WindowsRespected coReceiveFromSocket
        [.received (framing.stream [hiMessage, hiMessage]) (some 5)] ∧
      (∀ n, Traced.Allowed TakenFresh [] (descriptorLog (coReceiveFromSocket.resumes n
        [.received (framing.stream [hiMessage, hiMessage]) (some 5)]))) ∧
      ¬ ∃ N, ∀ n ≥ N, Settled [] (descriptorLog (coReceiveFromSocket.resumes n
        [.received (framing.stream [hiMessage, hiMessage]) (some 5)])) := by
  have hcut : IsCut [.received (framing.stream [hiMessage, hiMessage]) (some 5)] := by decide
  have hwindow : WindowsRespected coReceiveFromSocket
      [.received (framing.stream [hiMessage, hiMessage]) (some 5)] :=
    windowsRespected_of_le coReceiveFromSocket_ready (by decide)
  have hlogs := logs_coReceiveFromSocket hcut hwindow
  rw [completions_stream (by decide)] at hlogs
  have hfresh := hlogs.allowed (G := TakenFresh) ⟨not_held_nil, trivial, trivial, trivial⟩
  refine ⟨by decide, hcut, hwindow, hfresh, ?_⟩
  rintro ⟨M, hM⟩
  obtain ⟨N, hN⟩ := hlogs
  have hsettled := (hM (max M N) (le_max_left _ _)).1
  rw [hN _ (le_max_right _ _)] at hsettled
  have hle : 2 ≤ 1 := le_one_of_allowed (x := (5 : ℤ)) hsettled
  exact absurd hle (by decide)

end BattleShips
