import SyncookieXdp.Proofs.Nlattr

/-!
# Conversations with the kernel

The receive loop against messages in whatever datagrams they come, and the two requests of
`netlink.c` seen from both ends: the octets that are sent say what was asked, and the answer
that comes back is the one of the abstract query.
-/

namespace SyncookieXdp.Netlink
open Lib

/-! ### Messages in a buffer -/

def nlmsgFraming : Framing where
  header := nlmsgHdrlen
  size buf nh := (nlmsgLen buf nh).toNat
  header_pos := by decide
  size_congr := by
    intro f g i j h
    have hlen : u32At f i = u32At g j := h.u32At_eq (k := 0) (by decide)
    rw [nlmsgLen, nlmsgLen, hlen]

lemma nlmsgForEach_eq_walk (buf : List Byte) (nh : Nat) (len : Int) :
    nlmsgForEach buf nh len = nlmsgFraming.walk buf nh len.toNat := by
  fun_induction nlmsgForEach buf nh len with
  | case1 nh len hok totlen ih =>
    have hfits : nlmsgFraming.header ≤ len.toNat ∧ nlmsgFraming.header ≤ nlmsgFraming.size buf nh ∧
        nlmsgFraming.size buf nh ≤ len.toNat := by
      simp only [nlmsgOk, nlmsgHdrlen] at hok
      simp only [nlmsgFraming, nlmsgHdrlen]
      omega
    rw [Framing.walk, if_pos hfits, ih]
    congr 2
    change (len - (alignUp (nlmsgLen buf nh).toNat : Int)).toNat =
      len.toNat - alignUp (nlmsgLen buf nh).toNat
    omega
  | case2 nh len hno =>
    rw [Framing.walk, if_neg]
    rintro ⟨hlen, hhdr, hsize⟩
    apply hno
    simp only [nlmsgFraming, nlmsgHdrlen] at hlen hhdr hsize
    simp only [nlmsgOk, nlmsgHdrlen]
    omega

lemma length_encode_message (m : Message) : m.encode.length = m.length := by
  simp only [Message.encode, List.length_append, length_octets16, length_octets32, Message.length,
    nlmsgHdrlen]
  omega

section

variable {buf : List Byte} {nh : Nat} {m : Message} (h : Holds buf nh m.encode)
include h

lemma nlmsgLen_of_holds : nlmsgLen buf nh = BitVec.ofNat 32 m.length := u32At_of_holds h.left

lemma nlmsgType_of_holds : nlmsgType buf nh = m.type := u16At_of_holds h.right.left

lemma nlmsgFlags_of_holds : nlmsgFlags buf nh = m.flags := u16At_of_holds h.right.right.left

lemma nlmsgSeq_of_holds : nlmsgSeq buf nh = m.seq := u32At_of_holds h.right.right.right.left

lemma nlmsgPid_of_holds : nlmsgPid buf nh = m.pid := u32At_of_holds h.right.right.right.right.left

lemma body_of_holds : Holds buf (nlmsgData nh) m.body := h.right.right.right.right.right

end

lemma framed_encode_message (m : Message) : nlmsgFraming.Framed m.encode := by
  refine ⟨?_, ?_⟩
  · rw [length_encode_message]
    exact Nat.le_add_right ..
  · have hlen : nlmsgLen m.encode 0 = BitVec.ofNat 32 m.length := nlmsgLen_of_holds (SameOctets.refl _ _ _)
    have hshort := m.short
    change (nlmsgLen m.encode 0).toNat = _
    rw [hlen, length_encode_message, BitVec.toNat_ofNat, Nat.mod_eq_of_lt]
    unfold Message.length
    omega

lemma messages_of_encoded {buf : List Byte} {ms : List Message} (h : Holds buf 0 (encodeMessages ms)) :
    List.Forall₂ (fun nh m => Holds buf nh (Message.encode m))
      (nlmsgForEach buf 0 (encodeMessages ms).length) ms := by
  have hframed : ∀ r ∈ ms.map Message.encode, nlmsgFraming.Framed r := by
    intro r hr
    obtain ⟨m, -, rfl⟩ := List.mem_map.mp hr
    exact framed_encode_message m
  have hwalk : List.Forall₂ (fun nh r => Holds buf nh r)
      (nlmsgFraming.walk buf 0 (encodeMessages ms).length) (ms.map Message.encode) :=
    Framing.walk_stream hframed h
  rw [nlmsgForEach_eq_walk, Int.toNat_natCast]
  exact List.forall₂_map_right_iff.mp hwalk

/-! ### A dump in datagrams -/

section Dump

variable {σ : Type}

/-- Of these messages the callback reads their own octets and nothing else. -/
def Reads (fn : DumpFn σ) (handle : Message → σ → σ × Int) (ms : List Message) : Prop :=
  ∀ m ∈ ms, ∀ buf nh cookie, Holds buf nh m.encode → fn buf nh cookie = handle m cookie

/-- One message of a dump: a result other than zero ends it. -/
def dumpStep (handle : Message → σ → σ × Int) (cookie : σ) (m : Message) : σ × Option Int :=
  ((handle m cookie).1, if (handle m cookie).2 = 0 then none else some (handle m cookie).2)

variable {nlPid seq : BitVec 32} {fn : DumpFn σ} {handle : Message → σ → σ × Int} {buf : List Byte}

lemma recvOne_closing {nh : Nat} {m : Message} (h : Holds buf nh m.encode) (hm : Closing nlPid seq m)
    (fn : Option (DumpFn σ)) (s : Bool × σ) :
    ∃ b, recvOne nlPid seq fn buf s nh = ((b, s.2), some 0) := by
  have hne : nlmsgDone ≠ nlmsgError := by decide
  unfold recvOne
  rw [nlmsgPid_of_holds h, nlmsgSeq_of_holds h, nlmsgType_of_holds h, hm.pid, hm.seq_eq, hm.done]
  simp only [ne_eq, not_true_eq_false, if_false, hne, if_true]
  exact ⟨_, rfl⟩

lemma length_encodeMessages_pos {ms : List Message} (h : ms ≠ []) : 0 < (encodeMessages ms).length := by
  cases ms with
  | nil => exact absurd rfl h
  | cons m ms =>
    have := le_alignUp m.encode.length
    have := length_encode_message m
    rw [encodeMessages, List.map_cons, length_stream_cons]
    unfold Message.length nlmsgHdrlen at *
    omega

/-- A datagram that fits is in the buffer whole. -/
lemma recv_datagram (nlPid seq : BitVec 32) (buf : List Byte) {ms : List Message} (hne : ms ≠ [])
    (hfit : (encodeMessages ms).length ≤ recvBufferSize) (fn : Option (DumpFn σ)) (cookie : σ)
    (replies : List Reply) :
    ∃ buf', Holds buf' 0 (encodeMessages ms) ∧
      bpfNetlinkRecv nlPid seq fn buf cookie (.datagram (encodeMessages ms) :: replies) =
        match untilStop (recvOne nlPid seq fn buf') (false, cookie)
          (nlmsgForEach buf' 0 (encodeMessages ms).length) with
        | ((_, cookie), some ret) => (cookie, some ret)
        | ((true, cookie), none) => bpfNetlinkRecv nlPid seq fn buf' cookie replies
        | ((false, cookie), none) => (cookie, some 0) := by
  have hpos := length_encodeMessages_pos hne
  refine ⟨_, holds_append_left _ (buf.drop (encodeMessages ms).length), ?_⟩
  rw [bpfNetlinkRecv, List.take_of_length_le hfit]
  exact if_neg (by omega)

lemma recvOne_content {nh : Nat} {m : Message} (h : Holds buf nh m.encode) (hm : Content nlPid seq m)
    {s : Bool × σ} (hfn : fn buf nh s.2 = handle m s.2) :
    recvOne nlPid seq (some fn) buf s nh =
      ((true, (dumpStep handle s.2 m).1), (dumpStep handle s.2 m).2) := by
  unfold recvOne
  rw [nlmsgPid_of_holds h, nlmsgSeq_of_holds h, nlmsgType_of_holds h, nlmsgFlags_of_holds h, hm.pid,
    hm.seq_eq]
  simp only [ne_eq, not_true_eq_false, if_false, hm.not_error, hm.not_done, hm.multi, not_false_eq_true,
    decide_true, Bool.or_true, hfn]
  rfl

/-- The loop over a datagram hands each message to the callback, until one ends the dump. -/
lemma recv_content {nhs : List Nat} {ms : List Message}
    (h : List.Forall₂ (fun nh m => Holds buf nh (Message.encode m)) nhs ms)
    (hms : ∀ m ∈ ms, Content nlPid seq m) (hfn : Reads fn handle ms) (s : Bool × σ) :
    untilStop (recvOne nlPid seq (some fn) buf) s nhs =
      ((s.1 || !ms.isEmpty, (untilStop (dumpStep handle) s.2 ms).1),
        (untilStop (dumpStep handle) s.2 ms).2) := by
  induction h generalizing s with
  | nil => simp [untilStop]
  | @cons nh m nhs ms hm _ ih =>
    have hrest := ih (fun m hm => hms m (List.mem_cons_of_mem _ hm))
      (fun m hm => hfn m (List.mem_cons_of_mem _ hm))
    have hread := hfn m (List.mem_cons_self ..) buf nh s.2 hm
    rw [untilStop, recvOne_content hm (hms m (List.mem_cons_self ..)) hread]
    rcases hstep : dumpStep handle s.2 m with ⟨cookie, _ | ret⟩
    · simp only [untilStop, hstep, hrest]
      simp
    · simp [untilStop, hstep]

lemma recv_last {last : List Message} {closing : Message}
    (hfit : (encodeMessages (last ++ [closing])).length ≤ recvBufferSize)
    (hlast : ∀ m ∈ last, Content nlPid seq m) (hclosing : Closing nlPid seq closing)
    (hfn : Reads fn handle last) (cookie : σ) (later : List Reply) :
    bpfNetlinkRecv nlPid seq (some fn) buf cookie
        (.datagram (encodeMessages (last ++ [closing])) :: later) =
      ((untilStop (dumpStep handle) cookie last).1,
        some ((untilStop (dumpStep handle) cookie last).2.getD 0)) := by
  obtain ⟨buf', hbuf, hrecv⟩ := recv_datagram nlPid seq buf (by simp) hfit (some fn) cookie later
  have hat := messages_of_encoded hbuf
  generalize nlmsgForEach buf' 0 (encodeMessages (last ++ [closing])).length = nhs at hat hrecv
  -- the positions of the content, and the one of the closing message
  have hcontent := List.forall₂_take_append nhs last [closing] hat
  have hclose := List.forall₂_drop_append nhs last [closing] hat
  rw [← List.take_append_drop last.length nhs] at hrecv
  rw [hrecv, untilStop_append, recv_content hcontent hlast hfn]
  dsimp only
  cases hstop : (untilStop (dumpStep handle) cookie last).2 with
  | some ret => rfl
  | none =>
    obtain ⟨nh, rest, hnh, -, hdrop⟩ := List.forall₂_cons_right_iff.mp hclose
    obtain ⟨b, hone⟩ := recvOne_closing hnh hclosing (some fn)
      (false || !last.isEmpty, (untilStop (dumpStep handle) cookie last).1)
    rw [hdrop]
    simp only [untilStop, hone]
    rfl

/-- However a dump is cut into datagrams and whatever the buffer held before, the callback is
given its messages in order until one of them ends it, and what comes later is not waited for. -/
theorem recv_dump (d : Dump nlPid seq) (hfn : Reads fn handle d.messages) (cookie : σ)
    (later : List Reply) :
    bpfNetlinkRecv nlPid seq (some fn) buf cookie (d.replies ++ later) =
      ((untilStop (dumpStep handle) cookie d.messages).1,
        some ((untilStop (dumpStep handle) cookie d.messages).2.getD 0)) := by
  obtain ⟨chunks, last, closing, hne, hfit, hlastfit, hcontent, hclosing⟩ := d
  simp only [Dump.replies, Dump.messages] at hfn ⊢
  induction chunks generalizing buf cookie with
  | nil => exact recv_last hlastfit hcontent hclosing hfn cookie later
  | cons c chunks ih =>
    have hmessages : (c :: chunks).flatten ++ last = c ++ (chunks.flatten ++ last) := by
      rw [List.flatten_cons, List.append_assoc]
    rw [hmessages] at hcontent hfn ⊢
    obtain ⟨buf', hbuf, hrecv⟩ := recv_datagram nlPid seq buf (hne c (List.mem_cons_self ..))
      (hfit c (List.mem_cons_self ..)) (some fn) cookie
      (chunks.map (fun c => .datagram (encodeMessages c)) ++
        [.datagram (encodeMessages (last ++ [closing]))] ++ later)
    rw [List.map_cons, List.cons_append, List.cons_append, hrecv, untilStop_append,
      recv_content (messages_of_encoded hbuf) (fun m hm => hcontent m (List.mem_append_left _ hm))
        (fun m hm => hfn m (List.mem_append_left _ hm))]
    have hmore : (false || !c.isEmpty) = true := by
      simpa using hne c (List.mem_cons_self ..)
    rw [hmore]
    rcases untilStop (dumpStep handle) cookie c with ⟨cookie', _ | ret⟩
    · exact ih cookie' (fun c hc => hne c (List.mem_cons_of_mem _ hc))
        (fun c hc => hfit c (List.mem_cons_of_mem _ hc))
        (fun m hm => hcontent m (List.mem_append_right _ hm))
        (fun m hm => hfn m (List.mem_append_right _ hm))
    · rfl

/-- Two dumps with the same messages are received alike. -/
theorem recv_split_irrelevant (d d' : Dump nlPid seq) (hsame : d.messages = d'.messages)
    (hfn : Reads fn handle d.messages) (buf buf' : List Byte) (cookie : σ) (later later' : List Reply) :
    bpfNetlinkRecv nlPid seq (some fn) buf cookie (d.replies ++ later) =
      bpfNetlinkRecv nlPid seq (some fn) buf' cookie (d'.replies ++ later') := by
  rw [recv_dump d hfn, recv_dump d' (hsame ▸ hfn), hsame]

def doneMessage : Message := ⟨nlmsgDone, nlmFMulti, 9, 77, octets32 0, by decide⟩

lemma doneMessage_closes : Closing 77 9 doneMessage := ⟨rfl, rfl, rfl⟩

/-- The same two messages in two datagrams and in one. -/
def inTwo : Dump 77 9 where
  chunks := [[⟨16, nlmFMulti, 9, 77, [], by decide⟩]]
  last := [⟨16, nlmFMulti, 9, 77, [], by decide⟩]
  closing := doneMessage
  chunks_ne := by decide
  chunks_fit := by decide
  last_fit := by decide
  content := by
    intro m hm
    simp only [List.flatten_cons, List.flatten_nil, List.append_nil, List.cons_append, List.nil_append,
      List.mem_cons, List.not_mem_nil, or_false, or_self] at hm
    subst hm
    exact ⟨rfl, rfl, by decide, by decide, by decide⟩
  closes := doneMessage_closes

def inOne : Dump 77 9 where
  chunks := []
  last := inTwo.messages
  closing := inTwo.closing
  chunks_ne := by decide
  chunks_fit := by decide
  last_fit := by decide
  content := inTwo.content
  closes := inTwo.closes

/-- A callback that counts. -/
def counting : DumpFn Nat := fun _ _ count => (count + 1, 0)

lemma reads_counting (ms : List Message) : Reads counting (fun _ count => (count + 1, 0)) ms :=
  fun _ _ _ _ _ _ => rfl

theorem recv_split_irrelevant_two :
    bpfNetlinkRecv 77 9 (some counting) [] 0 (inTwo.replies ++ []) =
      bpfNetlinkRecv 77 9 (some counting) [255] 0 (inOne.replies ++ [.fails 11]) :=
  recv_split_irrelevant inTwo inOne rfl (reads_counting _) [] [255] 0 [] [.fails 11]

/-! ### Arbitrary datagrams -/

/-- A message that may reach the callback: one to this socket, in answer to this request, no
error and not the end, with a length inside the buffer. -/
def Expected (nlPid seq : BitVec 32) (buf : List Byte) (nh : Nat) : Prop :=
  nlmsgPid buf nh = nlPid ∧ nlmsgSeq buf nh = seq ∧ nlmsgType buf nh ≠ nlmsgError ∧
    nlmsgType buf nh ≠ nlmsgDone ∧ nlmsgHdrlen ≤ (nlmsgLen buf nh).toNat ∧
    nh + (nlmsgLen buf nh).toNat ≤ recvBufferSize

instance (nlPid seq : BitVec 32) (buf : List Byte) (nh : Nat) : Decidable (Expected nlPid seq buf nh) :=
  inferInstanceAs (Decidable (_ ∧ _ ∧ _ ∧ _ ∧ _ ∧ _))

/-- Calls `fn` on expected messages and something else on all others. -/
def guarded (nlPid seq : BitVec 32) (fn other : DumpFn σ) : DumpFn σ :=
  fun buf nh cookie => if Expected nlPid seq buf nh then fn buf nh cookie else other buf nh cookie

omit handle in
lemma recvOne_guarded (other : DumpFn σ) {len : Nat} (hlen : len ≤ recvBufferSize) (s : Bool × σ) {nh : Nat}
    (hnh : nh ∈ nlmsgForEach buf 0 len) :
    recvOne nlPid seq (some fn) buf s nh = recvOne nlPid seq (some (guarded nlPid seq fn other)) buf s nh := by
  rw [nlmsgForEach_eq_walk, Int.toNat_natCast] at hnh
  obtain ⟨-, hhdr, hend⟩ := Framing.inside_of_mem_walk hnh
  simp only [nlmsgFraming] at hhdr hend
  unfold recvOne
  split_ifs with hpid hseq herror hdone
  · rfl
  · rfl
  · rfl
  · rfl
  · have hexpected : Expected nlPid seq buf nh :=
      ⟨not_not.mp hpid, not_not.mp hseq, herror, hdone, hhdr, by omega⟩
    simp only [guarded, if_pos hexpected]

/-- Whatever arrives, the callback is never called on a message that is not expected. -/
theorem recv_guards_callback (nlPid seq : BitVec 32) (fn other : DumpFn σ) (buf : List Byte) (cookie : σ)
    (replies : List Reply) :
    bpfNetlinkRecv nlPid seq (some fn) buf cookie replies =
      bpfNetlinkRecv nlPid seq (some (guarded nlPid seq fn other)) buf cookie replies := by
  induction replies generalizing buf cookie with
  | nil => rfl
  | cons reply replies ih =>
    cases reply with
    | fails errno => rfl
    | datagram octets =>
      have hlen : (octets.take recvBufferSize).length ≤ recvBufferSize := by
        rw [List.length_take]
        omega
      generalize hreceived : octets.take recvBufferSize = received at hlen
      have hloop : untilStop (recvOne nlPid seq (some fn) (received ++ buf.drop received.length))
            (false, cookie) (nlmsgForEach (received ++ buf.drop received.length) 0 received.length) =
          untilStop (recvOne nlPid seq (some (guarded nlPid seq fn other))
            (received ++ buf.drop received.length)) (false, cookie)
            (nlmsgForEach (received ++ buf.drop received.length) 0 received.length) :=
        untilStop_congr (fun s nh hnh => recvOne_guarded other hlen s hnh) _
      simp only [bpfNetlinkRecv, hreceived, hloop]
      split
      · rfl
      · split
        · rfl
        · exact ih _ _
        · rfl

end Dump

/-! ### A single answer -/

lemma recvOne_ack {σ : Type} {nlPid seq error : BitVec 32} {buf : List Byte} {nh : Nat} {m : Message}
    (h : Holds buf nh m.encode) (hm : Ack nlPid seq error m) (fn : Option (DumpFn σ)) (cookie : σ) :
    recvOne nlPid seq fn buf (false, cookie) nh =
      ((false, cookie), if error.toInt = 0 then none else some error.toInt) := by
  obtain ⟨rest, hrest⟩ := hm.body
  have hbody := body_of_holds h
  rw [hrest] at hbody
  unfold recvOne
  rw [nlmsgPid_of_holds h, nlmsgSeq_of_holds h, nlmsgType_of_holds h, nlmsgFlags_of_holds h, hm.pid,
    hm.seq_eq, hm.is_error, hm.single, u32At_of_holds hbody.left]
  simp only [ne_eq, not_true_eq_false, if_false, if_true, decide_false, Bool.or_false]

/-- The result is the code of the answer. -/
lemma recv_ack {σ : Type} {nlPid seq error : BitVec 32} {m : Message} (hm : Ack nlPid seq error m)
    (hfit : (encodeMessages [m]).length ≤ recvBufferSize) (buf : List Byte) (fn : Option (DumpFn σ))
    (cookie : σ) (later : List Reply) :
    bpfNetlinkRecv nlPid seq fn buf cookie (.datagram (encodeMessages [m]) :: later) =
      (cookie, some error.toInt) := by
  obtain ⟨buf', hbuf, hrecv⟩ := recv_datagram nlPid seq buf (by simp) hfit fn cookie later
  obtain ⟨nh, rest, hnh, hnil, hat⟩ := List.forall₂_cons_right_iff.mp (messages_of_encoded hbuf)
  rw [hrecv, hat, List.forall₂_nil_right_iff.mp hnil]
  simp only [untilStop, recvOne_ack hnh hm fn cookie]
  by_cases hzero : error.toInt = 0
  · simp only [hzero, if_true]
  · simp only [hzero, if_false]

end SyncookieXdp.Netlink
