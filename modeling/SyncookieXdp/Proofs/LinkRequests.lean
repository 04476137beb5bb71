import Mathlib.Data.List.Nodup
import SyncookieXdp.Proofs.Netlink

/-!
# The two link requests

`bpf_set_link_xdp_fd` and `bpf_get_link_xdp_id` seen from both ends: the octets that are sent
say what was asked, and the answer that comes back is the one of the abstract interface.
-/

namespace SyncookieXdp.Netlink
open Lib

/-! ### Writing a request -/

lemma put16_append {buf f g : List Byte} {i : Nat} {u : BitVec 16} (v : BitVec 16)
    (hpos : i = f.length) (hbuf : buf = f ++ (octets16 u ++ g)) :
    put16 buf i v = f ++ (octets16 v ++ g) := by
  have hlen : (octets16 v).length = (octets16 u).length := rfl
  rw [hbuf, hpos]
  exact putBytes_append hlen g

lemma put32_append {buf f g : List Byte} {i : Nat} {u : BitVec 32} (v : BitVec 32)
    (hpos : i = f.length) (hbuf : buf = f ++ (octets32 u ++ g)) :
    put32 buf i v = f ++ (octets32 v ++ g) := by
  have hlen : (octets32 v).length = (octets32 u).length := rfl
  rw [hbuf, hpos]
  exact putBytes_append hlen g

lemma u16At_append {buf f g : List Byte} {i : Nat} {v : BitVec 16} (hpos : i = f.length)
    (hbuf : buf = f ++ (octets16 v ++ g)) : u16At buf i = v := by
  have h : Holds buf 0 (f ++ (octets16 v ++ g)) := hbuf ▸ SameOctets.refl _ _ _
  have hv := h.right.left
  rw [Nat.zero_add, ← hpos] at hv
  exact u16At_of_holds hv

lemma u32At_append {buf f g : List Byte} {i : Nat} {v : BitVec 32} (hpos : i = f.length)
    (hbuf : buf = f ++ (octets32 v ++ g)) : u32At buf i = v := by
  have h : Holds buf 0 (f ++ (octets32 v ++ g)) := hbuf ▸ SameOctets.refl _ _ _
  have hv := h.right.left
  rw [Nat.zero_add, ← hpos] at hv
  exact u32At_of_holds hv

lemma putXdpAttr_eq {f buf : List Byte} {pos k : Nat} (type : Nat) (value : BitVec 32)
    (hpos : pos = f.length) (hbuf : buf = f ++ List.replicate (k + 8) 0) :
    putXdpAttr buf pos type value = f ++ (encodeAttrs [attr32 type value] ++ List.replicate k 0) := by
  have hzeros : buf = (f ++ octets16 0) ++ (octets16 0 ++ (octets32 0 ++ List.replicate k 0)) := by
    rw [hbuf, List.append_assoc]
    rfl
  have htype := put16_append (i := pos + 2) (BitVec.ofNat 16 type) (by simp [hpos]) hzeros
  rw [List.append_assoc] at htype
  have hlen := put16_append (BitVec.ofNat 16 (nlaHdrlen + 4)) hpos htype
  have hassoc : f ++ (octets16 (BitVec.ofNat 16 (nlaHdrlen + 4)) ++ (octets16 (BitVec.ofNat 16 type) ++
      (octets32 0 ++ List.replicate k 0))) =
      (f ++ (octets16 8 ++ octets16 (BitVec.ofNat 16 type))) ++ (octets32 0 ++ List.replicate k 0) := by
    simp only [List.append_assoc]
    rfl
  rw [hassoc] at hlen
  have hvalue := put32_append (i := pos + nlaHdrlen) value (by simp [hpos, nlaHdrlen]) hlen
  unfold putXdpAttr
  dsimp only
  rw [hvalue, encodeAttrs_attr32]
  simp only [List.append_assoc]
  rfl

lemma length_encodeAttrs_attr32 (type : Nat) (value : BitVec 32) :
    (encodeAttrs [attr32 type value]).length = 8 := by
  rw [encodeAttrs_attr32]
  rfl

lemma nlaLen_attrOctets {f g buf payload : List Byte} {pos : Nat} {field : BitVec 16}
    (hshort : nlaHdrlen + payload.length < 2 ^ 16) (hpos : pos = f.length)
    (hbuf : buf = f ++ (attrOctets field payload ++ g)) :
    nlaLen buf pos = nlaHdrlen + payload.length := by
  rw [attrOctets, List.append_assoc] at hbuf
  rw [nlaLen, u16At_append hpos hbuf, BitVec.toNat_ofNat, Nat.mod_eq_of_lt hshort]

/-- The new attribute comes after what the nested attribute already has. -/
lemma addXdpAttr_eq {f payload buf : List Byte} {i k : Nat} {field : BitVec 16} (type : Nat)
    (value : BitVec 32) (hshort : nlaHdrlen + payload.length < 2 ^ 16) (hpos : i = f.length)
    (hbuf : buf = f ++ (attrOctets field payload ++ List.replicate (k + 8) 0)) :
    addXdpAttr buf i type value =
      f ++ (attrOctets field (payload ++ encodeAttrs [attr32 type value]) ++ List.replicate k 0) := by
  have hlen : (attrOctets field payload).length = nlaHdrlen + payload.length := by
    simp only [attrOctets, List.length_append, length_octets16, nlaHdrlen]
    omega
  have hold := nlaLen_attrOctets hshort hpos hbuf
  have hxdp : i + (nlaHdrlen + payload.length) = (f ++ attrOctets field payload).length := by
    rw [List.length_append, hlen, hpos]
  have hroom : buf = (f ++ attrOctets field payload) ++ List.replicate (k + 8) 0 := by
    rw [hbuf, List.append_assoc]
  have hput := putXdpAttr_eq type value hxdp hroom
  have hadded : nlaLen (putXdpAttr buf (i + (nlaHdrlen + payload.length)) type value)
      (i + (nlaHdrlen + payload.length)) = 8 := by
    have hat : putXdpAttr buf (i + (nlaHdrlen + payload.length)) type value =
        (f ++ attrOctets field payload) ++ (octets16 8 ++ (octets16 (BitVec.ofNat 16 type) ++
          (octets32 value ++ (encodeAttrs [] ++ List.replicate k 0)))) := by
      rw [hput, encodeAttrs_attr32]
      simp only [List.append_assoc]
    rw [nlaLen, u16At_append hxdp hat]
    rfl
  rw [List.append_assoc] at hput
  have hsame := nlaLen_attrOctets hshort hpos hput
  have hnew : (payload ++ encodeAttrs [attr32 type value]).length = payload.length + 8 := by
    rw [List.length_append, length_encodeAttrs_attr32]
  unfold addXdpAttr
  dsimp only
  rw [hold, hsame, hadded]
  rw [attrOctets, List.append_assoc] at hput
  rw [put16_append _ hpos hput, attrOctets, hnew, ← Nat.add_assoc]
  simp only [List.append_assoc]

/-- The header of a request to set a program, with the length of the whole. -/
def setLinkStart (len ifindex : BitVec 32) : List Byte :=
  octets32 len ++ (octets16 rtmSetlink ++ (octets16 (nlmFRequest ||| nlmFAck) ++ (octets32 1 ++
    (octets32 0 ++ ifinfo ifindex))))

lemma setLinkHeader_eq (ifindex : BitVec 32) :
    setLinkHeader ifindex = setLinkStart 32 ifindex ++ List.replicate 64 0 := rfl

lemma length_setLinkStart (len ifindex : BitVec 32) : (setLinkStart len ifindex).length = 32 := rfl

lemma startNested_eq (ifindex : BitVec 32) :
    put16 (put16 (setLinkHeader ifindex) 34 (nlaFNested ||| BitVec.ofNat 16 iflaXdp)) 32
        (BitVec.ofNat 16 nlaHdrlen) =
      setLinkStart 32 ifindex ++
        (attrOctets (nlaFNested ||| BitVec.ofNat 16 iflaXdp) [] ++ List.replicate (52 + 8) 0) := by
  have hheader : setLinkHeader ifindex =
      (setLinkStart 32 ifindex ++ octets16 0) ++ (octets16 0 ++ List.replicate 60 0) := rfl
  have htype := put16_append (i := 34) (nlaFNested ||| BitVec.ofNat 16 iflaXdp) rfl hheader
  rw [List.append_assoc] at htype
  exact put16_append _ rfl htype

/-- The attributes that are written are those of the message. -/
lemma addXdpAttrs_eq (ifindex fd flags : BitVec 32) {req : List Byte}
    (hreq : req = setLinkStart 32 ifindex ++
      (attrOctets (nlaFNested ||| BitVec.ofNat 16 iflaXdp) [] ++ List.replicate (52 + 8) 0)) :
    ∃ zeros,
      (if flags ≠ 0 then addXdpAttr (addXdpAttr req 32 iflaXdpFd fd) 32 iflaXdpFlags flags
        else addXdpAttr req 32 iflaXdpFd fd) =
        setLinkStart 32 ifindex ++ ((setLinkAttr fd flags).encode ++ zeros) := by
  have hfd := addXdpAttr_eq (i := 32) iflaXdpFd fd (by decide) rfl hreq
  rw [List.nil_append] at hfd
  have hencode : (setLinkAttr fd flags).encode =
      attrOctets (nlaFNested ||| BitVec.ofNat 16 iflaXdp) (encodeAttrs (setLinkAttrs fd flags)) := rfl
  by_cases hflags : flags = 0
  · have hattrs : setLinkAttrs fd flags = [attr32 iflaXdpFd fd] := by rw [setLinkAttrs, if_pos hflags]
    refine ⟨List.replicate 52 0, ?_⟩
    rw [if_neg (not_not.mpr hflags), hfd, hencode, hattrs]
  · have hattrs : encodeAttrs (setLinkAttrs fd flags) =
        encodeAttrs [attr32 iflaXdpFd fd] ++ encodeAttrs [attr32 iflaXdpFlags flags] := by
      rw [setLinkAttrs, if_neg hflags, encodeAttrs_attr32, encodeAttrs_attr32 iflaXdpFd]
      rfl
    have hshort : nlaHdrlen + (encodeAttrs [attr32 iflaXdpFd fd]).length < 2 ^ 16 := by
      rw [length_encodeAttrs_attr32]
      decide
    have hroom : addXdpAttr req 32 iflaXdpFd fd = setLinkStart 32 ifindex ++
        (attrOctets (nlaFNested ||| BitVec.ofNat 16 iflaXdp) (encodeAttrs [attr32 iflaXdpFd fd]) ++
          List.replicate (44 + 8) 0) := hfd
    refine ⟨List.replicate 44 0, ?_⟩
    rw [if_pos hflags, hencode, hattrs]
    exact addXdpAttr_eq iflaXdpFlags flags hshort rfl hroom

lemma encode_setLinkMessage (ifindex fd flags : BitVec 32) :
    (setLinkMessage ifindex fd flags).encode =
      setLinkStart (BitVec.ofNat 32 (32 + (setLinkAttr fd flags).encode.length)) ifindex ++
        (setLinkAttr fd flags).encode := by
  have hlen : (setLinkMessage ifindex fd flags).length = 32 + (setLinkAttr fd flags).encode.length := by
    rw [Message.length, setLinkMessage, List.length_append, ← Nat.add_assoc]
    rfl
  rw [Message.encode, hlen]
  simp only [setLinkMessage, setLinkStart, List.append_assoc]

lemma alignUp_setLinkAttr (fd flags : BitVec 32) :
    alignUp (setLinkAttr fd flags).encode.length = (setLinkAttr fd flags).encode.length := by
  have hlen := length_setLinkAttrs fd flags
  rw [length_encode]
  change alignUp (nlaHdrlen + (encodeAttrs (setLinkAttrs fd flags)).length) =
    nlaHdrlen + (encodeAttrs (setLinkAttrs fd flags)).length
  rw [hlen]
  split <;> rfl

/-- In the end the length of the attribute is added to the one in the header. -/
lemma putLength_eq {ifindex fd flags : BitVec 32} {buf zeros : List Byte}
    (hbuf : buf = setLinkStart 32 ifindex ++ ((setLinkAttr fd flags).encode ++ zeros)) :
    put32 buf 0 (nlmsgLen buf 0 + BitVec.ofNat 32 (alignUp (nlaLen buf 32))) =
      (setLinkMessage ifindex fd flags).encode ++ zeros := by
  have hattr : nlaLen buf 32 = (setLinkAttr fd flags).encode.length := by
    rw [nlaLen_attrOctets (setLinkAttr fd flags).short (length_setLinkStart 32 ifindex).symm hbuf,
      length_encode]
  rw [setLinkStart, List.append_assoc] at hbuf
  have hstart : nlmsgLen buf 0 = 32 := u32At_append (f := []) rfl hbuf
  have hput := put32_append (f := []) (i := 0)
    (32 + BitVec.ofNat 32 (setLinkAttr fd flags).encode.length) rfl hbuf
  rw [hattr, alignUp_setLinkAttr, hstart, hput, encode_setLinkMessage, BitVec.ofNat_add]
  simp only [setLinkStart, List.append_assoc, List.nil_append]
  rfl

/-- The request is the message that asks for this program on this interface. -/
lemma setLinkRequest_eq (ifindex fd flags : BitVec 32) :
    setLinkRequest ifindex fd flags = (setLinkMessage ifindex fd flags).encode := by
  have hnla : alignUp (nlmsgLen (setLinkHeader ifindex) 0).toNat = 32 := by
    have hlen : nlmsgLen (setLinkHeader ifindex) 0 = 32 := u32At_append (f := []) rfl (setLinkHeader_eq ifindex)
    rw [hlen]
    rfl
  obtain ⟨zeros, hreq⟩ := addXdpAttrs_eq ifindex fd flags (startNested_eq ifindex)
  have hsent : (nlmsgLen ((setLinkMessage ifindex fd flags).encode ++ zeros) 0).toNat =
      (setLinkMessage ifindex fd flags).encode.length := by
    have hshort := (setLinkMessage ifindex fd flags).short
    rw [nlmsgLen_of_holds (holds_append_left _ _), length_encode_message, BitVec.toNat_ofNat,
      Nat.mod_eq_of_lt]
    unfold Message.length
    omega
  unfold setLinkRequest
  dsimp only
  rw [hnla, putLength_eq hreq, hsent, List.take_left]

/-! ### Reading a request -/

lemma encodeAttrs_single {a : Attr} (h : alignUp a.encode.length = a.encode.length) :
    encodeAttrs [a] = a.encode := by
  simp [encodeAttrs, stream, h]

/-- What the parser finds of one type, and the number it reads there. -/
lemma getattrU32_of_parse {buf : List Byte} {head t : Nat} {as : List Attr} {maxtype : Nat}
    (h : Holds buf head (encodeAttrs as)) (ht : t ≤ maxtype) {v : Option (BitVec 32)}
    (hlast : (lastOf as t).map Attr.payload = v.map octets32) :
    ((libbpfNlaParse buf maxtype none head (encodeAttrs as).length).1 t).map (libbpfNlaGetattrU32 buf) =
      v := by
  have htb := (parse_null_policy h maxtype).2 t ht
  cases hl : lastOf as t with
  | none =>
    rw [hl] at htb hlast
    dsimp only at htb
    rw [htb]
    cases v with
    | none => rfl
    | some v => cases hlast
  | some a =>
    rw [hl] at htb hlast
    obtain ⟨p, hp, hpayload, -⟩ := htb
    cases v with
    | none => cases hlast
    | some v =>
      have hoctets : a.payload = octets32 v := Option.some.inj hlast
      rw [hp, Option.map_some, libbpfNlaGetattrU32, u32At_of_holds (hoctets ▸ hpayload)]

lemma lastOf_setLinkAttrs (fd flags : BitVec 32) :
    (lastOf (setLinkAttrs fd flags) iflaXdpFd).map Attr.payload = some (octets32 fd) ∧
      (lastOf (setLinkAttrs fd flags) iflaXdpFlags).map Attr.payload =
        (if flags = 0 then none else some flags).map octets32 := by
  have hfd : (attr32 iflaXdpFd fd).type = iflaXdpFd :=
    show (BitVec.ofNat 16 iflaXdpFd &&& nlaTypeMask).toNat = iflaXdpFd by decide
  have hflags : (attr32 iflaXdpFlags flags).type = iflaXdpFlags :=
    show (BitVec.ofNat 16 iflaXdpFlags &&& nlaTypeMask).toNat = iflaXdpFlags by decide
  have hne : iflaXdpFd ≠ iflaXdpFlags := by decide
  unfold setLinkAttrs
  split <;> simp [lastOf, hfd, hflags, hne, hne.symm]

lemma lastOf_setLinkAttr (fd flags : BitVec 32) :
    lastOf [setLinkAttr fd flags] iflaXdp = some (setLinkAttr fd flags) := by
  have htype : (setLinkAttr fd flags).type = iflaXdp :=
    show ((nlaFNested ||| BitVec.ofNat 16 iflaXdp) &&& nlaTypeMask).toNat = iflaXdp by decide
  simp [lastOf, htype]

lemma decodeSetLink_setLinkRequest (ifindex fd flags : BitVec 32) :
    decodeSetLink (setLinkRequest ifindex fd flags) = some (ifindex, .setLink fd.toInt flags) := by
  rw [setLinkRequest_eq]
  generalize hm : setLinkMessage ifindex fd flags = m
  have hmsg : Holds m.encode 0 m.encode := SameOctets.refl _ _ _
  have hbody : Holds m.encode 16 (ifinfo ifindex ++ (setLinkAttr fd flags).encode) := by
    have h := body_of_holds hmsg
    rw [← hm] at h ⊢
    exact h
  have hindex : ifiIndex m.encode (nlmsgData 0) = ifindex := u32At_of_holds hbody.left.right.left
  have hattr : Holds m.encode 32 (encodeAttrs [setLinkAttr fd flags]) := by
    rw [encodeAttrs_single (alignUp_setLinkAttr fd flags)]
    exact hbody.right
  have hlen : (m.encode.length : Int) - nlmsgLength sizeofIfinfomsg =
      (encodeAttrs [setLinkAttr fd flags]).length := by
    rw [encodeAttrs_single (alignUp_setLinkAttr fd flags), ← hm, encode_setLinkMessage,
      List.length_append, length_setLinkStart]
    simp only [nlmsgLength, sizeofIfinfomsg, nlmsgHdrlen]
    omega
  have hxdp := (parse_null_policy hattr iflaMax).2 iflaXdp (by decide)
  rw [lastOf_setLinkAttr] at hxdp
  obtain ⟨nla, hnla, hpayload, hnlalen⟩ := hxdp
  have hnested : libbpfNlaParseNested m.encode iflaXdpMax none nla =
      libbpfNlaParse m.encode iflaXdpMax none (libbpfNlaData nla)
        (encodeAttrs (setLinkAttrs fd flags)).length := by
    rw [libbpfNlaParseNested, hnlalen]
    rfl
  have hinner : Holds m.encode (libbpfNlaData nla) (encodeAttrs (setLinkAttrs fd flags)) := hpayload
  obtain ⟨hlastFd, hlastFlags⟩ := lastOf_setLinkAttrs fd flags
  have hfd := getattrU32_of_parse hinner (by decide : iflaXdpFd ≤ iflaXdpMax) (v := some fd) hlastFd
  have hflags := getattrU32_of_parse hinner (by decide : iflaXdpFlags ≤ iflaXdpMax) hlastFlags
  have hheader : nlmsgLen m.encode 0 = BitVec.ofNat 32 m.encode.length ∧ nlmsgType m.encode 0 = rtmSetlink := by
    rw [nlmsgLen_of_holds hmsg, nlmsgType_of_holds hmsg, length_encode_message, ← hm]
    exact ⟨rfl, rfl⟩
  obtain ⟨q, hq, hvalue⟩ := Option.map_eq_some_iff.mp hfd
  unfold decodeSetLink
  rw [if_pos hheader, hlen]
  have htop : (libbpfNlaParse m.encode iflaMax none (nlmsgData 0 + sizeofIfinfomsg)
      (encodeAttrs [setLinkAttr fd flags]).length).1 iflaXdp = some nla := hnla
  simp only [htop, hnested, hq, hflags, hvalue, hindex, Option.bind_eq_bind, Option.bind_some, pure]
  split <;> simp [*]

/-- One request is sent, its octets say which program to set on which interface and how, and the
call returns the code of the kernel's answer. -/
theorem set_link_on_the_wire (env : NlEnv) {nlPid error : BitVec 32} (hopened : env.opened = .ok nlPid)
    (hsend : env.sendErrno = none) {m : Message} (hm : Ack nlPid 1 error m)
    (hfit : (encodeMessages [m]).length ≤ recvBufferSize) {later : List Reply}
    (hreplies : env.replies = .datagram (encodeMessages [m]) :: later) (ifindex fd flags : BitVec 32) :
    ∃ msg, bpfSetLinkXdpFd env ifindex fd flags = ([msg], some error.toInt) ∧
      decodeSetLink msg = some (ifindex, .setLink fd.toInt flags) := by
  refine ⟨setLinkRequest ifindex fd flags, ?_, decodeSetLink_setLinkRequest ifindex fd flags⟩
  unfold bpfSetLinkXdpFd
  simp only [hopened, hsend, hreplies, recv_ack hm hfit]

/-- The kernel refuses a request because the device is busy. -/
def busyAck : Message :=
  ⟨nlmsgError, 0, 1, 77, octets32 (-16) ++ octets32 52, by decide⟩

lemma ack_busyAck : Ack 77 1 (-16) busyAck := ⟨rfl, rfl, rfl, rfl, octets32 52, rfl⟩

def busyEnv : NlEnv := ⟨.ok 77, none, [.datagram (encodeMessages [busyAck])], 0, []⟩

theorem set_link_on_the_wire_busy :
    ∃ msg, bpfSetLinkXdpFd busyEnv 3 7 5 = ([msg], some (-16)) ∧
      decodeSetLink msg = some (3, .setLink 7 5) :=
  set_link_on_the_wire busyEnv rfl rfl ack_busyAck (by decide) rfl 3 7 5

/-! ### Reading a report -/

/-- What the callback keeps after a link: the number asked for, if the link is one that is asked
about and has it. -/
def reported (xdpId : XdpIdMd) (l : Link) : XdpIdMd :=
  if xdpId.ifindex ≠ 0 ∧ xdpId.ifindex ≠ l.index then xdpId
  else if xdpAttached l.iface = .none then xdpId
  else
    match xdpIdValue l.iface (SyncookieXdp.getXdpIdAttr (xdpAttached l.iface) xdpId.flags) with
    | none => xdpId
    | some id => { xdpId with id := id }

lemma getXdpIdAttr_attachedCode (mode : XdpAttached) (flags : BitVec 32) :
    getXdpIdAttr (attachedCode mode) flags = idAttrType (SyncookieXdp.getXdpIdAttr mode flags) := by
  have hmulti : attachedCode mode = xdpAttachedMulti ↔ mode = .multi := by
    cases mode <;> decide
  unfold getXdpIdAttr SyncookieXdp.getXdpIdAttr
  simp only [ne_eq, hmulti]
  split_ifs <;> rfl

lemma attachedCode_eq_none_iff (mode : XdpAttached) : attachedCode mode = xdpAttachedNone ↔ mode = .none := by
  cases mode <;> decide

lemma idAttrType_le (attr : XdpIdAttr) : idAttrType attr ≤ iflaXdpMax := by
  cases attr <;> decide

lemma idAttrType_eq_zero_iff (attr : XdpIdAttr) : idAttrType attr = 0 ↔ attr = .unspec := by
  cases attr <;> decide

/-- The reading of the attributes inside `IFLA_XDP`. -/
lemma getXdpId_of_report {buf : List Byte} {ifi nla : Nat} {tb : NlaTable} {l : Link}
    {nested : List Attr} (hindex : ifiIndex buf ifi = l.index) (htb : tb iflaXdp = some nla)
    (hpayload : Holds buf (libbpfNlaData nla) (encodeAttrs nested))
    (hlen : libbpfNlaLen buf nla = (encodeAttrs nested).length) (hreport : XdpReport l.iface nested)
    (xdpId : XdpIdMd) : getXdpId buf ifi tb xdpId = (reported xdpId l, 0) := by
  have hparse := parse_null_policy hpayload iflaXdpMax
  unfold getXdpId reported
  rw [hindex, htb]
  by_cases hother : xdpId.ifindex ≠ 0 ∧ xdpId.ifindex ≠ l.index
  · rw [if_pos hother, if_pos hother]
  · rw [if_neg hother, if_neg hother]
    dsimp only
    rw [libbpfNlaParseNested, hlen, hparse.1, if_neg (not_not.mpr rfl)]
    -- the mode is always there
    obtain ⟨a, hlast, hcode⟩ := Option.map_eq_some_iff.mp hreport.attached
    have hat := hparse.2 iflaXdpAttached (by decide)
    rw [hlast] at hat
    obtain ⟨p, hp, hheld, -⟩ := hat
    rw [hcode] at hheld
    have hmode : libbpfNlaGetattrU8 buf p = attachedCode (xdpAttached l.iface) :=
      hheld.byteAt_eq (k := 0) (by simp)
    rw [hp]
    dsimp only
    rw [hmode, getXdpIdAttr_attachedCode]
    by_cases hnone : xdpAttached l.iface = .none
    · rw [if_pos ((attachedCode_eq_none_iff _).mpr hnone), if_pos hnone]
    · rw [if_neg (fun h => hnone ((attachedCode_eq_none_iff _).mp h)), if_neg hnone]
      generalize SyncookieXdp.getXdpIdAttr (xdpAttached l.iface) xdpId.flags = attr
      by_cases hunspec : attr = .unspec
      · rw [if_pos ((idAttrType_eq_zero_iff attr).mpr hunspec), hunspec]
        rfl
      · rw [if_neg (fun h => hunspec ((idAttrType_eq_zero_iff attr).mp h))]
        have hid := getattrU32_of_parse hpayload (idAttrType_le attr) (hreport.ids attr hunspec)
        rw [← hid]
        cases (libbpfNlaParse buf iflaXdpMax none (libbpfNlaData nla) (encodeAttrs nested).length).1
          (idAttrType attr) with
        | none => rfl
        | some q => rfl

/-- The callback on a link message. -/
lemma dumpLinkNlmsg_link {buf : List Byte} {nh : Nat} {m : Message} {l : Link}
    (h : Holds buf nh m.encode) (hm : m.body = l.body) (xdpId : XdpIdMd) :
    dumpLinkNlmsg getXdpId buf nh xdpId = (reported xdpId l, 0) := by
  have hbody := body_of_holds h
  rw [hm] at hbody
  have hindex : ifiIndex buf (nlmsgData nh) = l.index := u32At_of_holds hbody.right.left
  have hattrs : Holds buf (nlmsgData nh + sizeofIfinfomsg) (encodeAttrs l.attrs) :=
    hbody.right.right.right.right
  have hlen : (nlmsgLen buf nh - BitVec.ofNat 32 (nlmsgLength sizeofIfinfomsg)).toInt =
      (encodeAttrs l.attrs).length := by
    have hlength : m.length = nlmsgLength sizeofIfinfomsg + (encodeAttrs l.attrs).length := by
      rw [Message.length, hm]
      simp only [Link.body, List.length_append, length_octets32, nlmsgLength, sizeofIfinfomsg, nlmsgHdrlen]
      omega
    have hshort := m.short
    rw [← Message.length, hlength, nlmsgLength, sizeofIfinfomsg, nlmsgHdrlen] at hshort
    rw [nlmsgLen_of_holds h, hlength, BitVec.ofNat_add, BitVec.add_comm, BitVec.add_sub_cancel,
      BitVec.toInt_eq_toNat_of_lt, BitVec.toNat_ofNat, Nat.mod_eq_of_lt (by omega)]
    rw [BitVec.toNat_ofNat, Nat.mod_eq_of_lt (by omega)]
    omega
  have hparse := parse_null_policy hattrs iflaMax
  have hxdp := hparse.2 iflaXdp (by decide)
  unfold dumpLinkNlmsg
  dsimp only
  rw [hlen, hparse.1, if_neg (not_not.mpr rfl)]
  cases hlast : lastOf l.attrs iflaXdp with
  | none =>
    rw [hlast] at hxdp
    dsimp only at hxdp
    unfold getXdpId reported
    rw [hindex, hxdp, l.unreported hlast, if_pos rfl]
    split_ifs <;> rfl
  | some a =>
    rw [hlast] at hxdp
    obtain ⟨nla, hnla, hpayload, hnlalen⟩ := hxdp
    obtain ⟨nested, henc, hreport⟩ := l.report a hlast
    rw [henc] at hpayload hnlalen
    exact getXdpId_of_report hindex hnla hpayload hnlalen hreport xdpId

/-! ### A whole dump -/

/-- The callback on the octets of a message alone. -/
def onMessage (m : Message) (xdpId : XdpIdMd) : XdpIdMd × Int := dumpLinkNlmsg getXdpId m.encode 0 xdpId

section

variable {ms : List Message} {links : List Link}
  (h : List.Forall₂ (fun m l => Message.body m = Link.body l) ms links)
include h

lemma reads_links : Reads (dumpLinkNlmsg getXdpId) onMessage ms := by
  induction h with
  | nil => exact fun m hm => nomatch hm
  | @cons m l ms links hm _ ih =>
    intro m' hmem buf nh xdpId hheld
    rcases List.mem_cons.mp hmem with rfl | hmem
    · rw [onMessage, dumpLinkNlmsg_link hheld hm, dumpLinkNlmsg_link (SameOctets.refl _ _ _) hm]
    · exact ih m' hmem buf nh xdpId hheld

lemma untilStop_links (xdpId : XdpIdMd) :
    untilStop (dumpStep onMessage) xdpId ms = (links.foldl reported xdpId, none) := by
  induction h generalizing xdpId with
  | nil => rfl
  | @cons m l ms links hm _ ih =>
    have hone : onMessage m xdpId = (reported xdpId l, 0) :=
      dumpLinkNlmsg_link (SameOctets.refl _ _ _) hm xdpId
    simp only [untilStop, dumpStep, hone, if_true, ih, List.foldl_cons]

end

lemma foldl_reported_of_ne {links : List Link} {xdpId : XdpIdMd} (hzero : xdpId.ifindex ≠ 0)
    (h : ∀ l ∈ links, xdpId.ifindex ≠ l.index) : links.foldl reported xdpId = xdpId := by
  induction links with
  | nil => rfl
  | cons l links ih =>
    have hl : reported xdpId l = xdpId := if_pos ⟨hzero, h l (List.mem_cons_self ..)⟩
    rw [List.foldl_cons, hl]
    exact ih (fun l hl => h l (List.mem_cons_of_mem _ hl))

lemma ifindex_reported (xdpId : XdpIdMd) (l : Link) : (reported xdpId l).ifindex = xdpId.ifindex := by
  unfold reported
  split_ifs
  · rfl
  · rfl
  · split <;> rfl

lemma id_reported {l : Link} {xdpId : XdpIdMd} (hindex : l.index = xdpId.ifindex) (hid : xdpId.id = 0) :
    (reported xdpId l).id = SyncookieXdp.getXdpId l.iface xdpId.flags := by
  unfold reported SyncookieXdp.getXdpId
  rw [if_neg (fun h => h.2 hindex.symm)]
  dsimp only
  split_ifs
  · exact hid
  · cases xdpIdValue l.iface (SyncookieXdp.getXdpIdAttr (xdpAttached l.iface) xdpId.flags) with
    | none => exact hid
    | some id => rfl

/-- Among links with different indexes the one asked about decides. -/
lemma id_foldl_reported {links : List Link} {l : Link} (hnodup : (links.map Link.index).Nodup)
    (hmem : l ∈ links) {ifindex : BitVec 32} (hzero : ifindex ≠ 0) (hindex : l.index = ifindex)
    (flags : BitVec 32) :
    (links.foldl reported ⟨ifindex, flags, 0⟩).id = SyncookieXdp.getXdpId l.iface flags := by
  obtain ⟨before, after, rfl⟩ := List.append_of_mem hmem
  rw [List.map_append, List.map_cons, List.nodup_middle, List.nodup_cons, List.mem_append, not_or] at hnodup
  obtain ⟨⟨hbefore, hafter⟩, -⟩ := hnodup
  have hne : ∀ part, l.index ∉ List.map Link.index part → ∀ k ∈ part, ifindex ≠ k.index := by
    rintro part hpart k hk rfl
    exact hpart (List.mem_map.mpr ⟨k, hk, hindex.symm⟩)
  have hfirst : before.foldl reported ⟨ifindex, flags, 0⟩ = ⟨ifindex, flags, 0⟩ :=
    foldl_reported_of_ne hzero (hne before hbefore)
  have hrest : after.foldl reported (reported ⟨ifindex, flags, 0⟩ l) = reported ⟨ifindex, flags, 0⟩ l := by
    apply foldl_reported_of_ne
    · rw [ifindex_reported]
      exact hzero
    · rw [ifindex_reported]
      exact hne after hafter
  rw [List.foldl_append, List.foldl_cons, hfirst, hrest]
  exact id_reported hindex rfl

/-- What the receive loop makes of the datagrams. -/
lemma recv_of_tells {nlPid seq ifindex : BitVec 32} {i : Interface} {replies : List Reply} {result : Int}
    (hifindex : ifindex ≠ 0) (h : Tells nlPid seq ifindex i replies result) (buf : List Byte)
    (flags : BitVec 32) :
    ∃ xdpId ret, bpfNetlinkRecv nlPid seq (some (dumpLinkNlmsg getXdpId)) buf ⟨ifindex, flags, 0⟩ replies =
        (xdpId, some ret) ∧
      (if ret = 0 then .ok xdpId.id else .error ret) =
        (if result < 0 then .error result else .ok (SyncookieXdp.getXdpId i flags) :
          Except Int (BitVec 32)) := by
  cases h with
  | refused later ack fits negative =>
    refine ⟨_, _, recv_ack ack fits buf _ _ later, ?_⟩
    rw [if_neg (by omega), if_pos negative]
  | @dump d links l later lists distinct mem index iface =>
    refine ⟨_, _, recv_dump d (reads_links lists) ⟨ifindex, flags, 0⟩ later, ?_⟩
    rw [untilStop_links lists]
    change Except.ok _ = Except.ok _
    rw [id_foldl_reported distinct mem hifindex index, iface]

/-- The result of the abstract query. -/
lemma run_bpfGetLinkXdpId (a : LinkEnv) (flags : BitVec 32) (s : LinkState) :
    ((SyncookieXdp.bpfGetLinkXdpId a flags).run s).1 =
      if flags &&& ~~~xdpFlagsMask ≠ 0 then .error errInval
      else if flags &&& xdpFlagsModes ≠ 0 ∧ flags &&& xdpFlagsModes &&& (flags &&& xdpFlagsModes) - 1 ≠ 0 then
        .error errInval
      else if a.results s.requests.length < 0 then .error (a.results s.requests.length)
      else .ok (SyncookieXdp.getXdpId s.iface (flags &&& xdpFlagsModes)) := by
  unfold SyncookieXdp.bpfGetLinkXdpId
  by_cases hmask : flags &&& ~~~xdpFlagsMask ≠ 0
  · rw [if_pos hmask, if_pos hmask]
    rfl
  · rw [if_neg hmask, if_neg hmask]
    have hall : xdpFlagsSkbMode ||| xdpFlagsDrvMode ||| xdpFlagsHwMode = xdpFlagsModes := rfl
    rw [hall]
    dsimp only
    split_ifs with hmodes hneg
    · rfl
    · simp [request, hneg]
      rfl
    · simp [request, hneg]
      rfl

/-- On the wire the query has the result that the abstract query has on the interface the
datagrams tell about, however they are cut and whatever the buffer held. -/
theorem get_link_on_the_wire (env : NlEnv) {nlPid : BitVec 32} (hopened : env.opened = .ok nlPid)
    (hsend : env.sendErrno = none) (a : LinkEnv) (s : LinkState) {ifindex : BitVec 32}
    (hifindex : ifindex ≠ 0)
    (htells : Tells nlPid env.time ifindex s.iface env.replies (a.results s.requests.length))
    (flags : BitVec 32) :
    (bpfGetLinkXdpId env ifindex flags).2 = some ((SyncookieXdp.bpfGetLinkXdpId a flags).run s).1 := by
  rw [run_bpfGetLinkXdpId]
  unfold bpfGetLinkXdpId
  by_cases hmask : flags &&& ~~~xdpFlagsMask ≠ 0
  · rw [if_pos hmask, if_pos hmask]
  · have hall : xdpFlagsSkbMode ||| xdpFlagsDrvMode ||| xdpFlagsHwMode = xdpFlagsModes := rfl
    rw [if_neg hmask, if_neg hmask, hall]
    dsimp only
    by_cases hmodes : flags &&& xdpFlagsModes ≠ 0 ∧
        flags &&& xdpFlagsModes &&& (flags &&& xdpFlagsModes) - 1 ≠ 0
    · rw [if_pos hmodes, if_pos hmodes]
    · rw [if_neg hmodes, if_neg hmodes, hopened]
      dsimp only
      obtain ⟨xdpId, ret, hrecv, hresult⟩ :=
        recv_of_tells hifindex htells env.stack (flags &&& xdpFlagsModes)
      rw [← hresult]
      have hget : libbpfNlGetLink env nlPid getXdpId ⟨ifindex, flags &&& xdpFlagsModes, 0⟩ =
          ([getLinkRequest env.time], xdpId, some ret) := by
        unfold libbpfNlGetLink
        rw [hsend, ← hrecv]
      rw [hget]

lemma genericId_ne_zero : (7 : BitVec 32) ≠ 0 := by decide

def genericIface : Interface := Function.update (fun _ => none) .generic (some ⟨7, genericId_ne_zero⟩)

lemma xdpReport_generic : XdpReport genericIface genericReport where
  attached := by decide
  ids := by
    intro attr hattr
    cases attr <;> revert hattr <;> decide

def loopback : Link where
  family := 0
  index := 1
  flags := 0
  change := 0
  iface := fun _ => none
  attrs := []
  report := by
    intro a ha
    cases ha
  unreported := by
    intro _
    rfl

def genericLink : Link where
  family := 0
  index := 3
  flags := 0
  change := 0
  iface := genericIface
  attrs := [⟨BitVec.ofNat 16 iflaXdp, encodeAttrs genericReport, by decide⟩]
  report := by
    intro a ha
    cases ha
    exact ⟨genericReport, rfl, xdpReport_generic⟩
  unreported := by
    intro h
    cases h

/-- Two links in two datagrams, the second with a program in generic mode. -/
def twoLinks : Dump 77 9 where
  chunks := [[⟨16, nlmFMulti, 9, 77, loopback.body, by decide⟩]]
  last := [⟨16, nlmFMulti, 9, 77, genericLink.body, by decide⟩]
  closing := doneMessage
  chunks_ne := by decide
  chunks_fit := by decide
  last_fit := by decide
  content := by
    intro m hm
    simp only [List.flatten_cons, List.flatten_nil, List.append_nil, List.cons_append, List.nil_append,
      List.mem_cons, List.not_mem_nil, or_false] at hm
    rcases hm with rfl | rfl <;> exact ⟨rfl, rfl, by decide, by decide, by decide⟩
  closes := doneMessage_closes

def dumpEnv : NlEnv := ⟨.ok 77, none, twoLinks.replies ++ [], 9, []⟩

lemma tells_twoLinks : Tells 77 9 3 genericIface (twoLinks.replies ++ []) 0 := by
  have hlists : List.Forall₂ (fun m l => Message.body m = Link.body l) twoLinks.messages
      [loopback, genericLink] := .cons rfl (.cons rfl .nil)
  exact .dump twoLinks [] hlists (by decide) (List.mem_cons_of_mem _ (List.mem_cons_self ..)) rfl rfl

theorem get_link_on_the_wire_generic : (bpfGetLinkXdpId dumpEnv 3 0).2 = some (.ok 7) :=
  get_link_on_the_wire dumpEnv rfl rfl ⟨fun _ => ⟨7, by decide⟩, true, fun _ => 0⟩ ⟨genericIface, []⟩
    (by decide) tells_twoLinks 0

end SyncookieXdp.Netlink
