import SyncookieXdp.Model.Defines
import SyncookieXdp.Model.Nlattr

/-!
# Netlink requests on the wire

`netlink.c` of libbpf: the octets of the requests, the loop that receives the answers and the
callbacks that read the program of an interface out of a dump of the links. `int` and `__u32`
are the 32 bits that are sent.
-/

namespace SyncookieXdp.Netlink
open Lib

/-! ### Messages -/

def nlmsgHdrlen : Nat := 16

def nlmsgLength (len : Nat) : Nat := len + nlmsgHdrlen

def sizeofIfinfomsg : Nat := 16

def nlmFRequest : BitVec 16 := 0x01

def nlmFMulti : BitVec 16 := 0x02

def nlmFAck : BitVec 16 := 0x04

def nlmFDump : BitVec 16 := 0x100 ||| 0x200

def nlmsgError : BitVec 16 := 0x2

def nlmsgDone : BitVec 16 := 0x3

def rtmGetlink : BitVec 16 := 18

def rtmSetlink : BitVec 16 := 19

def afUnspec : Byte := 0

def afPacket : Byte := 17

def iflaXdp : Nat := 43

def iflaMax : Nat := 51

def iflaXdpFd : Nat := 1

def iflaXdpAttached : Nat := 2

def iflaXdpFlags : Nat := 3

def iflaXdpMax : Nat := 7

-- LIBBPF_ERRNO__WRNGPID, LIBBPF_ERRNO__INVSEQ and LIBBPF_ERRNO__NLPARSE
def errWrngpid : Int := -4011

def errInvseq : Int := -4012

def errNlparse : Int := -4013

section

variable (buf : List Byte) (nh : Nat)

def nlmsgLen : BitVec 32 := u32At buf nh

def nlmsgType : BitVec 16 := u16At buf (nh + 4)

def nlmsgFlags : BitVec 16 := u16At buf (nh + 6)

def nlmsgSeq : BitVec 32 := u32At buf (nh + 8)

def nlmsgPid : BitVec 32 := u32At buf (nh + 12)

def nlmsgData : Nat := nh + nlmsgLength 0

/-- `NLMSG_OK`. The last comparison is one of unsigned numbers, but `len` is not negative
there. -/
def nlmsgOk (len : Int) : Prop :=
  nlmsgHdrlen ≤ len ∧ nlmsgHdrlen ≤ (nlmsgLen buf nh).toNat ∧ (nlmsgLen buf nh).toNat ≤ len

instance (len : Int) : Decidable (nlmsgOk buf nh len) := inferInstanceAs (Decidable (_ ∧ _ ∧ _))

def ifiIndex (ifi : Nat) : BitVec 32 := u32At buf (ifi + 4)

end

/-! ### Receiving -/

/-- The messages that the loop over a datagram visits, with `NLMSG_OK` and `NLMSG_NEXT`. -/
def nlmsgForEach (buf : List Byte) (nh : Nat) (len : Int) : List Nat :=
  if nlmsgOk buf nh len then
    let totlen := alignUp (nlmsgLen buf nh).toNat
    nh :: nlmsgForEach buf (nh + totlen) (len - totlen)
  else []
termination_by len.toNat
decreasing_by
  rename_i h
  have := le_alignUp (nlmsgLen buf nh).toNat
  simp only [nlmsgOk, nlmsgHdrlen] at h
  omega

/-- What a call of `recv` comes to. -/
inductive Reply where
  | fails (errno : Nat)
  | datagram (octets : List Byte)
deriving DecidableEq, Repr

/-- A callback is given the buffer, a position in it and its cookie. -/
abbrev DumpFn (σ : Type) := List Byte → Nat → σ → σ × Int

section Recv

variable {σ : Type} (nlPid seq : BitVec 32) (fn : Option (DumpFn σ))

/-- The body of the loop over the messages of a datagram; the state is `multipart` and the
cookie. -/
def recvOne (buf : List Byte) (s : Bool × σ) (nh : Nat) : (Bool × σ) × Option Int :=
  if nlmsgPid buf nh ≠ nlPid then (s, some errWrngpid)
  else if nlmsgSeq buf nh ≠ seq then (s, some errInvseq)
  else
    let multipart := s.1 || decide (nlmsgFlags buf nh &&& nlmFMulti ≠ 0)
    if nlmsgType buf nh = nlmsgError then
      let error := (u32At buf (nlmsgData nh)).toInt
      ((multipart, s.2), if error = 0 then none else some error)
    else if nlmsgType buf nh = nlmsgDone then ((multipart, s.2), some 0)
    else
      match fn with
      | none => ((multipart, s.2), none)
      | some fn =>
        let (cookie, ret) := fn buf nh s.2
        ((multipart, cookie), if ret = 0 then none else some ret)

def recvBufferSize : Nat := 4096

/-- `bpf_netlink_recv` against the datagrams that arrive. The rest of the buffer keeps what it
held. Without a result the call is still waiting for a datagram. -/
def bpfNetlinkRecv (buf : List Byte) (cookie : σ) : List Reply → σ × Option Int
  | [] => (cookie, none)
  | .fails errno :: _ => (cookie, some (-errno))
  | .datagram octets :: replies =>
    let received := octets.take recvBufferSize
    if received.length = 0 then (cookie, some 0)
    else
      let buf := received ++ buf.drop received.length
      match untilStop (recvOne nlPid seq fn buf) (false, cookie) (nlmsgForEach buf 0 received.length) with
      | ((_, cookie), some ret) => (cookie, some ret)
      | ((true, cookie), none) => bpfNetlinkRecv buf cookie replies
      | ((false, cookie), none) => (cookie, some 0)

end Recv

/-- What the calls meet: the port number or error of `libbpf_netlink_open`, the error of
`send`, the answers, the clock and what the buffer on the stack holds. -/
structure NlEnv where
  opened : Except Int (BitVec 32)
  sendErrno : Option Nat
  replies : List Reply
  time : BitVec 32
  stack : List Byte

/-! ### Setting a program -/

/-- The request up to the attributes, with `nh` at 0, `ifinfo` at 16 and `attrbuf` at 32. -/
def setLinkHeader (ifindex : BitVec 32) : List Byte :=
  let req := List.replicate (nlmsgHdrlen + sizeofIfinfomsg + 64) 0
  let req := put32 req 0 (BitVec.ofNat 32 (nlmsgLength sizeofIfinfomsg))
  let req := put16 req 6 (nlmFRequest ||| nlmFAck)
  let req := put16 req 4 rtmSetlink
  let req := put32 req 12 0
  let req := put32 req 8 1
  let req := putBytes req 16 [afUnspec]
  put32 req 20 ifindex

/-- Writes an attribute of four octets at `nlaXdp`. -/
def putXdpAttr (req : List Byte) (nlaXdp type : Nat) (value : BitVec 32) : List Byte :=
  let req := put16 req (nlaXdp + 2) (BitVec.ofNat 16 type)
  let req := put16 req nlaXdp (BitVec.ofNat 16 (nlaHdrlen + 4))
  put32 req (nlaXdp + nlaHdrlen) value

/-- Adds an attribute to the nested one at `nla`, after what it already has. -/
def addXdpAttr (req : List Byte) (nla type : Nat) (value : BitVec 32) : List Byte :=
  let nlaXdp := nla + nlaLen req nla
  let req := putXdpAttr req nlaXdp type value
  put16 req nla (BitVec.ofNat 16 (nlaLen req nla + nlaLen req nlaXdp))

/-- The request of `bpf_set_link_xdp_fd`, as `send` is given it. -/
def setLinkRequest (ifindex fd flags : BitVec 32) : List Byte :=
  let req := setLinkHeader ifindex
  let nla := alignUp (nlmsgLen req 0).toNat
  let req := put16 req (nla + 2) (nlaFNested ||| BitVec.ofNat 16 iflaXdp)
  let req := put16 req nla (BitVec.ofNat 16 nlaHdrlen)
  let req := addXdpAttr req nla iflaXdpFd fd
  let req := if flags ≠ 0 then addXdpAttr req nla iflaXdpFlags flags else req
  let req := put32 req 0 (nlmsgLen req 0 + BitVec.ofNat 32 (alignUp (nlaLen req nla)))
  req.take (nlmsgLen req 0).toNat

/-- The messages sent, and the result unless the call is still waiting. -/
def bpfSetLinkXdpFd (env : NlEnv) (ifindex fd flags : BitVec 32) : List (List Byte) × Option Int :=
  match env.opened with
  | .error ret => ([], some ret)
  | .ok nlPid =>
    match env.sendErrno with
    | some errno => ([], some (-errno))
    | none =>
      ([setLinkRequest ifindex fd flags],
        (bpfNetlinkRecv nlPid 1 (none : Option (DumpFn Unit)) env.stack () env.replies).2)

/-! ### Asking for a program -/

/-- The callback on a message of a dump of links. -/
def dumpLinkNlmsg {σ : Type} (dumpLink : List Byte → Nat → NlaTable → σ → σ × Int) : DumpFn σ :=
  fun buf nlh cookie =>
    let ifi := nlmsgData nlh
    let len := (nlmsgLen buf nlh - BitVec.ofNat 32 (nlmsgLength sizeofIfinfomsg)).toInt
    let attr := ifi + sizeofIfinfomsg
    let (tb, err) := libbpfNlaParse buf iflaMax none attr len
    if err ≠ 0 then (cookie, errNlparse) else dumpLink buf ifi tb cookie

structure XdpIdMd where
  ifindex : BitVec 32
  flags : BitVec 32
  id : BitVec 32
deriving DecidableEq, Repr

-- XDP_ATTACHED_NONE and XDP_ATTACHED_MULTI
def xdpAttachedNone : Byte := 0

def xdpAttachedMulti : Byte := 4

def iflaXdpProgId : Nat := 4

def iflaXdpDrvProgId : Nat := 5

def iflaXdpSkbProgId : Nat := 6

def iflaXdpHwProgId : Nat := 7

def getXdpIdAttr (mode : Byte) (flags : BitVec 32) : Nat :=
  if mode ≠ xdpAttachedMulti then iflaXdpProgId
  else if flags &&& xdpFlagsDrvMode ≠ 0 then iflaXdpDrvProgId
  else if flags &&& xdpFlagsHwMode ≠ 0 then iflaXdpHwProgId
  else if flags &&& xdpFlagsSkbMode ≠ 0 then iflaXdpSkbProgId
  else 0

def getXdpId (buf : List Byte) (ifinfo : Nat) (tb : NlaTable) (xdpId : XdpIdMd) : XdpIdMd × Int :=
  if xdpId.ifindex ≠ 0 ∧ xdpId.ifindex ≠ ifiIndex buf ifinfo then (xdpId, 0)
  else
    match tb iflaXdp with
    | none => (xdpId, 0)
    | some nla =>
      let (xdpTb, ret) := libbpfNlaParseNested buf iflaXdpMax none nla
      if ret ≠ 0 then (xdpId, ret)
      else
        match xdpTb iflaXdpAttached with
        | none => (xdpId, 0)
        | some attached =>
          let mode := libbpfNlaGetattrU8 buf attached
          if mode = xdpAttachedNone then (xdpId, 0)
          else
            let xdpAttr := getXdpIdAttr mode xdpId.flags
            if xdpAttr = 0 then (xdpId, 0)
            else
              match xdpTb xdpAttr with
              | none => (xdpId, 0)
              | some id => ({ xdpId with id := libbpfNlaGetattrU32 buf id }, 0)

/-- The request of `libbpf_nl_get_link`. -/
def getLinkRequest (seq : BitVec 32) : List Byte :=
  let req := List.replicate (nlmsgHdrlen + sizeofIfinfomsg) 0
  let req := put32 req 0 (BitVec.ofNat 32 (nlmsgLength sizeofIfinfomsg))
  let req := put16 req 4 rtmGetlink
  let req := put16 req 6 (nlmFDump ||| nlmFRequest)
  let req := putBytes req 16 [afPacket]
  let req := put32 req 8 seq
  req.take (nlmsgLen req 0).toNat

def libbpfNlGetLink {σ : Type} (env : NlEnv) (nlPid : BitVec 32)
    (dumpLink : List Byte → Nat → NlaTable → σ → σ × Int) (cookie : σ) :
    List (List Byte) × σ × Option Int :=
  let seq := env.time
  match env.sendErrno with
  | some errno => ([], cookie, some (-errno))
  | none =>
    ([getLinkRequest seq],
      bpfNetlinkRecv nlPid seq (some (dumpLinkNlmsg dumpLink)) env.stack cookie env.replies)

/-- The messages sent, and what is stored in `prog_id` or the error that is returned, unless the
call is still waiting. -/
def bpfGetLinkXdpId (env : NlEnv) (ifindex flags : BitVec 32) :
    List (List Byte) × Option (Except Int (BitVec 32)) :=
  if flags &&& ~~~xdpFlagsMask ≠ 0 then ([], some (.error errInval))
  else
    let flags := flags &&& (xdpFlagsSkbMode ||| xdpFlagsDrvMode ||| xdpFlagsHwMode)
    let mask := flags - 1
    if flags ≠ 0 ∧ flags &&& mask ≠ 0 then ([], some (.error errInval))
    else
      match env.opened with
      | .error ret => ([], some (.error ret))
      | .ok nlPid =>
        match libbpfNlGetLink env nlPid getXdpId ⟨ifindex, flags, 0⟩ with
        | (sent, _, none) => (sent, none)
        | (sent, xdpId, some ret) => (sent, some (if ret = 0 then .ok xdpId.id else .error ret))

end SyncookieXdp.Netlink
