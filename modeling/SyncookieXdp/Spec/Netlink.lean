import Mathlib.Algebra.GroupWithZero.Nat
import SyncookieXdp.Model.Link
import SyncookieXdp.Model.Netlink

/-!
# Attributes and messages as the kernel means them

The abstract side of the wire format. An attribute is a type and a payload, a message has a
header and a body, and a link message reports what stands on an interface. `encode` gives the
octets of each.
-/

namespace SyncookieXdp.Netlink
open Lib

def octets16 (v : BitVec 16) : List Byte := [octet v 0, octet v 1]

def octets32 (v : BitVec 32) : List Byte := [octet v 0, octet v 1, octet v 2, octet v 3]

@[simp] lemma length_octets16 (v : BitVec 16) : (octets16 v).length = 2 := rfl

@[simp] lemma length_octets32 (v : BitVec 32) : (octets32 v).length = 4 := rfl

/-- The octets of an attribute. -/
def attrOctets (field : BitVec 16) (payload : List Byte) : List Byte :=
  octets16 (BitVec.ofNat 16 (nlaHdrlen + payload.length)) ++ (octets16 field ++ payload)

/-- The type field is kept with its two flags. -/
structure Attr where
  field : BitVec 16
  payload : List Byte
  short : nlaHdrlen + payload.length < 2 ^ 16

namespace Attr

def type (a : Attr) : Nat := (a.field &&& nlaTypeMask).toNat

def encode (a : Attr) : List Byte := attrOctets a.field a.payload

/-- What a policy asks of an attribute. -/
def Meets (a : Attr) (pt : LibbpfNlaPolicy) : Prop :=
  match pt.type with
  | .beyond _ => True
  | _ =>
    pt.minimum ≤ a.payload.length ∧ (pt.maxlen = 0 ∨ a.payload.length ≤ pt.maxlen.toNat) ∧
      (pt.type = .string → byteAt a.payload (a.payload.length - 1) = 0)

def Accepted (policy : Option (Nat → LibbpfNlaPolicy)) (a : Attr) : Prop :=
  ∀ p, policy = some p → a.Meets (p a.type)

end Attr

/-- An attribute that holds a number of four octets. -/
def attr32 (type : Nat) (v : BitVec 32) : Attr := ⟨BitVec.ofNat 16 type, octets32 v, by simp [nlaHdrlen]⟩

@[simp] lemma payload_attr32 (type : Nat) (v : BitVec 32) : (attr32 type v).payload = octets32 v := rfl

def encodeAttrs (as : List Attr) : List Byte := stream (as.map Attr.encode)

def lastOf (as : List Attr) (type : Nat) : Option Attr := (as.filter (fun a => a.type = type)).getLast?

structure Message where
  type : BitVec 16
  flags : BitVec 16
  seq : BitVec 32
  pid : BitVec 32
  body : List Byte
  short : nlmsgHdrlen + body.length < 2 ^ 31

namespace Message

def length (m : Message) : Nat := nlmsgHdrlen + m.body.length

def encode (m : Message) : List Byte :=
  octets32 (BitVec.ofNat 32 m.length) ++ (octets16 m.type ++ (octets16 m.flags ++
    (octets32 m.seq ++ (octets32 m.pid ++ m.body))))

end Message

def encodeMessages (ms : List Message) : List Byte := stream (ms.map Message.encode)

/-! ### Dumps -/

section

variable (nlPid seq : BitVec 32)

/-- A message of a dump other than the one that ends it. -/
structure Content (m : Message) : Prop where
  pid : m.pid = nlPid
  seq_eq : m.seq = seq
  multi : m.flags &&& nlmFMulti ≠ 0
  not_error : m.type ≠ nlmsgError
  not_done : m.type ≠ nlmsgDone

/-- The message that ends a dump. -/
structure Closing (m : Message) : Prop where
  pid : m.pid = nlPid
  seq_eq : m.seq = seq
  done : m.type = nlmsgDone

/-- A dump as it is sent: the messages in datagrams that fit into the buffer, the closing one
at the end of the last datagram. -/
structure Dump where
  chunks : List (List Message)
  last : List Message
  closing : Message
  chunks_ne : ∀ c ∈ chunks, c ≠ []
  chunks_fit : ∀ c ∈ chunks, (encodeMessages c).length ≤ recvBufferSize
  last_fit : (encodeMessages (last ++ [closing])).length ≤ recvBufferSize
  content : ∀ m ∈ chunks.flatten ++ last, Content nlPid seq m
  closes : Closing nlPid seq closing

variable {nlPid seq}

def Dump.messages (d : Dump nlPid seq) : List Message := d.chunks.flatten ++ d.last

def Dump.replies (d : Dump nlPid seq) : List Reply :=
  d.chunks.map (fun c => .datagram (encodeMessages c)) ++ [.datagram (encodeMessages (d.last ++ [d.closing]))]

end

/-- An answer that is only an error code, zero for success. -/
structure Ack (nlPid seq error : BitVec 32) (m : Message) : Prop where
  pid : m.pid = nlPid
  seq_eq : m.seq = seq
  single : m.flags &&& nlmFMulti = 0
  is_error : m.type = nlmsgError
  body : ∃ rest, m.body = octets32 error ++ rest

/-! ### Requests to set a program -/

/-- `struct ifinfomsg` with nothing but the index. -/
def ifinfo (index : BitVec 32) : List Byte := octets32 0 ++ (octets32 index ++ (octets32 0 ++ octets32 0))

def setLinkAttrs (fd flags : BitVec 32) : List Attr :=
  attr32 iflaXdpFd fd :: if flags = 0 then [] else [attr32 iflaXdpFlags flags]

lemma encodeAttrs_attr32 (type : Nat) (v : BitVec 32) (as : List Attr) :
    encodeAttrs (attr32 type v :: as) =
      octets16 8 ++ (octets16 (BitVec.ofNat 16 type) ++ (octets32 v ++ encodeAttrs as)) := by
  simp [encodeAttrs, stream, Attr.encode, attrOctets, attr32, alignUp, nlaHdrlen]

lemma length_setLinkAttrs (fd flags : BitVec 32) :
    (encodeAttrs (setLinkAttrs fd flags)).length = if flags = 0 then 8 else 16 := by
  unfold setLinkAttrs
  rw [encodeAttrs_attr32]
  split
  · rfl
  · rw [encodeAttrs_attr32]
    rfl

/-- The one attribute of a request to set a program. -/
def setLinkAttr (fd flags : BitVec 32) : Attr where
  field := nlaFNested ||| BitVec.ofNat 16 iflaXdp
  payload := encodeAttrs (setLinkAttrs fd flags)
  short := by
    rw [length_setLinkAttrs]
    split <;> decide

def setLinkMessage (ifindex fd flags : BitVec 32) : Message where
  type := rtmSetlink
  flags := nlmFRequest ||| nlmFAck
  seq := 1
  pid := 0
  body := ifinfo ifindex ++ (setLinkAttr fd flags).encode
  short := by
    have hlen := length_setLinkAttrs fd flags
    simp only [nlmsgHdrlen, ifinfo, Attr.encode, attrOctets, setLinkAttr, List.length_append, length_octets16,
      length_octets32, hlen]
    split <;> decide

/-- What a receiver reads out of a request to set a program: the interface, the descriptor and
the flags, which are zero if they are missing. -/
def decodeSetLink (msg : List Byte) : Option (BitVec 32 × LinkRequest) :=
  if nlmsgLen msg 0 = BitVec.ofNat 32 msg.length ∧ nlmsgType msg 0 = rtmSetlink then do
    let tb := (libbpfNlaParse msg iflaMax none (nlmsgData 0 + sizeofIfinfomsg)
      (msg.length - nlmsgLength sizeofIfinfomsg)).1
    let nla ← tb iflaXdp
    let xdpTb := (libbpfNlaParseNested msg iflaXdpMax none nla).1
    let fd ← xdpTb iflaXdpFd
    let flags := (xdpTb iflaXdpFlags).map (libbpfNlaGetattrU32 msg)
    return (ifiIndex msg (nlmsgData 0), .setLink (libbpfNlaGetattrU32 msg fd).toInt (flags.getD 0))
  else none

/-! ### Reports on an interface -/

/-- `XDP_ATTACHED_*`. -/
def attachedCode : XdpAttached → Byte
  | .none => 0
  | .drv => 1
  | .skb => 2
  | .hw => 3
  | .multi => 4

/-- `IFLA_XDP_*`. -/
def idAttrType : XdpIdAttr → Nat
  | .unspec => 0
  | .progId => iflaXdpProgId
  | .drvProgId => iflaXdpDrvProgId
  | .hwProgId => iflaXdpHwProgId
  | .skbProgId => iflaXdpSkbProgId

/-- The attributes inside `IFLA_XDP`, in whatever order and among whatever others. -/
structure XdpReport (i : Interface) (as : List Attr) : Prop where
  attached : (lastOf as iflaXdpAttached).map Attr.payload = some [attachedCode (xdpAttached i)]
  ids : ∀ attr, attr ≠ .unspec →
    (lastOf as (idAttrType attr)).map Attr.payload = (xdpIdValue i attr).map octets32

/-- A link as a dump lists it. Without `IFLA_XDP` there is no program. -/
structure Link where
  family : BitVec 32
  index : BitVec 32
  flags : BitVec 32
  change : BitVec 32
  iface : Interface
  attrs : List Attr
  report : ∀ a, lastOf attrs iflaXdp = some a →
    ∃ nested, a.payload = encodeAttrs nested ∧ XdpReport iface nested
  unreported : lastOf attrs iflaXdp = none → xdpAttached iface = .none

def Link.body (l : Link) : List Byte :=
  octets32 l.family ++ (octets32 l.index ++ (octets32 l.flags ++ (octets32 l.change ++
    encodeAttrs l.attrs)))

/-- What the datagrams tell about an interface: the number with which the kernel refuses, or zero
and the state of the interface. -/
inductive Tells (nlPid seq ifindex : BitVec 32) (i : Interface) : List Reply → Int → Prop
  | refused {error : BitVec 32} {m : Message} (later : List Reply) (ack : Ack nlPid seq error m)
      (fits : (encodeMessages [m]).length ≤ recvBufferSize) (negative : error.toInt < 0) :
      Tells nlPid seq ifindex i (.datagram (encodeMessages [m]) :: later) error.toInt
  | dump (d : Dump nlPid seq) {links : List Link} {l : Link} (later : List Reply)
      (lists : List.Forall₂ (fun m l => Message.body m = Link.body l) d.messages links)
      (distinct : (links.map Link.index).Nodup) (mem : l ∈ links) (index : l.index = ifindex)
      (iface : l.iface = i) :
      Tells nlPid seq ifindex i (d.replies ++ later) 0

end SyncookieXdp.Netlink
