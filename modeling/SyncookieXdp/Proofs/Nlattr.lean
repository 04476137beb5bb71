import SyncookieXdp.Spec.Netlink

/-!
# The attribute parser

`libbpf_nla_parse` on arbitrary octets, where it never leaves its stream, and on the octets
of a list of attributes, where it finds the last attribute of each type.
-/

namespace SyncookieXdp.Netlink
open Lib

/-! ### Arbitrary octets -/

def nlaFraming : Framing where
  header := nlaHdrlen
  size := nlaLen
  header_pos := by decide
  size_congr := by
    intro f g i j h
    have hlen : u16At f i = u16At g j := h.u16At_eq (k := 0) (by decide)
    rw [nlaLen, nlaLen, hlen]

lemma forEachAttr_eq_walk (buf : List Byte) (pos : Nat) (rem : Int) :
    libbpfNlaForEachAttr buf pos rem = nlaFraming.walk buf pos rem.toNat := by
  fun_induction libbpfNlaForEachAttr buf pos rem with
  | case1 pos rem hok totlen ih =>
    have hiff : nlaFraming.header ≤ rem.toNat ∧ nlaFraming.header ≤ nlaFraming.size buf pos ∧
        nlaFraming.size buf pos ≤ rem.toNat := by
      simp only [nlaOk, nlaHdrlen] at hok
      simp only [nlaFraming, nlaHdrlen]
      omega
    rw [Framing.walk, if_pos hiff, ih]
    congr 2
    change (rem - (alignUp (nlaLen buf pos) : Int)).toNat = rem.toNat - alignUp (nlaLen buf pos)
    omega
  | case2 pos rem hno =>
    rw [Framing.walk, if_neg]
    rintro ⟨hrem, hhdr, hsize⟩
    apply hno
    simp only [nlaFraming, nlaHdrlen] at hrem hhdr hsize
    simp only [nlaOk, nlaHdrlen]
    omega

/-- The attribute that a header at `nla` announces. -/
def attrAt (buf : List Byte) (nla : Nat) : Attr where
  field := u16At buf (nla + 2)
  payload := bytesAt buf (libbpfNlaData nla) (nlaLen buf nla - nlaHdrlen)
  short := by
    have := (u16At buf nla).isLt
    rw [length_bytesAt, nlaLen, nlaHdrlen]
    omega

lemma type_attrAt (buf : List Byte) (nla : Nat) : (attrAt buf nla).type = nlaType buf nla := rfl

lemma attrAt_congr {f g : List Byte} {nla : Nat} (hhdr : nlaHdrlen ≤ nlaLen f nla)
    (h : SameOctets f nla g nla (nlaLen f nla)) : attrAt f nla = attrAt g nla := by
  have hlen : nlaLen f nla = nlaLen g nla := nlaFraming.size_congr (h.mono hhdr)
  unfold nlaHdrlen at hhdr
  have hfield : u16At f (nla + 2) = u16At g (nla + 2) := h.u16At_eq (by omega)
  have hpayload : bytesAt f (libbpfNlaData nla) (nlaLen f nla - nlaHdrlen) =
      bytesAt g (libbpfNlaData nla) (nlaLen f nla - nlaHdrlen) := by
    apply bytesAt_congr
    intro k hk
    simp only [libbpfNlaData, nlaHdrlen] at hk ⊢
    rw [Nat.add_assoc]
    exact h (4 + k) (by omega)
  rw [hlen] at hpayload
  simp only [attrAt, hfield, hpayload, hlen]

lemma minimum_pos_of_string {pt : LibbpfNlaPolicy} (h : pt.type = .string) : 0 < pt.minimum := by
  unfold LibbpfNlaPolicy.minimum
  split
  · rename_i hmin
    exact Nat.pos_of_ne_zero (fun hzero => hmin (BitVec.eq_of_toNat_eq hzero))
  · simp [h, nlaAttrMinlen]

/-- The octet that is compared with `NUL` is the last one of the payload. -/
lemma last_octet_attrAt {buf : List Byte} {nla : Nat} (h : nlaHdrlen < nlaLen buf nla) :
    byteAt buf (libbpfNlaData nla + libbpfNlaLen buf nla - 1).toNat =
      byteAt (attrAt buf nla).payload ((attrAt buf nla).payload.length - 1) := by
  have hpos : (libbpfNlaData nla + libbpfNlaLen buf nla - 1 : Int).toNat =
      libbpfNlaData nla + (nlaLen buf nla - nlaHdrlen - 1) := by
    simp only [libbpfNlaData, libbpfNlaLen, nlaHdrlen] at h ⊢
    omega
  have hlen : nlaLen buf nla - nlaHdrlen - 1 < nlaLen buf nla - nlaHdrlen := by omega
  rw [hpos]
  simp [attrAt, bytesAt, byteAt, hlen]

lemma meets_of_beyond {a : Attr} {pt : LibbpfNlaPolicy} {n : BitVec 16} (h : pt.type = .beyond n) :
    a.Meets pt := by
  simp only [Attr.Meets, h]

lemma meets_iff {a : Attr} {pt : LibbpfNlaPolicy} (h : ∀ n, pt.type ≠ .beyond n) :
    a.Meets pt ↔ pt.minimum ≤ a.payload.length ∧
      (pt.maxlen = 0 ∨ a.payload.length ≤ pt.maxlen.toNat) ∧
        (pt.type = .string → byteAt a.payload (a.payload.length - 1) = 0) := by
  unfold Attr.Meets
  split
  · rename_i n hn
    exact absurd hn (h n)
  · exact Iff.rfl

section

variable (buf : List Byte) (nla maxtype : Nat)

lemma validateNla_neg_iff (policy : Nat → LibbpfNlaPolicy) (hhdr : nlaHdrlen ≤ nlaLen buf nla)
    (htype : nlaType buf nla ≤ maxtype) :
    validateNla buf nla maxtype policy < 0 ↔ ¬(attrAt buf nla).Meets (policy (attrAt buf nla).type) := by
  rw [type_attrAt]
  unfold validateNla
  dsimp only
  rw [if_neg (Nat.not_lt.mpr htype)]
  generalize policy (nlaType buf nla) = pt
  have hlen : libbpfNlaLen buf nla = (attrAt buf nla).payload.length := by
    simp only [libbpfNlaLen, attrAt, length_bytesAt]
    omega
  split
  · rename_i n hn
    simp [meets_of_beyond hn]
  · rename_i hknown
    rw [meets_iff (fun n hn => hknown n hn)]
    by_cases hmin : (attrAt buf nla).payload.length < pt.minimum
    · rw [if_pos (by omega)]
      exact iff_of_true (by decide) (fun h => absurd h.1 (by omega))
    · rw [if_neg (by omega)]
      by_cases hmax : pt.maxlen ≠ 0 ∧ pt.maxlen.toNat < (attrAt buf nla).payload.length
      · rw [if_pos ⟨hmax.1, by omega⟩]
        exact iff_of_true (by decide) (fun h => h.2.1.elim hmax.1 (by omega))
      · have hfits : pt.maxlen = 0 ∨ (attrAt buf nla).payload.length ≤ pt.maxlen.toNat := by
          by_contra hno
          obtain ⟨hne, hlong⟩ := not_or.mp hno
          exact hmax ⟨hne, by omega⟩
        rw [if_neg (fun h => hmax ⟨h.1, by omega⟩)]
        by_cases hstring : pt.type = .string
        · -- a string has at least one octet, so the octet before its end is its own
          have hpos := minimum_pos_of_string hstring
          have hlong : nlaHdrlen < nlaLen buf nla := by
            have : (attrAt buf nla).payload.length = nlaLen buf nla - nlaHdrlen := length_bytesAt ..
            omega
          rw [last_octet_attrAt hlong]
          by_cases hnul : byteAt (attrAt buf nla).payload ((attrAt buf nla).payload.length - 1) = 0
          · rw [if_neg (fun h => h.2 hnul)]
            exact iff_of_false (by decide) (fun h => h ⟨by omega, hfits, fun _ => hnul⟩)
          · rw [if_pos ⟨hstring, hnul⟩]
            exact iff_of_true (by decide) (fun h => hnul (h.2.2 hstring))
        · rw [if_neg (fun h => hstring h.1)]
          exact iff_of_false (by decide) (fun h => h ⟨by omega, hfits, fun hs => absurd hs hstring⟩)

lemma validateNla_eq_of_neg {policy : Nat → LibbpfNlaPolicy}
    (h : validateNla buf nla maxtype policy < 0) : validateNla buf nla maxtype policy = -1 := by
  revert h
  unfold validateNla
  dsimp only
  split
  · decide
  · split
    · decide
    · split_ifs <;> decide

open Classical in
/-- The body of the loop in terms of the attribute it looks at. -/
lemma nlaIndexOne_eq (policy : Option (Nat → LibbpfNlaPolicy)) (hhdr : nlaHdrlen ≤ nlaLen buf nla)
    (tb : NlaTable) :
    nlaIndexOne buf maxtype policy tb nla =
      if maxtype < (attrAt buf nla).type then (tb, none)
      else if (attrAt buf nla).Accepted policy then
        (Function.update tb (attrAt buf nla).type (some nla), none)
      else (tb, some (-1)) := by
  rw [type_attrAt]
  unfold nlaIndexOne
  dsimp only
  by_cases htype : maxtype < nlaType buf nla
  · rw [if_pos htype, if_pos htype]
  · rw [if_neg htype, if_neg htype]
    cases policy with
    | none =>
      have hok : (attrAt buf nla).Accepted none := fun p h => nomatch h
      rw [if_pos hok]
      rfl
    | some policy =>
      have hiff := validateNla_neg_iff buf nla maxtype policy hhdr (by omega)
      by_cases hbad : validateNla buf nla maxtype policy < 0
      · have hno : ¬(attrAt buf nla).Accepted (some policy) := fun h => hiff.mp hbad (h policy rfl)
        dsimp only
        rw [if_pos hbad, if_neg hno, validateNla_eq_of_neg buf nla maxtype hbad]
      · have hok : (attrAt buf nla).Accepted (some policy) := by
          rintro _ ⟨⟩
          exact not_not.mp (fun h => hbad (hiff.mpr h))
        simp only [if_neg hbad, if_pos hok]

end

/-! ### The whole loop -/

section

variable (buf : List Byte) (maxtype : Nat) (policy : Option (Nat → LibbpfNlaPolicy))

/-- Every attribute of a type that is looked for is accepted. -/
def AllAccepted (as : List Attr) : Prop := ∀ a ∈ as, a.type ≤ maxtype → a.Accepted policy

variable {buf maxtype policy}

lemma index_of_allAccepted {ps : List Nat} (hhdr : ∀ p ∈ ps, nlaHdrlen ≤ nlaLen buf p)
    (hall : AllAccepted maxtype policy (ps.map (attrAt buf))) (tb : NlaTable) :
    untilStop (nlaIndexOne buf maxtype policy) tb ps =
      (fun t => if t ≤ maxtype then
          ((ps.filter (fun p => (attrAt buf p).type = t)).getLast?).or (tb t)
        else tb t, none) := by
  induction ps generalizing tb with
  | nil => simp [untilStop]
  | cons p ps ih =>
    have hp := hhdr p (List.mem_cons_self ..)
    have hrest := ih (fun q hq => hhdr q (List.mem_cons_of_mem _ hq))
      (fun a ha => hall a (List.mem_cons_of_mem _ ha))
    rw [untilStop, nlaIndexOne_eq buf p maxtype policy hp]
    by_cases htype : maxtype < (attrAt buf p).type
    · simp only [if_pos htype, hrest]
      congr 1
      funext t
      by_cases ht : t ≤ maxtype
      · rw [if_pos ht, if_pos ht, List.filter_cons_of_neg (by simp only [decide_eq_true_eq]; omega)]
      · rw [if_neg ht, if_neg ht]
    · have hok := hall _ (List.mem_cons_self ..) (by omega)
      simp only [if_neg htype, if_pos hok, hrest]
      congr 1
      funext t
      by_cases ht : t ≤ maxtype
      · rw [if_pos ht, if_pos ht]
        by_cases heq : (attrAt buf p).type = t
        · rw [List.filter_cons_of_pos (by simpa using heq), List.getLast?_cons, ← heq,
            Function.update_self]
          cases (ps.filter (fun q => (attrAt buf q).type = (attrAt buf p).type)).getLast? <;> rfl
        · rw [List.filter_cons_of_neg (by simpa using heq), Function.update_of_ne (Ne.symm heq)]
      · rw [if_neg ht, if_neg ht, Function.update_of_ne (by omega)]

lemma index_of_not_allAccepted {ps : List Nat} (hhdr : ∀ p ∈ ps, nlaHdrlen ≤ nlaLen buf p)
    (hno : ¬AllAccepted maxtype policy (ps.map (attrAt buf))) (tb : NlaTable) :
    (untilStop (nlaIndexOne buf maxtype policy) tb ps).2 = some (-1) := by
  induction ps generalizing tb with
  | nil => exact absurd (fun a ha => nomatch ha) hno
  | cons p ps ih =>
    have hp := hhdr p (List.mem_cons_self ..)
    have hrest := fun hno => ih (fun q hq => hhdr q (List.mem_cons_of_mem _ hq)) hno
    rw [untilStop, nlaIndexOne_eq buf p maxtype policy hp]
    by_cases hok : (attrAt buf p).type ≤ maxtype → (attrAt buf p).Accepted policy
    · have hno' : ¬AllAccepted maxtype policy (ps.map (attrAt buf)) := by
        intro hall
        apply hno
        intro a ha htype
        rcases List.mem_cons.mp ha with rfl | ha
        · exact hok htype
        · exact hall a ha htype
      by_cases htype : maxtype < (attrAt buf p).type
      · simp only [if_pos htype, hrest hno']
      · simp only [if_neg htype, if_pos (hok (by omega)), hrest hno']
    · obtain ⟨htype, hbad⟩ := Classical.not_imp.mp hok
      simp only [if_neg (Nat.not_lt.mpr htype), if_neg hbad]

end

lemma inside_of_mem_forEachAttr {buf : List Byte} {head p : Nat} {len : Int}
    (h : p ∈ libbpfNlaForEachAttr buf head len) :
    head ≤ p ∧ nlaHdrlen ≤ nlaLen buf p ∧ (p + nlaLen buf p : Int) ≤ head + len := by
  rw [forEachAttr_eq_walk] at h
  obtain ⟨hhead, hhdr, hend⟩ := Framing.inside_of_mem_walk h
  simp only [nlaFraming, nlaHdrlen] at hhdr hend ⊢
  omega

/-- An entry of the index: an attribute of that type, inside the stream, as the policy wants
it. -/
structure Entry (buf : List Byte) (maxtype : Nat) (policy : Option (Nat → LibbpfNlaPolicy))
    (head : Nat) (len : Int) (type nla : Nat) : Prop where
  known : type ≤ maxtype
  type_eq : (attrAt buf nla).type = type
  accepted : (attrAt buf nla).Accepted policy
  head_le : head ≤ nla
  header : nlaHdrlen ≤ nlaLen buf nla
  end_le : (nla + nlaLen buf nla : Int) ≤ head + len

lemma entry_of_parse {buf : List Byte} {maxtype : Nat} {policy : Option (Nat → LibbpfNlaPolicy)}
    {head : Nat} {len : Int} {t p : Nat}
    (h : (libbpfNlaParse buf maxtype policy head len).1 t = some p) :
    Entry buf maxtype policy head len t p := by
  refine untilStop_invariant
    (P := fun tb : NlaTable => ∀ t p, tb t = some p → Entry buf maxtype policy head len t p) ?_
    (by simp) t p h
  intro tb nla hnla htb t p
  obtain ⟨hhead, hhdr, hend⟩ := inside_of_mem_forEachAttr hnla
  rw [nlaIndexOne_eq buf nla maxtype policy hhdr]
  split_ifs with htype hok
  · exact htb t p
  · intro hp
    dsimp only at hp
    by_cases ht : t = (attrAt buf nla).type
    · subst ht
      rw [Function.update_self] at hp
      cases hp
      exact ⟨by omega, rfl, hok, hhead, hhdr, hend⟩
    · rw [Function.update_of_ne ht] at hp
      exact htb t p hp
  · exact htb t p

/-- Whatever the octets are, the parser only hands out attributes that lie inside its stream and
are as they were asked for, and its result does not depend on any octet outside, although the
loop may look at a header there. -/
theorem parse_stays_inside {f g : List Byte} {head : Nat} {len : Int}
    (h : SameOctets f head g head len.toNat) (maxtype : Nat)
    (policy : Option (Nat → LibbpfNlaPolicy)) :
    libbpfNlaParse f maxtype policy head len = libbpfNlaParse g maxtype policy head len ∧
      ∀ t p, (libbpfNlaParse f maxtype policy head len).1 t = some p →
        Entry f maxtype policy head len t p := by
  refine ⟨?_, fun _ _ => entry_of_parse⟩
  have hvisited : libbpfNlaForEachAttr f head len = libbpfNlaForEachAttr g head len := by
    rw [forEachAttr_eq_walk, forEachAttr_eq_walk, Framing.walk_congr h]
  have hbody : ∀ tb, ∀ p ∈ libbpfNlaForEachAttr f head len,
      nlaIndexOne f maxtype policy tb p = nlaIndexOne g maxtype policy tb p := by
    intro tb p hp
    obtain ⟨hhead, hhdr, hend⟩ := inside_of_mem_forEachAttr hp
    have hattr : SameOctets f p g p (nlaLen f p) := by
      have hshift := h.shift (d := p - head) (m := nlaLen f p) (by omega)
      rwa [Nat.add_sub_cancel' hhead] at hshift
    have hlen : nlaLen f p = nlaLen g p := nlaFraming.size_congr (hattr.mono hhdr)
    rw [nlaIndexOne_eq f p maxtype policy hhdr, nlaIndexOne_eq g p maxtype policy (hlen ▸ hhdr),
      attrAt_congr hhdr hattr]
  unfold libbpfNlaParse
  rw [← hvisited, untilStop_congr hbody]

/-- A program in generic mode, as the kernel reports it. -/
def genericReport : List Attr :=
  [attr32 iflaXdpSkbProgId 7, ⟨BitVec.ofNat 16 iflaXdpAttached, [2], by decide⟩, attr32 iflaXdpProgId 7]

theorem parse_stays_inside_stale :
    libbpfNlaParse (encodeAttrs genericReport ++ [8, 0, 2]) iflaXdpMax none 0
        (encodeAttrs genericReport).length =
      libbpfNlaParse (encodeAttrs genericReport) iflaXdpMax none 0 (encodeAttrs genericReport).length := by
  have hsame : SameOctets (encodeAttrs genericReport ++ [8, 0, 2]) 0 (encodeAttrs genericReport) 0
      ((encodeAttrs genericReport).length : Int).toNat := holds_append_left _ _
  exact (parse_stays_inside hsame iflaXdpMax none).1

/-! ### Encoded attributes -/

lemma u16At_of_holds {buf : List Byte} {pos : Nat} {v : BitVec 16} (h : Holds buf pos (octets16 v)) :
    u16At buf pos = v :=
  (h.u16At_eq (k := 0) (by simp)).trans (le16_octet v)

lemma u32At_of_holds {buf : List Byte} {pos : Nat} {v : BitVec 32} (h : Holds buf pos (octets32 v)) :
    u32At buf pos = v :=
  (h.u32At_eq (k := 0) (by simp)).trans (le32_octet v)

lemma bytesAt_of_holds {buf r : List Byte} {pos : Nat} (h : Holds buf pos r) :
    bytesAt buf pos r.length = r := by
  apply List.ext_getElem (length_bytesAt ..)
  intro k _ hk
  simp only [bytesAt, List.getElem_map, List.getElem_range]
  rw [h.byteAt_eq hk, byteAt_eq_getElem hk]

lemma length_encode (a : Attr) : a.encode.length = nlaHdrlen + a.payload.length := by
  simp only [Attr.encode, attrOctets, List.length_append, length_octets16, nlaHdrlen]
  omega

lemma nlaLen_of_holds {buf : List Byte} {pos : Nat} {a : Attr} (h : Holds buf pos a.encode) :
    nlaLen buf pos = a.encode.length := by
  rw [nlaLen, u16At_of_holds h.left, BitVec.toNat_ofNat, Nat.mod_eq_of_lt a.short, length_encode]

lemma attrAt_of_holds {buf : List Byte} {pos : Nat} {a : Attr} (h : Holds buf pos a.encode) :
    attrAt buf pos = a := by
  have hlen := nlaLen_of_holds h
  rw [length_encode] at hlen
  have hfield : u16At buf (pos + 2) = a.field := u16At_of_holds h.right.left
  have hpayload : bytesAt buf (libbpfNlaData pos) a.payload.length = a.payload :=
    bytesAt_of_holds h.right.right
  obtain ⟨field, payload, short⟩ := a
  simp only [attrAt, hlen, Nat.add_sub_cancel_left, hfield, hpayload]

lemma framed_encode (a : Attr) : nlaFraming.Framed a.encode := by
  refine ⟨?_, ?_⟩
  · rw [length_encode]
    exact Nat.le_add_right ..
  · exact nlaLen_of_holds (SameOctets.refl _ _ _)

lemma attrs_of_encoded {buf : List Byte} {head : Nat} {as : List Attr}
    (h : Holds buf head (encodeAttrs as)) :
    (libbpfNlaForEachAttr buf head (encodeAttrs as).length).map (attrAt buf) = as := by
  rw [forEachAttr_eq_walk, Int.toNat_natCast]
  have hframed : ∀ r ∈ as.map Attr.encode, nlaFraming.Framed r := by
    intro r hr
    obtain ⟨a, -, rfl⟩ := List.mem_map.mp hr
    exact framed_encode a
  have hwalk : List.Forall₂ (fun p r => Holds buf p r)
      (nlaFraming.walk buf head (encodeAttrs as).length) (as.map Attr.encode) :=
    Framing.walk_stream hframed h
  rw [List.forall₂_map_right_iff] at hwalk
  have hattrs : List.Forall₂ (fun p a => attrAt buf p = a) _ as := hwalk.imp (fun _ _ => attrAt_of_holds)
  rw [← List.forall₂_eq_eq_eq]
  exact List.forall₂_map_left_iff.mpr hattrs

lemma parse_of_allAccepted {buf : List Byte} {head : Nat} {as : List Attr}
    (h : Holds buf head (encodeAttrs as)) {maxtype : Nat} {policy : Option (Nat → LibbpfNlaPolicy)}
    (hall : AllAccepted maxtype policy as) :
    (libbpfNlaParse buf maxtype policy head (encodeAttrs as).length).2 = 0 ∧
      ∀ t, ((libbpfNlaParse buf maxtype policy head (encodeAttrs as).length).1 t).map (attrAt buf) =
        if t ≤ maxtype then lastOf as t else none := by
  have hmap := attrs_of_encoded h
  have hhdr : ∀ p ∈ libbpfNlaForEachAttr buf head (encodeAttrs as).length,
      nlaHdrlen ≤ nlaLen buf p := fun p hp => (inside_of_mem_forEachAttr hp).2.1
  unfold libbpfNlaParse
  rw [index_of_allAccepted hhdr (hmap.symm ▸ hall)]
  refine ⟨rfl, ?_⟩
  intro t
  by_cases ht : t ≤ maxtype
  · simp only [if_pos ht, Option.or_none]
    rw [← List.getLast?_map]
    conv_rhs => rw [lastOf, ← hmap, List.filter_map]
    rfl
  · simp only [if_neg ht, Option.map_none]

/-- Parsing a stream of attributes fails exactly if a policy refuses one of them, and then with
`-1`; otherwise the index holds the last attribute of each type that is looked for. -/
theorem parse_of_encoded {buf : List Byte} {head : Nat} {as : List Attr}
    (h : Holds buf head (encodeAttrs as)) (maxtype : Nat) (policy : Option (Nat → LibbpfNlaPolicy)) :
    (¬AllAccepted maxtype policy as ∧
        (libbpfNlaParse buf maxtype policy head (encodeAttrs as).length).2 = -1) ∨
      (AllAccepted maxtype policy as ∧
        (libbpfNlaParse buf maxtype policy head (encodeAttrs as).length).2 = 0 ∧
        ∀ t, ((libbpfNlaParse buf maxtype policy head (encodeAttrs as).length).1 t).map (attrAt buf) =
          if t ≤ maxtype then lastOf as t else none) := by
  by_cases hall : AllAccepted maxtype policy as
  · exact .inr ⟨hall, parse_of_allAccepted h hall⟩
  · refine .inl ⟨hall, ?_⟩
    have hhdr : ∀ p ∈ libbpfNlaForEachAttr buf head (encodeAttrs as).length,
        nlaHdrlen ≤ nlaLen buf p := fun p hp => (inside_of_mem_forEachAttr hp).2.1
    have herr := index_of_not_allAccepted hhdr ((attrs_of_encoded h).symm ▸ hall) (fun _ => none)
    unfold libbpfNlaParse
    simp only [herr, Option.getD_some]

theorem parse_of_encoded_generic :
    (libbpfNlaParse (encodeAttrs genericReport) iflaXdpMax none 0 (encodeAttrs genericReport).length).2 =
      0 :=
  ((parse_of_encoded (SameOctets.refl _ _ _) iflaXdpMax none).resolve_left
    (fun h => h.1 (fun _ _ _ _ hp => nomatch hp))).2.1

/-! ### Without a policy -/

/-- What the parser says about an attribute that it has found: where its payload stands. -/
lemma parse_null_policy {buf : List Byte} {head : Nat} {as : List Attr}
    (h : Holds buf head (encodeAttrs as)) (maxtype : Nat) :
    (libbpfNlaParse buf maxtype none head (encodeAttrs as).length).2 = 0 ∧
      ∀ t ≤ maxtype,
        match lastOf as t with
        | none => (libbpfNlaParse buf maxtype none head (encodeAttrs as).length).1 t = none
        | some a => ∃ p, (libbpfNlaParse buf maxtype none head (encodeAttrs as).length).1 t = some p ∧
            Holds buf (libbpfNlaData p) a.payload ∧ libbpfNlaLen buf p = a.payload.length := by
  have hall : AllAccepted maxtype none as := fun a _ _ p hp => nomatch hp
  obtain ⟨herr, htb⟩ := parse_of_allAccepted h hall
  refine ⟨herr, ?_⟩
  intro t ht
  have hlast := htb t
  rw [if_pos ht] at hlast
  rw [← hlast]
  cases hp : (libbpfNlaParse buf maxtype none head (encodeAttrs as).length).1 t with
  | none => rfl
  | some p =>
    have hhdr := (entry_of_parse hp).header
    refine ⟨p, rfl, ?_, ?_⟩
    · intro k hk
      rw [attrAt, length_bytesAt] at hk
      simp [attrAt, bytesAt, byteAt, hk]
    · simp only [libbpfNlaLen, attrAt, length_bytesAt]
      omega

end SyncookieXdp.Netlink
