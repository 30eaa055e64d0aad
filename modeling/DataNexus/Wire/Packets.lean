/-
  MySQL packet framing (`PacketCodec` of `protocol/mysql/src/server/codec.rs`).

  A payload is sent in packets of at most `MAX_PAYLOAD_LEN` bytes, each behind a header; the packet that is not full ends
  it.  The header goes to an offset that the caller says: the length of the buffer (`EncodeOffset`), or zero (`Encode`).

  * `decode_spec`, `drain_eq` — the decoder, in terms of whole packets;
  * `encodePacketOffset_append` — with the length of the buffer as the offset, the packets are appended;
  * `encode_nonempty` — with zero as the offset, a buffer that is not empty is spoiled, unless all is zeros;
  * `framing_iff` — over a run of the encoder.
-/
import DataNexus.Lib.Blocks
import DataNexus.Lib.Run

namespace DataNexus.Packets

open Run Blocks

def maxPayloadLen : Nat := 0xffffff

theorem maxPayloadLen_pos : 0 < maxPayloadLen := by decide

/-- `PacketCodec`, without the session. -/
structure PacketCodec where
  buf : List UInt8
  isMax : Bool
  seq : UInt8
  deriving DecidableEq

def PacketCodec.new : PacketCodec := ⟨[], false, 0⟩

/-! ## Encoding -/

/-- Three bytes of length, one of sequence number. -/
def header (length : Nat) (seq : UInt8) : List UInt8 :=
  [length.toUInt8, (length / 256).toUInt8, (length / 65536).toUInt8, seq]

/-- `put_bytes(0, 4)`. -/
def noHeader : List UInt8 := [0, 0, 0, 0]

/-- `make_packet_header`: four bytes at an offset are overwritten, and the sequence number goes up. -/
def makePacketHeader (c : PacketCodec) (length : Nat) (data : List UInt8) (offset : Nat) : PacketCodec × List UInt8 :=
  ({ c with seq := c.seq + 1 }, data.take offset ++ header length c.seq ++ data.drop (offset + 4))

/-- The encoder within a payload: the codec, the buffer, and where the next header goes. -/
structure Writing where
  codec : PacketCodec
  dst : List UInt8
  offset : Nat

def putFull (item : List UInt8) (w : Writing) (i : Nat) : Writing :=
  let dst := w.dst ++ noHeader ++ (item.drop (i * maxPayloadLen)).take maxPayloadLen
  let out := makePacketHeader w.codec maxPayloadLen dst w.offset
  ⟨out.1, out.2, w.offset + (maxPayloadLen + 4)⟩

def encodePacketOffset (c : PacketCodec) (item dst : List UInt8) (offset : Nat) : PacketCodec × List UInt8 :=
  let num := item.length / maxPayloadLen
  let remain := item.length % maxPayloadLen
  let w := (List.range num).foldl (putFull item) ⟨c, dst, offset⟩
  makePacketHeader w.codec remain (w.dst ++ noHeader ++ item.drop (num * maxPayloadLen)) w.offset

def encodePacket (c : PacketCodec) (item dst : List UInt8) : PacketCodec × List UInt8 := encodePacketOffset c item dst 0

inductive PacketSend where
  | origin (data : List UInt8)
  | encode (data : List UInt8)
  | encodeOffset (data : List UInt8) (offset : Nat)

def encode (c : PacketCodec) (item : PacketSend) (dst : List UInt8) : PacketCodec × List UInt8 :=
  match item with
  | .origin data => (c, dst ++ data)
  | .encode data => encodePacket c data dst
  | .encodeOffset data offset => encodePacketOffset c data dst offset

/-! ## Decoding -/

def getLength : List UInt8 → Nat
  | a :: b :: c :: _ => a.toNat + 256 * b.toNat + 65536 * c.toNat
  | _ => 0

/-- `Decoder::decode`: a payload if one is complete, the codec, and what is left of the input. -/
def decode (c : PacketCodec) (src : List UInt8) : Option (List UInt8) × PacketCodec × List UInt8 :=
  if src.isEmpty || decide (src.length < 3) then (none, c, src)
  else if h : 4 + getLength src > src.length then (none, c, src)
  else
    let length := getLength src
    let rest := src.drop 4
    let c' : PacketCodec := ⟨c.buf ++ rest.take length, c.isMax || decide (length = maxPayloadLen), c.seq + 1⟩
    if length < maxPayloadLen then (some c'.buf, { c' with buf := [] }, rest.drop length)
    else decode c' (rest.drop length)
termination_by src.length
decreasing_by
  simp only [List.length_drop]
  omega

/-- The packet in front: its sequence number and its payload, and what is behind it. -/
def takePacket : List UInt8 → Option ((UInt8 × List UInt8) × List UInt8)
  | a :: b :: c :: s :: rest =>
    let length := a.toNat + 256 * b.toNat + 65536 * c.toNat
    if length ≤ rest.length then some ((s, rest.take length), rest.drop length) else none
  | _ => none

theorem takePacket_nil : takePacket [] = none := rfl

variable {src b data : List UInt8} {p : UInt8 × List UInt8} {c c' : PacketCodec} {s : UInt8}
  {payloads : List (List UInt8)} {k : Nat}

theorem takePacket_lt {rest : List UInt8} (h : takePacket src = some (p, rest)) :
    rest.length + p.2.length + 4 = src.length := by
  unfold takePacket at h
  split at h
  · dsimp only at h
    split_ifs at h with hle
    obtain ⟨rfl, rfl⟩ := Prod.mk.inj (Option.some.inj h)
    simp only [List.length_take, List.length_drop, List.length_cons]
    omega
  · cases h

/-- **One packet is decoded at a time**: nothing happens before it is there; a short one ends the payload, behind a full
    one decoding goes on. -/
theorem decode_spec (c : PacketCodec) (src : List UInt8) : decode c src = match takePacket src with
      | none => (none, c, src)
      | some ((_, b), rest) =>
        if b.length < maxPayloadLen then
          (some (c.buf ++ b), ⟨[], c.isMax || decide (b.length = maxPayloadLen), c.seq + 1⟩, rest)
        else decode ⟨c.buf ++ b, c.isMax || decide (b.length = maxPayloadLen), c.seq + 1⟩ rest := by
  match src with
  | [] =>
    rw [decode, if_pos (by rfl)]
    rfl
  | [a] =>
    rw [decode, if_pos (by rfl)]
    rfl
  | [a, b] =>
    rw [decode, if_pos (by rfl)]
    rfl
  | [a, b, d] =>
    rw [decode, if_neg (by simp), dif_pos (by simp only [List.length_cons, List.length_nil]; omega)]
    rfl
  | a :: b :: d :: s :: rest =>
    have htaken : takePacket (a :: b :: d :: s :: rest) =
        if getLength (a :: b :: d :: s :: rest) ≤ rest.length then
          some ((s, rest.take (getLength (a :: b :: d :: s :: rest))), rest.drop (getLength (a :: b :: d :: s :: rest)))
        else none := rfl
    rw [decode, if_neg (by simp), htaken]
    generalize getLength (a :: b :: d :: s :: rest) = length
    by_cases hle : length ≤ rest.length
    · have hnot : ¬ 4 + length > (a :: b :: d :: s :: rest).length := by
        simp only [List.length_cons]
        omega
      have htake : (rest.take length).length = length := List.length_take_of_le hle
      rw [dif_neg hnot, if_pos hle]
      dsimp only
      rw [htake]
      rfl
    · have hgt : 4 + length > (a :: b :: d :: s :: rest).length := by
        simp only [List.length_cons]
        omega
      rw [dif_pos hgt, if_neg hle]

theorem decode_lt {rest payload : List UInt8} (h : decode c src = (some payload, c', rest)) :
    rest.length < src.length := by
  induction hn : src.length using Nat.strongRecOn generalizing c src with
  | _ n ih =>
    subst hn
    rw [decode_spec] at h
    cases hp : takePacket src with
    | none =>
      rw [hp] at h
      cases h
    | some q =>
      obtain ⟨⟨s, b⟩, rest'⟩ := q
      have hlt := takePacket_lt hp
      rw [hp] at h
      dsimp only at h hlt
      split_ifs at h with hshort
      · obtain ⟨-, -, rfl⟩ := Prod.mk.inj h |>.imp id Prod.mk.inj
        omega
      · have := ih rest'.length (by omega) h rfl
        omega

/-- The reader of a connection decodes as long as there is a payload. -/
def drain (c : PacketCodec) (src : List UInt8) : List (List UInt8) × PacketCodec × List UInt8 :=
  match h : decode c src with
  | (none, c', rest) => ([], c', rest)
  | (some payload, c', rest) =>
    let out := drain c' rest
    (payload :: out.1, out.2)
termination_by src.length
decreasing_by exact decode_lt h

/-- Bytes that arrive in chunks are decoded as they come. -/
def receive (c : PacketCodec) (src : List UInt8) : List (List UInt8) → List (List UInt8) × PacketCodec × List UInt8
  | [] => ([], c, src)
  | chunk :: chunks =>
    let first := drain c (src ++ chunk)
    let later := receive first.2.1 first.2.2 chunks
    (first.1 ++ later.1, later.2)

/-! ## Packets in a row -/

/-- The packets that are there, and the bytes behind them. -/
def splitPackets (src : List UInt8) : List (UInt8 × List UInt8) × List UInt8 :=
  match h : takePacket src with
  | none => ([], src)
  | some (p, rest) => (p :: (splitPackets rest).1, (splitPackets rest).2)
termination_by src.length
decreasing_by
  all_goals
    have := takePacket_lt h
    omega

theorem splitPackets_none (h : takePacket src = none) : splitPackets src = ([], src) := by
  rw [splitPackets]
  split
  · rfl
  · rename_i heq
    rw [h] at heq
    cases heq

theorem splitPackets_some {rest : List UInt8} (h : takePacket src = some (p, rest)) :
    splitPackets src = (p :: (splitPackets rest).1, (splitPackets rest).2) := by
  rw [splitPackets]
  split
  · rename_i heq
    rw [h] at heq
    cases heq
  · rename_i heq
    rw [h] at heq
    obtain ⟨rfl, rfl⟩ := Prod.mk.inj (Option.some.inj heq)
    rfl

theorem splitPackets_induction {P : List UInt8 → Prop} (hnone : ∀ src, takePacket src = none → P src)
    (hsome : ∀ src p rest, takePacket src = some (p, rest) → P rest → P src) (src : List UInt8) : P src := by
  induction hn : src.length using Nat.strongRecOn generalizing src with
  | _ n ih =>
    cases h : takePacket src with
    | none => exact hnone src h
    | some q =>
      have hlt := takePacket_lt h
      exact hsome src q.1 q.2 h (ih q.2.length (by omega) q.2 rfl)

theorem takePacket_append {a rest : List UInt8} (h : takePacket a = some (p, rest)) (b : List UInt8) :
    takePacket (a ++ b) = some (p, rest ++ b) := by
  unfold takePacket at h
  split at h
  · rename_i x y z s tail
    dsimp only at h
    split_ifs at h with hle
    obtain ⟨rfl, rfl⟩ := Prod.mk.inj (Option.some.inj h)
    have htake : (tail ++ b).take (x.toNat + 256 * y.toNat + 65536 * z.toNat) = _ := List.take_append_of_le_length hle
    have hdrop : (tail ++ b).drop (x.toNat + 256 * y.toNat + 65536 * z.toNat) = _ := List.drop_append_of_le_length hle
    show (if x.toNat + 256 * y.toNat + 65536 * z.toNat ≤ (tail ++ b).length then
      some ((s, (tail ++ b).take _), (tail ++ b).drop _) else none) = _
    rw [if_pos (by rw [List.length_append]; omega), htake, hdrop]
  · cases h

theorem takePacket_rest (src : List UInt8) : takePacket (splitPackets src).2 = none := by
  induction src using splitPackets_induction with
  | hnone src h =>
    rw [splitPackets_none h]
    exact h
  | hsome src p rest h ih =>
    rw [splitPackets_some h]
    exact ih

theorem splitPackets_append (a b : List UInt8) :
    splitPackets (a ++ b) = ((splitPackets a).1 ++ (splitPackets ((splitPackets a).2 ++ b)).1,
      (splitPackets ((splitPackets a).2 ++ b)).2) := by
  induction a using splitPackets_induction with
  | hnone a h =>
    rw [splitPackets_none h]
    rfl
  | hsome a p rest h ih =>
    rw [splitPackets_some h, splitPackets_some (takePacket_append h b), ih]
    rfl

def bodies (ps : List (UInt8 × List UInt8)) : List (List UInt8) := ps.map (·.2)

theorem drain_eq_match (c : PacketCodec) (src : List UInt8) : drain c src = match decode c src with
      | (none, c', rest) => ([], c', rest)
      | (some payload, c', rest) => (payload :: (drain c' rest).1, (drain c' rest).2) := by
  rw [drain]
  split
  · rename_i heq
    rw [heq]
  · rename_i heq
    rw [heq]

/-- **The decoder puts the packets together**, and keeps what is unfinished. -/
theorem drain_eq (c : PacketCodec) (src : List UInt8) :
    (drain c src).1 = (assemble maxPayloadLen c.buf (bodies (splitPackets src).1)).1 ∧
      (drain c src).2.1.buf = (assemble maxPayloadLen c.buf (bodies (splitPackets src).1)).2 ∧
      (drain c src).2.2 = (splitPackets src).2 := by
  induction src using splitPackets_induction generalizing c with
  | hnone src h =>
    have hdecode : decode c src = (none, c, src) := by
      rw [decode_spec, h]
    rw [drain_eq_match, hdecode, splitPackets_none h]
    exact ⟨rfl, rfl, rfl⟩
  | hsome src p rest h ih =>
    obtain ⟨s, b⟩ := p
    rw [splitPackets_some h]
    unfold bodies
    rw [List.map_cons, assemble]
    by_cases hshort : b.length < maxPayloadLen
    · have hdecode : decode c src = (some (c.buf ++ b), ⟨[], c.isMax || decide (b.length = maxPayloadLen), c.seq + 1⟩,
          rest) := by
        rw [decode_spec, h]
        exact if_pos hshort
      obtain ⟨hpayloads, hbuf, hrest⟩ := ih ⟨[], c.isMax || decide (b.length = maxPayloadLen), c.seq + 1⟩
      rw [drain_eq_match, hdecode, if_pos hshort]
      exact ⟨congrArg _ hpayloads, hbuf, hrest⟩
    · have hdecode : decode c src =
          decode ⟨c.buf ++ b, c.isMax || decide (b.length = maxPayloadLen), c.seq + 1⟩ rest := by
        rw [decode_spec, h]
        exact if_neg hshort
      rw [drain_eq_match, hdecode, ← drain_eq_match, if_neg hshort]
      exact ih ⟨c.buf ++ b, c.isMax || decide (b.length = maxPayloadLen), c.seq + 1⟩

/-- **Chunks do not matter.** -/
theorem receive_eq (c : PacketCodec) (hsrc : takePacket src = none) (chunks : List (List UInt8)) :
    (receive c src chunks).1 = (assemble maxPayloadLen c.buf (bodies (splitPackets (src ++ chunks.flatten)).1)).1 ∧
      (receive c src chunks).2.1.buf =
        (assemble maxPayloadLen c.buf (bodies (splitPackets (src ++ chunks.flatten)).1)).2 ∧
      (receive c src chunks).2.2 = (splitPackets (src ++ chunks.flatten)).2 := by
  induction chunks generalizing c src with
  | nil =>
    rw [List.flatten_nil, List.append_nil, splitPackets_none hsrc]
    exact ⟨rfl, rfl, rfl⟩
  | cons chunk chunks ih =>
    obtain ⟨hpayloads, hbuf, hrest⟩ := drain_eq c (src ++ chunk)
    obtain ⟨ihpayloads, ihbuf, ihrest⟩ := ih (drain c (src ++ chunk)).2.1 (hrest ▸ takePacket_rest (src ++ chunk))
    have hreceive : receive c src (chunk :: chunks) =
        ((drain c (src ++ chunk)).1 ++ (receive (drain c (src ++ chunk)).2.1 (splitPackets (src ++ chunk)).2 chunks).1,
          (receive (drain c (src ++ chunk)).2.1 (splitPackets (src ++ chunk)).2 chunks).2) := by
      rw [← hrest]
      rfl
    rw [hrest, hbuf] at ihpayloads ihbuf
    rw [hrest] at ihrest
    rw [hreceive, List.flatten_cons, ← List.append_assoc, splitPackets_append (src ++ chunk)]
    unfold bodies at *
    rw [List.map_append, assemble_append, hpayloads, ihpayloads]
    exact ⟨rfl, ihbuf, ihrest⟩

/-! ## The packets of a payload -/

def Consecutive : UInt8 → List UInt8 → Prop
  | _, [] => True
  | s, t :: ts => t = s ∧ Consecutive (s + 1) ts

def packetsOf : UInt8 → List (List UInt8) → List UInt8
  | _, [] => []
  | s, b :: bs => header b.length s ++ b ++ packetsOf (s + 1) bs

def numbered : UInt8 → List (List UInt8) → List (UInt8 × List UInt8)
  | _, [] => []
  | s, b :: bs => (s, b) :: numbered (s + 1) bs

theorem packetsOf_append (s : UInt8) (as bs : List (List UInt8)) :
    packetsOf s (as ++ bs) = packetsOf s as ++ packetsOf (s + UInt8.ofNat as.length) bs := by
  induction as generalizing s with
  | nil => simp [packetsOf]
  | cons a as ih =>
    have hseq : s + 1 + UInt8.ofNat as.length = s + UInt8.ofNat (a :: as).length := by
      rw [List.length_cons, UInt8.ofNat_add, UInt8.add_assoc, UInt8.add_comm 1]
      rfl
    rw [List.cons_append, packetsOf, packetsOf, ih, hseq]
    simp only [List.append_assoc]

theorem bodies_numbered (s : UInt8) (bs : List (List UInt8)) : bodies (numbered s bs) = bs := by
  induction bs generalizing s with
  | nil => rfl
  | cons b bs ih => exact congrArg (b :: ·) (ih (s + 1))

theorem consecutive_numbered (s : UInt8) (bs : List (List UInt8)) : Consecutive s ((numbered s bs).map (·.1)) := by
  induction bs generalizing s with
  | nil => trivial
  | cons b bs ih => exact ⟨rfl, ih (s + 1)⟩

theorem takePacket_header (hb : b.length ≤ maxPayloadLen) (s : UInt8) (rest : List UInt8) :
    takePacket (header b.length s ++ b ++ rest) = some ((s, b), rest) := by
  have hlength : (b.length.toUInt8).toNat + 256 * ((b.length / 256).toUInt8).toNat +
      65536 * ((b.length / 65536).toUInt8).toNat = b.length := by
    have h0 : (b.length.toUInt8).toNat = b.length % 256 := by simp
    have h1 : ((b.length / 256).toUInt8).toNat = b.length / 256 % 256 := by simp
    have h2 : ((b.length / 65536).toUInt8).toNat = b.length / 65536 % 256 := by simp
    have hmax : maxPayloadLen = 16777215 := rfl
    omega
  show (if _ ≤ (b ++ rest).length then some ((s, (b ++ rest).take _), (b ++ rest).drop _) else none) = _
  rw [hlength, if_pos (by rw [List.length_append]; omega), List.take_left, List.drop_left]

theorem splitPackets_packetsOf {bs : List (List UInt8)} (h : ∀ b ∈ bs, b.length ≤ maxPayloadLen) (s : UInt8) :
    splitPackets (packetsOf s bs) = (numbered s bs, []) := by
  induction bs generalizing s with
  | nil => exact splitPackets_none rfl
  | cons b bs ih =>
    rw [packetsOf, splitPackets_some (takePacket_header (h b List.mem_cons_self) s _),
      ih (fun b' hb' => h b' (List.mem_cons_of_mem b hb'))]
    rfl

theorem eq_of_takePacket {rest : List UInt8} (h : takePacket src = some ((s, b), rest)) :
    src = header b.length s ++ b ++ rest ∧ b.length ≤ maxPayloadLen := by
  unfold takePacket at h
  split at h
  · rename_i x y z t tail
    dsimp only at h
    split_ifs at h with hle
    obtain ⟨hp, rfl⟩ := Prod.mk.inj (Option.some.inj h)
    obtain ⟨rfl, rfl⟩ := Prod.mk.inj hp
    have hx := x.toNat_lt
    have hy := y.toNat_lt
    have hz := z.toNat_lt
    rw [List.length_take_of_le hle]
    generalize hlength : x.toNat + 256 * y.toNat + 65536 * z.toNat = length at *
    have h0 : length.toUInt8 = x := by
      apply UInt8.toNat.inj
      have : length.toUInt8.toNat = length % 256 := by simp
      omega
    have h1 : (length / 256).toUInt8 = y := by
      apply UInt8.toNat.inj
      have : (length / 256).toUInt8.toNat = length / 256 % 256 := by simp
      omega
    have h2 : (length / 65536).toUInt8 = z := by
      apply UInt8.toNat.inj
      have : (length / 65536).toUInt8.toNat = length / 65536 % 256 := by simp
      omega
    have hmax : maxPayloadLen = 16777215 := rfl
    refine ⟨?_, by omega⟩
    rw [header, h0, h1, h2, List.append_assoc, List.take_append_drop]
    rfl
  · cases h

theorem eq_packetsOf (hrest : (splitPackets src).2 = []) (hseq : Consecutive s ((splitPackets src).1.map (·.1))) :
    src = packetsOf s (bodies (splitPackets src).1) ∧ ∀ b ∈ bodies (splitPackets src).1, b.length ≤ maxPayloadLen := by
  induction src using splitPackets_induction generalizing s with
  | hnone src h =>
    rw [splitPackets_none h] at hrest ⊢
    exact ⟨hrest, nofun⟩
  | hsome src p rest h ih =>
    obtain ⟨t, b⟩ := p
    rw [splitPackets_some h] at hrest hseq ⊢
    obtain ⟨rfl, hseq⟩ := hseq
    obtain ⟨heq, hle⟩ := eq_of_takePacket h
    obtain ⟨ihsrc, ihle⟩ := ih hrest hseq
    refine ⟨?_, List.forall_mem_cons.mpr ⟨hle, ihle⟩⟩
    rw [heq]
    exact congrArg _ ihsrc

/-! ## The round trip -/

/-- The bytes hold the payloads: however they are cut, a new decoder yields the payloads and keeps no bytes, and the
    headers are numbered from `seq`. -/
structure Reads (seq : UInt8) (payloads : List (List UInt8)) (bytes : List UInt8) : Prop where
  decoded : ∀ chunks : List (List UInt8), chunks.flatten = bytes →
    (receive .new [] chunks).1 = payloads ∧ (receive .new [] chunks).2.1.buf = [] ∧ (receive .new [] chunks).2.2 = []
  consecutive : Consecutive seq ((splitPackets bytes).1.map (·.1))

/-- The packets of payloads, one behind the other. -/
def framesOf (seq : UInt8) (payloads : List (List UInt8)) : List UInt8 :=
  packetsOf seq (payloads.flatMap (blocks maxPayloadLen))

theorem length_le_of_mem_flatMap (h : b ∈ payloads.flatMap (blocks maxPayloadLen)) : b.length ≤ maxPayloadLen := by
  obtain ⟨payload, -, hb⟩ := List.mem_flatMap.mp h
  exact length_le_of_mem_blocks maxPayloadLen_pos hb

/-- **Only the packets of the payloads are read as the payloads.** -/
theorem reads_iff {seq : UInt8} {bytes : List UInt8} : Reads seq payloads bytes ↔ bytes = framesOf seq payloads := by
  constructor
  · intro h
    obtain ⟨hpayloads, hbuf, hrest⟩ := receive_eq .new (takePacket_nil) [bytes]
    obtain ⟨hread, hdone, hleft⟩ := h.decoded [bytes] (by simp)
    rw [hread] at hpayloads
    rw [hdone] at hbuf
    rw [hleft] at hrest
    rw [List.flatten_singleton, List.nil_append] at hpayloads hbuf hrest
    obtain ⟨heq, hle⟩ := eq_packetsOf hrest.symm h.consecutive
    rw [eq_flatMap_of_assemble maxPayloadLen_pos hle (Prod.ext hpayloads.symm hbuf.symm)] at heq
    exact heq
  · rintro rfl
    have hsplit : splitPackets (framesOf seq payloads) = (numbered seq (payloads.flatMap (blocks maxPayloadLen)), []) :=
      splitPackets_packetsOf (fun b hb => length_le_of_mem_flatMap hb) seq
    refine ⟨fun chunks hchunks => ?_, ?_⟩
    · obtain ⟨hpayloads, hbuf, hrest⟩ := receive_eq .new takePacket_nil chunks
      rw [hchunks, List.nil_append, hsplit] at hpayloads hbuf hrest
      rw [bodies_numbered, show PacketCodec.new.buf = [] from rfl, assemble_flatMap maxPayloadLen_pos] at hpayloads hbuf
      exact ⟨hpayloads, hbuf, hrest⟩
    · rw [hsplit]
      exact consecutive_numbered seq _

/-! ## The encoder -/

theorem length_header (length : Nat) (seq : UInt8) : (header length seq).length = 4 := rfl

theorem makePacketHeader_append (c : PacketCodec) (length : Nat) (dst b : List UInt8) :
    makePacketHeader c length (dst ++ noHeader ++ b) dst.length =
      ({ c with seq := c.seq + 1 }, dst ++ (header length c.seq ++ b)) := by
  unfold makePacketHeader
  have htake : (dst ++ noHeader ++ b).take dst.length = dst := by
    rw [List.append_assoc, List.take_left]
  have hdrop : (dst ++ noHeader ++ b).drop (dst.length + 4) = b := by
    rw [List.drop_left' (by rw [List.length_append]; rfl)]
  rw [htake, hdrop, List.append_assoc]

/-- The full packets of a payload, the first `k` of them. -/
def fullPackets (item : List UInt8) (k : Nat) : List (List UInt8) :=
  (List.range k).map fun i => (item.drop (i * maxPayloadLen)).take maxPayloadLen

theorem fullPackets_succ (item : List UInt8) (k : Nat) :
    fullPackets item (k + 1) = fullPackets item k ++ [(item.drop (k * maxPayloadLen)).take maxPayloadLen] := by
  unfold fullPackets
  rw [List.range_succ, List.map_append]
  rfl

theorem length_full {item : List UInt8} (hk : k < item.length / maxPayloadLen) :
    ((item.drop (k * maxPayloadLen)).take maxPayloadLen).length = maxPayloadLen := by
  have hle : (k + 1) * maxPayloadLen ≤ item.length := Nat.le_trans (Nat.mul_le_mul_right _ hk) (Nat.div_mul_le_self _ _)
  rw [List.length_take, List.length_drop]
  rw [Nat.succ_mul] at hle
  omega

theorem putFull_codec (item : List UInt8) (w : Writing) (i : Nat) :
    (putFull item w i).codec = { w.codec with seq := w.codec.seq + 1 } := rfl

theorem putFull_offset (item : List UInt8) (w : Writing) (i : Nat) :
    (putFull item w i).offset = w.offset + (maxPayloadLen + 4) := rfl

theorem putFull_append (item : List UInt8) (c : PacketCodec) (dst : List UInt8) (i : Nat) :
    (putFull item ⟨c, dst, dst.length⟩ i).dst =
      dst ++ (header maxPayloadLen c.seq ++ (item.drop (i * maxPayloadLen)).take maxPayloadLen) :=
  congrArg Prod.snd (makePacketHeader_append c maxPayloadLen dst _)

theorem ofNat_succ (s : UInt8) (n : Nat) : s + UInt8.ofNat n + 1 = s + UInt8.ofNat (n + 1) := by
  rw [UInt8.add_assoc, UInt8.ofNat_add]
  rfl

theorem loop_seq_offset (item : List UInt8) (c : PacketCodec) (dst : List UInt8) (offset k : Nat) :
    ((List.range k).foldl (putFull item) ⟨c, dst, offset⟩).codec = { c with seq := c.seq + UInt8.ofNat k } ∧
      ((List.range k).foldl (putFull item) ⟨c, dst, offset⟩).offset = offset + k * (maxPayloadLen + 4) := by
  induction k with
  | zero => simp
  | succ k ih =>
    rw [List.range_succ, List.foldl_append, List.foldl_cons, List.foldl_nil]
    generalize (List.range k).foldl (putFull item) ⟨c, dst, offset⟩ = w at ih
    obtain ⟨hcodec, hoffset⟩ := ih
    rw [putFull_codec, putFull_offset, hcodec, hoffset]
    refine ⟨?_, by rw [Nat.succ_mul]; omega⟩
    dsimp only
    rw [ofNat_succ]

theorem loop_append (item : List UInt8) (c : PacketCodec) (dst : List UInt8) (hk : k ≤ item.length / maxPayloadLen) :
    (List.range k).foldl (putFull item) ⟨c, dst, dst.length⟩ =
      ⟨{ c with seq := c.seq + UInt8.ofNat k }, dst ++ packetsOf c.seq (fullPackets item k),
        (dst ++ packetsOf c.seq (fullPackets item k)).length⟩ := by
  induction k with
  | zero => simp [fullPackets, packetsOf]
  | succ k ih =>
    have hlen : (fullPackets item k).length = k := by simp [fullPackets]
    obtain ⟨hcodec, hoffset⟩ := loop_seq_offset item c dst dst.length (k + 1)
    have hdst : ((List.range (k + 1)).foldl (putFull item) ⟨c, dst, dst.length⟩).dst =
        dst ++ packetsOf c.seq (fullPackets item (k + 1)) := by
      rw [List.range_succ, List.foldl_append, List.foldl_cons, List.foldl_nil, ih (Nat.le_of_succ_le hk), putFull_append,
        fullPackets_succ, packetsOf_append, hlen, packetsOf, packetsOf, length_full hk, List.append_nil,
        List.append_assoc]
    have hlength : (dst ++ packetsOf c.seq (fullPackets item (k + 1))).length =
        dst.length + (k + 1) * (maxPayloadLen + 4) := by
      have hk' := congrArg Writing.offset (ih (Nat.le_of_succ_le hk))
      rw [(loop_seq_offset item c dst dst.length k).2] at hk'
      dsimp only at hk'
      rw [fullPackets_succ, packetsOf_append, ← List.append_assoc, List.length_append, ← hk', packetsOf, packetsOf,
        length_full hk]
      simp only [List.length_append, length_header, length_full hk, List.length_nil]
      rw [Nat.succ_mul]
      omega
    rw [hlength]
    generalize (List.range (k + 1)).foldl (putFull item) ⟨c, dst, dst.length⟩ = w at hcodec hoffset hdst
    cases w
    dsimp only at hcodec hoffset hdst
    rw [hcodec, hoffset, hdst]

/-- **Behind the buffer**: the packets of the payload are appended. -/
theorem encodePacketOffset_append (c : PacketCodec) (item dst : List UInt8) :
    encodePacketOffset c item dst dst.length =
      ({ c with seq := c.seq + UInt8.ofNat (blocks maxPayloadLen item).length },
        dst ++ packetsOf c.seq (blocks maxPayloadLen item)) := by
  have hblocks : blocks maxPayloadLen item = fullPackets item (item.length / maxPayloadLen) ++
      [item.drop (item.length / maxPayloadLen * maxPayloadLen)] := blocks_eq maxPayloadLen_pos item
  have hlen : (fullPackets item (item.length / maxPayloadLen)).length = item.length / maxPayloadLen := by
    simp [fullPackets]
  have hremain : item.length % maxPayloadLen =
      (item.drop (item.length / maxPayloadLen * maxPayloadLen)).length := by
    rw [List.length_drop, Nat.mod_eq_sub_mul_div, Nat.mul_comm]
  show makePacketHeader _ _ (_ ++ noHeader ++ _) _ = _
  rw [loop_append item c dst (Nat.le_refl _)]
  dsimp only
  rw [makePacketHeader_append, hblocks, packetsOf_append, hlen, packetsOf, packetsOf, ← hremain, List.append_nil,
    List.append_assoc, List.length_append, hlen, List.length_singleton]
  dsimp only
  rw [ofNat_succ]

/-! ## A header at the front of a buffer that is not empty -/

theorem getElem?_makePacketHeader (c : PacketCodec) (length : Nat) {offset : Nat} (h : offset + 4 ≤ data.length)
    (q : Nat) : (makePacketHeader c length data offset).2[q]? =
      if q < offset then data[q]? else if q < offset + 4 then (header length c.seq)[q - offset]? else data[q]? := by
  have htake : (data.take offset).length = offset := List.length_take_of_le (by omega)
  unfold makePacketHeader
  by_cases h1 : q < offset
  · rw [if_pos h1, List.append_assoc, List.getElem?_append_left (by omega), List.getElem?_take_of_lt h1]
  · rw [if_neg h1, List.append_assoc, List.getElem?_append_right (by omega), htake]
    by_cases h2 : q < offset + 4
    · rw [if_pos h2, List.getElem?_append_left (by rw [length_header]; omega)]
    · rw [if_neg h2, List.getElem?_append_right (by rw [length_header]; omega), length_header, List.getElem?_drop]
      congr 1
      omega

theorem length_makePacketHeader (c : PacketCodec) (length : Nat) {offset : Nat} (h : offset + 4 ≤ data.length) :
    (makePacketHeader c length data offset).2.length = data.length := by
  unfold makePacketHeader
  simp only [List.length_append, List.length_take, List.length_drop, length_header]
  omega

theorem getElem?_noHeader (pre b : List UInt8) {j : Nat} (hj : j < 4) : (pre ++ noHeader ++ b)[pre.length + j]? = some 0 := by
  rw [List.append_assoc, List.getElem?_append_right (by omega), Nat.add_sub_cancel_left]
  match j, hj with
  | 0, _ => rfl
  | 1, _ => rfl
  | 2, _ => rfl
  | 3, _ => rfl

/-- One header over the front of a buffer: nothing is spoiled iff the header is four zeros, as the bytes in front. -/
theorem overwritten_front {dst h : List UInt8} (hne : dst ≠ []) (hlen : h.length = 4) (item : List UInt8) :
    h ++ (dst ++ noHeader ++ item).drop 4 = dst ++ (h ++ item) ↔ h = noHeader ∧ (dst ++ noHeader).take 4 = noHeader := by
  obtain ⟨h0, h1, h2, h3, rfl⟩ : ∃ h0 h1 h2 h3, h = [h0, h1, h2, h3] := by
    match h, hlen with
    | [h0, h1, h2, h3], _ => exact ⟨h0, h1, h2, h3, rfl⟩
  unfold noHeader
  match dst, hne with
  | [a], _ =>
    simp only [List.cons_append, List.nil_append, List.drop_succ_cons, List.drop_zero, List.take_succ_cons,
      List.take_zero, List.cons.injEq, and_true]
    constructor
    · rintro ⟨rfl, rfl, rfl, rfl, rfl⟩
      exact ⟨⟨rfl, rfl, rfl, rfl⟩, rfl⟩
    · rintro ⟨⟨rfl, rfl, rfl, rfl⟩, rfl⟩
      exact ⟨rfl, rfl, rfl, rfl, rfl⟩
  | [a, b], _ =>
    simp only [List.cons_append, List.nil_append, List.drop_succ_cons, List.drop_zero, List.take_succ_cons,
      List.take_zero, List.cons.injEq, and_true]
    constructor
    · rintro ⟨rfl, rfl, rfl, rfl, rfl, rfl⟩
      exact ⟨⟨rfl, rfl, rfl, rfl⟩, rfl, rfl⟩
    · rintro ⟨⟨rfl, rfl, rfl, rfl⟩, rfl, rfl⟩
      exact ⟨rfl, rfl, rfl, rfl, rfl, rfl⟩
  | [a, b, d], _ =>
    simp only [List.cons_append, List.nil_append, List.drop_succ_cons, List.drop_zero, List.take_succ_cons,
      List.take_zero, List.cons.injEq, and_true]
    constructor
    · rintro ⟨rfl, rfl, rfl, rfl, rfl, rfl, rfl⟩
      exact ⟨⟨rfl, rfl, rfl, rfl⟩, rfl, rfl, rfl⟩
    · rintro ⟨⟨rfl, rfl, rfl, rfl⟩, rfl, rfl, rfl⟩
      exact ⟨rfl, rfl, rfl, rfl, rfl, rfl, rfl⟩
  | a :: b :: d :: e :: rest, _ =>
    simp only [List.cons_append, List.nil_append, List.drop_succ_cons, List.drop_zero, List.take_succ_cons,
      List.take_zero, List.cons.injEq, and_true, List.append_assoc, List.append_cancel_left_eq]
    constructor
    · rintro ⟨rfl, rfl, rfl, rfl, rfl, rfl, rfl, rfl⟩
      exact ⟨⟨rfl, rfl, rfl, rfl⟩, rfl, rfl, rfl, rfl⟩
    · rintro ⟨⟨rfl, rfl, rfl, rfl⟩, rfl, rfl, rfl, rfl⟩
      exact ⟨rfl, rfl, rfl, rfl, rfl, rfl, rfl, rfl⟩

theorem header_eq_noHeader {length : Nat} (h : length ≤ maxPayloadLen) {seq : UInt8} :
    header length seq = noHeader ↔ length = 0 ∧ seq = 0 := by
  constructor
  · intro heq
    simp only [header, noHeader, List.cons.injEq, and_true] at heq
    obtain ⟨h0, h1, h2, hseq⟩ := heq
    have l0 : length.toUInt8.toNat = length % 256 := by simp
    have l1 : (length / 256).toUInt8.toNat = length / 256 % 256 := by simp
    have l2 : (length / 65536).toUInt8.toNat = length / 65536 % 256 := by simp
    rw [h0] at l0
    rw [h1] at l1
    rw [h2] at l2
    have hzero : (0 : UInt8).toNat = 0 := rfl
    have hmax : maxPayloadLen = 16777215 := rfl
    exact ⟨by omega, hseq⟩
  · rintro ⟨rfl, rfl⟩
    rfl

/-- The last two headers of a payload that fills a packet, `shift` bytes too far in front: the bytes are not those of
    the two packets. -/
theorem last_two_spoiled {front front' full rest : List UInt8} {offset shift remain : Nat} (hshift : 0 < shift)
    (hfront : front.length = offset + shift) (hfront' : front'.length = front.length)
    (hfull : full.length = maxPayloadLen) : (makePacketHeader c' remain
        ((makePacketHeader c maxPayloadLen (front ++ noHeader ++ full) offset).2 ++ noHeader ++ rest)
        (offset + (maxPayloadLen + 4))).2 ≠
      front' ++ (header maxPayloadLen c.seq ++ (full ++ (header remain c'.seq ++ rest))) := by
  intro heq
  have hmax : maxPayloadLen = 16777215 := rfl
  -- the bytes that are there, and those that should be
  let first := (makePacketHeader c maxPayloadLen (front ++ noHeader ++ full) offset).2
  have hfits : offset + 4 ≤ (front ++ noHeader ++ full).length := by
    simp only [List.length_append]
    omega
  have hfirst : first.length = front.length + 4 + maxPayloadLen := by
    show (makePacketHeader c maxPayloadLen _ offset).2.length = _
    rw [length_makePacketHeader _ _ hfits, List.length_append, List.length_append, hfull]
    rfl
  have hfits' : offset + (maxPayloadLen + 4) + 4 ≤ (first ++ noHeader ++ rest).length := by
    have hzeros : noHeader.length = 4 := rfl
    simp only [List.length_append]
    omega
  have hexpected : ∀ j, j < 4 →
      (front' ++ (header maxPayloadLen c.seq ++ (full ++ (header remain c'.seq ++ rest))))[front.length + j]? =
        (header maxPayloadLen c.seq)[j]? := by
    intro j hj
    rw [← hfront', List.getElem?_append_right (by omega), Nat.add_sub_cancel_left,
      List.getElem?_append_left (by rw [length_header]; omega)]
  have hexpected' : ∀ j, j < 4 →
      (front' ++ (header maxPayloadLen c.seq ++ (full ++ (header remain c'.seq ++ rest))))[first.length + j]? =
        (header remain c'.seq)[j]? := by
    intro j hj
    rw [List.getElem?_append_right (by omega), List.getElem?_append_right (by rw [length_header]; omega),
      List.getElem?_append_right (by rw [length_header]; omega), length_header,
      List.getElem?_append_left (by rw [length_header]; omega)]
    congr 1
    omega
  have hat : ∀ q : Nat, (makePacketHeader c' remain (first ++ noHeader ++ rest) (offset + (maxPayloadLen + 4))).2[q]? =
      (front' ++ (header maxPayloadLen c.seq ++ (full ++ (header remain c'.seq ++ rest))))[q]? :=
    fun q => congrArg (·[q]?) heq
  simp only [getElem?_makePacketHeader c' remain hfits'] at hat
  -- outside the last header, the place of the first one holds zeros
  have hzero : ∀ j, j < 4 → offset + 4 ≤ front.length + j → (first ++ noHeader ++ rest)[front.length + j]? = some 0 := by
    intro j hj hle
    rw [List.append_assoc, List.getElem?_append_left (by omega)]
    show (makePacketHeader c maxPayloadLen (front ++ noHeader ++ full) offset).2[front.length + j]? = _
    rw [getElem?_makePacketHeader c maxPayloadLen hfits, if_neg (by omega), if_neg (by omega),
      getElem?_noHeader front full hj]
  have hff : (header maxPayloadLen c.seq)[2]? = some 255 := rfl
  by_cases hfar : 4 ≤ shift
  · -- the last header is one of zeros
    have hlast : ∀ j, j < 4 → (header remain c'.seq)[j]? = some 0 := by
      intro j hj
      have hq := hat (first.length + j)
      rw [if_neg (by omega), if_neg (by omega), hexpected' j hj, getElem?_noHeader first rest hj] at hq
      exact hq.symm
    have hq := hat (front.length + 2)
    rw [hexpected 2 (by decide), hff, hzero 2 (by decide) (by omega)] at hq
    split_ifs at hq with h1 h2
    · cases Option.some.inj hq
    · have hover := hlast (front.length + 2 - (offset + (maxPayloadLen + 4))) (by omega)
      rw [hover] at hq
      cases Option.some.inj hq
    · cases Option.some.inj hq
  · by_cases hone : shift = 1
    · -- the first header covers three bytes of its place
      have h2 := hat (front.length + 2)
      have hcovered : (first ++ noHeader ++ rest)[front.length + 2]? = some c.seq := by
        rw [List.append_assoc, List.getElem?_append_left (by omega)]
        show (makePacketHeader c maxPayloadLen (front ++ noHeader ++ full) offset).2[front.length + 2]? = _
        rw [getElem?_makePacketHeader c maxPayloadLen hfits, if_neg (by omega), if_pos (by omega)]
        have hplace : front.length + 2 - offset = 3 := by omega
        rw [hplace]
        rfl
      rw [if_pos (by omega), hexpected 2 (by decide), hff, hcovered] at h2
      have h3 := hat (front.length + 3)
      rw [if_pos (by omega), hexpected 3 (by decide), hzero 3 (by decide) (by omega)] at h3
      have hseq : (header maxPayloadLen c.seq)[3]? = some c.seq := rfl
      rw [hseq, Option.some.inj h2] at h3
      cases Option.some.inj h3
    · have hq := hat (front.length + 2)
      rw [if_pos (by omega), hexpected 2 (by decide), hff, hzero 2 (by decide) (by omega)] at hq
      cases Option.some.inj hq

theorem length_putFull {item : List UInt8} {w : Writing} (hk : k < item.length / maxPayloadLen)
    (hfits : w.offset ≤ w.dst.length) : (putFull item w k).dst.length = w.dst.length + (maxPayloadLen + 4) := by
  have hzeros : noHeader.length = 4 := rfl
  have hlen : (w.dst ++ noHeader ++ (item.drop (k * maxPayloadLen)).take maxPayloadLen).length =
      w.dst.length + (maxPayloadLen + 4) := by
    rw [List.length_append, List.length_append, length_full hk]
    omega
  show (makePacketHeader w.codec maxPayloadLen _ w.offset).2.length = _
  rw [length_makePacketHeader _ _ (by rw [hlen]; omega), hlen]

theorem length_loop (item : List UInt8) (c : PacketCodec) {dst : List UInt8} {offset : Nat}
    (hoffset : offset ≤ dst.length) (hk : k ≤ item.length / maxPayloadLen) :
    ((List.range k).foldl (putFull item) ⟨c, dst, offset⟩).dst.length = dst.length + k * (maxPayloadLen + 4) := by
  induction k with
  | zero => simp
  | succ k ih =>
    have hlen := ih (Nat.le_of_succ_le hk)
    have hat := (loop_seq_offset item c dst offset k).2
    rw [List.range_succ, List.foldl_append, List.foldl_cons, List.foldl_nil, length_putFull hk (by omega), hlen,
      Nat.succ_mul]
    omega

theorem packetsOf_last_two {item : List UInt8} (hk : item.length / maxPayloadLen = k + 1) (s : UInt8) :
    packetsOf s (blocks maxPayloadLen item) = packetsOf s (fullPackets item k) ++
      (header maxPayloadLen (s + UInt8.ofNat k) ++ ((item.drop (k * maxPayloadLen)).take maxPayloadLen ++
        (header (item.length % maxPayloadLen) (s + UInt8.ofNat k + 1) ++ item.drop ((k + 1) * maxPayloadLen)))) := by
  have hremain : item.length % maxPayloadLen = (item.drop ((k + 1) * maxPayloadLen)).length := by
    rw [List.length_drop, Nat.mod_eq_sub_mul_div, hk, Nat.mul_comm]
  have hblocks : blocks maxPayloadLen item =
      fullPackets item k ++ ([(item.drop (k * maxPayloadLen)).take maxPayloadLen] ++
        [item.drop ((k + 1) * maxPayloadLen)]) := by
    rw [blocks_eq maxPayloadLen_pos, hk, ← List.append_assoc, ← fullPackets_succ]
    rfl
  have hlen : (fullPackets item k).length = k := by simp [fullPackets]
  rw [hblocks, packetsOf_append, hlen, List.singleton_append, packetsOf, packetsOf, packetsOf, ← hremain,
    length_full (by omega), List.append_nil]
  simp only [List.append_assoc]

/-- **At the front of a buffer that is not empty**: nothing is spoiled only if the payload is empty, the sequence number
    is zero, and so are the bytes in front. -/
theorem encode_nonempty (c : PacketCodec) (item : List UInt8) {dst : List UInt8} (hne : dst ≠ []) :
    (encodePacketOffset c item dst 0).2 = dst ++ packetsOf c.seq (blocks maxPayloadLen item) ↔
      item = [] ∧ c.seq = 0 ∧ (dst ++ noHeader).take 4 = noHeader := by
  cases hnum : item.length / maxPayloadLen with
  | zero =>
    have hlt : item.length < maxPayloadLen := (Nat.div_eq_zero_iff_lt maxPayloadLen_pos).mp hnum
    have hencode : (encodePacketOffset c item dst 0).2 =
        header item.length c.seq ++ (dst ++ noHeader ++ item).drop 4 := by
      show (makePacketHeader _ _ (_ ++ noHeader ++ item.drop (item.length / maxPayloadLen * maxPayloadLen)) _).2 = _
      rw [hnum, Nat.mod_eq_of_lt hlt, Nat.zero_mul, List.drop_zero]
      rfl
    rw [hencode, blocks_short hlt, packetsOf, packetsOf, List.append_nil,
      overwritten_front hne (length_header _ _) item, header_eq_noHeader (Nat.le_of_lt hlt), List.length_eq_zero_iff,
      and_assoc]
  | succ k =>
    constructor
    · intro heq
      have hk : k < item.length / maxPayloadLen := by omega
      obtain ⟨hcodec, hoffset⟩ := loop_seq_offset item c dst 0 k
      have hlength := length_loop item c (Nat.zero_le dst.length) (Nat.le_of_lt hk)
      have hfront : (dst ++ packetsOf c.seq (fullPackets item k)).length = dst.length + k * (maxPayloadLen + 4) := by
        have hat := congrArg Writing.offset (loop_append item c dst (Nat.le_of_lt hk))
        rw [(loop_seq_offset item c dst dst.length k).2] at hat
        exact hat.symm
      rw [packetsOf_last_two hnum, ← List.append_assoc dst] at heq
      have hencode : encodePacketOffset c item dst 0 =
          let w := (List.range k).foldl (putFull item) ⟨c, dst, 0⟩
          makePacketHeader { w.codec with seq := w.codec.seq + 1 } (item.length % maxPayloadLen)
            ((makePacketHeader w.codec maxPayloadLen
              (w.dst ++ noHeader ++ (item.drop (k * maxPayloadLen)).take maxPayloadLen) w.offset).2 ++ noHeader ++
                item.drop ((k + 1) * maxPayloadLen)) (w.offset + (maxPayloadLen + 4)) := by
        show makePacketHeader _ _ (_ ++ noHeader ++ item.drop (item.length / maxPayloadLen * maxPayloadLen)) _ = _
        rw [hnum, List.range_succ, List.foldl_append, List.foldl_cons, List.foldl_nil]
        rfl
      rw [hencode] at heq
      generalize (List.range k).foldl (putFull item) ⟨c, dst, 0⟩ = w at heq hcodec hoffset hlength
      have hseq : w.codec.seq = c.seq + UInt8.ofNat k := by rw [hcodec]
      rw [← hseq] at heq
      dsimp only at heq
      exact absurd heq <| last_two_spoiled (List.length_pos_of_ne_nil hne) (by omega) (hfront.trans hlength.symm) (length_full hk)
    · rintro ⟨rfl, -⟩
      cases hnum

/-! ## Runs of an encoder -/

/-- An encoder with its output buffer; `base` is what was in the buffer at first, `first` the sequence number the codec
    had, `sent` what was encoded since. -/
structure Sender where
  codec : PacketCodec
  dst : List UInt8
  base : List UInt8
  first : UInt8
  sent : List (List UInt8)

/-- A payload is encoded, or encoded at the length of the buffer. -/
inductive SendAct where
  | encode (data : List UInt8)
  | encodeOffset (data : List UInt8)

namespace Sender

def start (codec : PacketCodec) (dst : List UInt8) : Sender := ⟨codec, dst, dst, codec.seq, []⟩

def item (s : Sender) : SendAct → PacketSend
  | .encode data => .encode data
  | .encodeOffset data => .encodeOffset data s.dst.length

def payload : SendAct → List UInt8
  | .encode data => data
  | .encodeOffset data => data

def step (s : Sender) (a : SendAct) : Unit × Sender :=
  let out := Packets.encode s.codec (s.item a) s.dst
  ((), { s with codec := out.1, dst := out.2, sent := s.sent ++ [payload a] })

/-- What was in the buffer is still there, and behind it a reader finds what was sent. -/
def RoundTrips (s : Sender) : Prop := ∃ bytes, s.dst = s.base ++ bytes ∧ Reads s.first s.sent bytes

/-- `Encode` is harmless in an empty buffer, and where it writes four zeros over four zeros. -/
def Harmless (s : Sender) : SendAct → Prop
  | .encode data => s.dst = [] ∨ (data = [] ∧ s.codec.seq = 0 ∧ (s.dst ++ noHeader).take 4 = noHeader)
  | .encodeOffset _ => True

structure Framed (s : Sender) : Prop where
  dst : s.dst = s.base ++ framesOf s.first s.sent
  seq : s.codec.seq = s.first + UInt8.ofNat (s.sent.flatMap (blocks maxPayloadLen)).length

variable {s : Sender}

theorem roundTrips_iff : s.RoundTrips ↔ s.dst = s.base ++ framesOf s.first s.sent := by
  unfold RoundTrips
  constructor
  · rintro ⟨bytes, hdst, hreads⟩
    rw [hdst, reads_iff.mp hreads]
  · intro hdst
    exact ⟨_, hdst, reads_iff.mpr rfl⟩

theorem framed_start (codec : PacketCodec) (dst : List UInt8) : (start codec dst).Framed :=
  ⟨by simp [start, framesOf, packetsOf], by simp [start]⟩

theorem Framed.framesOf_append (h : s.Framed) (data : List UInt8) :
    s.base ++ framesOf s.first (s.sent ++ [data]) = s.dst ++ packetsOf s.codec.seq (blocks maxPayloadLen data) := by
  rw [framesOf, List.flatMap_append, List.flatMap_singleton, packetsOf_append, ← List.append_assoc, h.dst, h.seq]
  rfl

theorem encoded_eq (c : PacketCodec) (item dst : List UInt8) (offset : Nat) : (encodePacketOffset c item dst offset).1 =
      { c with seq := c.seq + UInt8.ofNat (blocks maxPayloadLen item).length } := by
  obtain ⟨hcodec, -⟩ := loop_seq_offset item c dst offset (item.length / maxPayloadLen)
  have hlen : (blocks maxPayloadLen item).length = item.length / maxPayloadLen + 1 := by
    rw [blocks_eq maxPayloadLen_pos]
    simp
  show ({ ((List.range (item.length / maxPayloadLen)).foldl (putFull item) ⟨c, dst, offset⟩).codec with
    seq := _ + 1 } : PacketCodec) = _
  rw [hcodec, hlen]
  dsimp only
  rw [ofNat_succ]

/-- **One payload is framed iff its step is harmless.** -/
theorem step_iff (h : s.Framed) (a : SendAct) : (s.step a).2.RoundTrips ↔ s.Harmless a := by
  rw [roundTrips_iff]
  show (Packets.encode s.codec (s.item a) s.dst).2 = s.base ++ framesOf s.first (s.sent ++ [payload a]) ↔ _
  rw [h.framesOf_append]
  cases a with
  | encode data =>
    show (encodePacketOffset s.codec data s.dst 0).2 = _ ↔ s.dst = [] ∨ _
    by_cases hempty : s.dst = []
    · have happend := encodePacketOffset_append s.codec data []
      rw [hempty]
      exact iff_of_true (congrArg Prod.snd happend) (.inl rfl)
    · rw [or_iff_right hempty]
      exact encode_nonempty s.codec data hempty
  | encodeOffset data =>
    exact iff_of_true (congrArg Prod.snd (encodePacketOffset_append s.codec data s.dst)) trivial

theorem Framed.step (h : s.Framed) {a : SendAct} (hok : s.Harmless a) : (s.step a).2.Framed := by
  refine ⟨roundTrips_iff.mp ((step_iff h a).mpr hok), ?_⟩
  have hseq : (Packets.encode s.codec (s.item a) s.dst).1.seq =
      s.codec.seq + UInt8.ofNat (blocks maxPayloadLen (payload a)).length := by
    cases a with
    | encode data => exact congrArg PacketCodec.seq (encoded_eq s.codec data s.dst 0)
    | encodeOffset data => exact congrArg PacketCodec.seq (encoded_eq s.codec data s.dst s.dst.length)
  show (Packets.encode s.codec (s.item a) s.dst).1.seq =
    s.first + UInt8.ofNat ((s.sent ++ [payload a]).flatMap (blocks maxPayloadLen)).length
  rw [hseq, h.seq, List.flatMap_append, List.flatMap_singleton, List.length_append, UInt8.ofNat_add, UInt8.add_assoc]

end Sender

/-- **Packet framing.**  A reader finds behind every step what was sent until then, iff every step is harmless: done at
    the length of the buffer, or in an empty one, or writing four zeros over four zeros. -/
theorem framing_iff (codec : PacketCodec) (dst : List UInt8) (acts : List SendAct) :
    (∀ e ∈ entries Sender.step (.start codec dst) acts, e.post.RoundTrips) ↔
      Meets Sender.step Sender.Harmless (.start codec dst) acts := by
  have hpost : (∀ e ∈ entries Sender.step (.start codec dst) acts, e.post.RoundTrips) ↔
      ∀ e ∈ entries Sender.step (.start codec dst) acts, (Sender.step e.pre e.act).2.RoundTrips := by
    refine forall₂_congr fun e he => ?_
    rw [(entry_eq he).2]
  rw [hpost]
  refine forall_entries_iff_meets Sender.Framed (fun s a hs => Sender.step_iff hs a) (fun s a hs hok => hs.step hok) ?_
  exact Sender.framed_start codec dst

/-- Two payloads of one byte: the header of the second one is written over that of the first. -/
theorem second_header_misplaced :
    ((entries Sender.step (.start .new []) [.encode [7], .encode [8, 9]]).map fun e => e.post.dst) =
        [[1, 0, 0, 0, 7], [2, 0, 0, 1, 7, 0, 0, 0, 0, 8, 9]] ∧
      ¬ ∀ e ∈ entries Sender.step (.start .new []) [.encode [7], .encode [8, 9]], e.post.RoundTrips := by
  refine ⟨by decide, fun h => ?_⟩
  have hlast := h _ (last_mem_entries Sender.step _ [.encode [7]] (.encode [8, 9]))
  have hfirst : (Sender.step (.start .new []) (.encode [7])).2.Framed := (Sender.framed_start _ _).step (.inl rfl)
  rcases (Sender.step_iff hfirst (.encode [8, 9])).mp hlast with hnil | ⟨hdata, -⟩
  · exact absurd hnil (by decide)
  · cases hdata

end DataNexus.Packets
